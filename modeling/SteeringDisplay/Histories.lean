import Mathlib.Data.List.Basic

set_option autoImplicit false

/-! # What a history of events says about its past -/
namespace SteeringDisplay.Histories

variable {ε : Type} {ev brk : ε → Prop} {P : List ε → Prop} {hist : List ε} {e : ε}

/-- There has been an event of `ev`, and none of `brk` after it. -/
def Since (ev brk : ε → Prop) (hist : List ε) : Prop :=
  ∃ before e after, hist = before ++ e :: after ∧ ev e ∧ ∀ o ∈ after, ¬ brk o

theorem Since.now (he : ev e) : Since ev brk (hist ++ [e]) :=
  ⟨hist, e, [], rfl, he, fun _ ho => absurd ho List.not_mem_nil⟩

theorem Since.later (h : Since ev brk hist) (he : ¬ brk e) : Since ev brk (hist ++ [e]) := by
  obtain ⟨before, o, after, rfl, ho, hafter⟩ := h
  refine ⟨before, o, after ++ [e], by simp, ho, fun o' ho' => ?_⟩
  rcases List.mem_append.mp ho' with hmem | hlast
  · exact hafter o' hmem
  · obtain rfl := List.mem_singleton.mp hlast
    exact he

/-- Whenever there is an event of `ev`, the history before it satisfies `P`. -/
def Whenever (ev : ε → Prop) (P : List ε → Prop) (hist : List ε) : Prop :=
  ∀ before e after, hist = before ++ e :: after → ev e → P before

theorem Whenever.nil : Whenever ev P [] := fun before e after h => absurd h (by simp)

theorem Whenever.snoc (h : Whenever ev P hist) (he : ev e → P hist) :
    Whenever ev P (hist ++ [e]) := by
  intro before o after hsplit ho
  rcases List.eq_nil_or_concat after with rfl | ⟨init, last, rfl⟩
  · obtain ⟨rfl, heq⟩ := List.append_inj' hsplit rfl
    obtain ⟨rfl, -⟩ := List.cons_eq_cons.mp heq
    exact he ho
  · have hshape : hist ++ [e] = (before ++ o :: init) ++ [last] := by simpa using hsplit
    obtain ⟨rfl, -⟩ := List.append_inj' hshape rfl
    exact h before o init rfl ho

theorem foldl_snoc (start events : List ε) :
    events.foldl (fun hist e => hist ++ [e]) start = start ++ events := by
  induction events generalizing start with
  | nil => exact (List.append_nil start).symm
  | cons e events ih => rw [List.foldl_cons, ih, List.append_assoc, List.singleton_append]

end SteeringDisplay.Histories
