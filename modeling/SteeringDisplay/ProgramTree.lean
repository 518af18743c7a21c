import Mathlib.Tactic.Common

set_option autoImplicit false

/-!
# Programs as trees of operations

A program asks its environment for one operation at a time and continues with
the answer. The tree says nothing about what an operation does: a handler gives
the meaning on a state, so that one program can be run on several machines.
-/
namespace SteeringDisplay.ProgramTree

/-- The operations a program may ask for, and the type of each one's answer. -/
structure Signature where
  Op : Type
  Res : Op → Type

inductive Prog (S : Signature) (α : Type) where
  | ret (a : α)
  | op (o : S.Op) (k : S.Res o → Prog S α)

variable {S : Signature} {α β σ : Type}

namespace Prog

def bind (p : Prog S α) (f : α → Prog S β) : Prog S β :=
  match p with
  | .ret a => f a
  | .op o k => .op o (fun r => (k r).bind f)

instance : Monad (Prog S) where
  pure := .ret
  bind := bind

theorem bind_ret (p : Prog S α) : p.bind .ret = p := by
  induction p with
  | ret a => rfl
  | op o k ih => exact congrArg (Prog.op o) (funext ih)

theorem bind_bind {γ : Type} (p : Prog S α) (f : α → Prog S β) (g : β → Prog S γ) :
    (p.bind f).bind g = p.bind (fun a => (f a).bind g) := by
  induction p with
  | ret a => rfl
  | op o k ih => exact congrArg (Prog.op o) (funext ih)

instance : LawfulMonad (Prog S) :=
  LawfulMonad.mk' _ bind_ret (fun _ _ => rfl) bind_bind

end Prog

def perform (o : S.Op) : Prog S (S.Res o) := .op o .ret

abbrev Handler (S : Signature) (σ : Type) := (o : S.Op) → σ → S.Res o × σ

def run (h : Handler S σ) : Prog S α → σ → α × σ
  | .ret a, s => (a, s)
  | .op o k, s => run h (k (h o s).1) (h o s).2

section Run
variable (h : Handler S σ)

@[simp] theorem run_pure (a : α) (s : σ) : run h (pure a : Prog S α) s = (a, s) := rfl

@[simp] theorem run_perform (o : S.Op) (s : σ) : run h (perform o) s = h o s := rfl

@[simp] theorem run_bind (p : Prog S α) (f : α → Prog S β) (s : σ) :
    run h (p >>= f) s = run h (f (run h p s).1) (run h p s).2 := by
  induction p generalizing s with
  | ret a => rfl
  | op o k ih => exact ih _ _

def finish (p : Prog S α) (s : σ) : σ := (run h p s).2

theorem finish_eq (p : Prog S α) (s : σ) : finish h p s = (run h p s).2 := rfl

@[simp] theorem finish_pure (a : α) (s : σ) : finish h (pure a : Prog S α) s = s := rfl

@[simp] theorem finish_bind (p : Prog S α) (f : α → Prog S β) (s : σ) :
    finish h (p >>= f) s = finish h (f (run h p s).1) (finish h p s) := by
  unfold finish
  rw [run_bind]

def trace : Prog S α → σ → List S.Op
  | .ret _, _ => []
  | .op o k, s => o :: trace (k (h o s).1) (h o s).2

@[simp] theorem trace_bind (p : Prog S α) (f : α → Prog S β) (s : σ) :
    trace h (p >>= f) s =
      trace h p s ++ trace h (f (run h p s).1) (run h p s).2 := by
  induction p generalizing s with
  | ret a => rfl
  | op o k ih => exact congrArg (o :: ·) (ih _ _)

theorem run_foldl_trace {step : σ → S.Op → σ} (hstep : ∀ o s, (h o s).2 = step s o)
    (p : Prog S α) (s : σ) : (run h p s).2 = (trace h p s).foldl step s := by
  induction p generalizing s with
  | ret a => rfl
  | op o k ih =>
    change (run h (k _) (h o s).2).2 = (trace h (k _) (h o s).2).foldl step (step s o)
    rw [ih, hstep]

/-- The runs of a handler that does on a view of its state what another one does. -/
theorem run_view {τ : Type} {g : Handler S τ} (view : σ → τ)
    (hg : ∀ o s, (h o s).1 = (g o (view s)).1 ∧ view (h o s).2 = (g o (view s)).2)
    (p : Prog S α) (s : σ) :
    (run h p s).1 = (run g p (view s)).1 ∧ view (run h p s).2 = (run g p (view s)).2 ∧
      trace h p s = trace g p (view s) := by
  induction p generalizing s with
  | ret a => exact ⟨rfl, rfl, rfl⟩
  | op o k ih =>
    obtain ⟨hres, hview⟩ := hg o s
    obtain ⟨hans, hend, htrace⟩ := ih (h o s).1 (h o s).2
    change (run h (k (h o s).1) (h o s).2).1 = (run g (k (g o (view s)).1) (g o (view s)).2).1 ∧
      view (run h (k (h o s).1) (h o s).2).2 =
        (run g (k (g o (view s)).1) (g o (view s)).2).2 ∧
      o :: trace h (k (h o s).1) (h o s).2 =
        o :: trace g (k (g o (view s)).1) (g o (view s)).2
    rw [← hres, ← hview]
    exact ⟨hans, hend, congrArg (o :: ·) htrace⟩

def monitored {μ : Type} (step : μ → S.Op → μ) : Handler S (σ × μ) := fun o s =>
  ((h o s.1).1, (h o s.1).2, step s.2 o)

theorem run_monitored {μ : Type} (step : μ → S.Op → μ) (p : Prog S α) (s : σ) (m : μ) :
    run (monitored h step) p (s, m) =
      ((run h p s).1, (run h p s).2, (trace h p s).foldl step m) := by
  induction p generalizing s m with
  | ret a => rfl
  | op o k ih => exact ih _ _ _

end Run

/-- Every operation the program can ask for, whatever the answers, is in `D`. -/
def Only (D : S.Op → Prop) : Prog S α → Prop
  | .ret _ => True
  | .op o k => D o ∧ ∀ r, Only D (k r)

section Footprint
variable {D E : S.Op → Prop}

@[simp] theorem only_pure (a : α) : Only D (pure a : Prog S α) := trivial

@[simp] theorem only_perform (o : S.Op) : Only D (perform o) ↔ D o :=
  ⟨fun h => h.1, fun h => ⟨h, fun _ => trivial⟩⟩

theorem Only.bind {p : Prog S α} {f : α → Prog S β} (hp : Only D p)
    (hf : ∀ a, Only D (f a)) : Only D (p >>= f) := by
  induction p with
  | ret a => exact hf a
  | op o k ih => exact ⟨hp.1, fun r => ih r (hp.2 r)⟩

theorem Only.of_forall (hD : ∀ o, D o) {p : Prog S α} : Only D p := by
  induction p with
  | ret a => trivial
  | op o k ih => exact ⟨hD o, fun r => ih r⟩

theorem Only.mono {p : Prog S α} (hp : Only D p) (hDE : ∀ o, D o → E o) : Only E p := by
  induction p with
  | ret a => trivial
  | op o k ih => exact ⟨hDE o hp.1, fun r => ih r (hp.2 r)⟩

theorem Only.forM (xs : List α) (f : α → Prog S PUnit) (hf : ∀ x ∈ xs, Only D (f x)) :
    Only D (xs.forM f) := by
  induction xs with
  | nil => trivial
  | cons x xs ih =>
    exact Only.bind (hf x (by simp)) (fun _ => ih (fun y hy => hf y (by simp [hy])))

theorem Only.trace {p : Prog S α} (hp : Only D p) (h : Handler S σ) (s : σ) :
    ∀ o ∈ trace h p s, D o := by
  induction p generalizing s with
  | ret a => exact fun o ho => absurd ho List.not_mem_nil
  | op o k ih =>
    intro o' ho'
    rcases List.mem_cons.mp ho' with rfl | ho'
    · exact hp.1
    · exact ih _ (hp.2 _) _ o' ho'

theorem run_view_eq {γ : Type} {h : Handler S σ} {p : Prog S α} (view : σ → γ)
    (hp : Only D p) (hD : ∀ o s, D o → view (h o s).2 = view s) (s : σ) :
    view (run h p s).2 = view s := by
  induction p generalizing s with
  | ret a => rfl
  | op o k ih => exact (ih _ (hp.2 _) _).trans (hD o s hp.1)

/-- Two handlers that keep a relation on the footprint of a program run it alike. -/
theorem Only.related {τ : Type} {h : Handler S σ} {g : Handler S τ} {R : σ → τ → Prop}
    (hR : ∀ o s t, D o → R s t → (h o s).1 = (g o t).1 ∧ R (h o s).2 (g o t).2)
    {p : Prog S α} (hp : Only D p) {s : σ} {t : τ} (hst : R s t) :
    (run h p s).1 = (run g p t).1 ∧ R (run h p s).2 (run g p t).2 := by
  induction p generalizing s t with
  | ret a => exact ⟨rfl, hst⟩
  | op o k ih =>
    obtain ⟨hans, hnext⟩ := hR o s t hp.1 hst
    have hrest := ih (h o s).1 (hp.2 _) hnext
    change (run h (k (h o s).1) (h o s).2).1 = (run g (k (g o t).1) (g o t).2).1 ∧
      R (run h (k (h o s).1) (h o s).2).2 (run g (k (g o t).1) (g o t).2).2
    rw [← hans]
    exact hrest

end Footprint

def Hoare (h : Handler S σ) (P : σ → Prop) (p : Prog S α) (Q : α → σ → Prop) : Prop :=
  ∀ s, P s → Q (run h p s).1 (run h p s).2

section HoareRules
variable {h : Handler S σ} {P P' : σ → Prop} {Q : α → σ → Prop} {R : β → σ → Prop}

theorem Hoare.perform {o : S.Op} {Q : S.Res o → σ → Prop}
    (ho : ∀ s, P s → Q (h o s).1 (h o s).2) : Hoare h P (perform o) Q := ho

theorem Hoare.pure {a : α} (ha : ∀ s, P s → Q a s) : Hoare h P (pure a) Q := ha

theorem Hoare.bind {p : Prog S α} {f : α → Prog S β} (hp : Hoare h P p Q)
    (hf : ∀ a, Hoare h (Q a) (f a) R) : Hoare h P (p >>= f) R := by
  intro s hs
  rw [run_bind]
  exact hf _ _ (hp s hs)

theorem Hoare.seq {p : Prog S α} {q : Prog S β} (hp : Hoare h P p (fun _ => P'))
    (hq : Hoare h P' q R) : Hoare h P (p >>= fun _ => q) R :=
  hp.bind (fun _ => hq)

theorem Hoare.conseq {Q' : α → σ → Prop} {p : Prog S α} (hp : Hoare h P p Q)
    (hP : ∀ s, P' s → P s) (hQ : ∀ a s, Q a s → Q' a s) : Hoare h P' p Q' :=
  fun s hs => hQ _ _ (hp s (hP s hs))

theorem Hoare.forM (xs : List α) (f : α → Prog S PUnit)
    (hf : ∀ x ∈ xs, Hoare h P (f x) (fun _ => P)) : Hoare h P (xs.forM f) (fun _ => P) := by
  induction xs with
  | nil => exact fun _ hs => hs
  | cons x xs ih =>
    exact (hf x (by simp)).seq (ih (fun y hy => hf y (by simp [hy])))

theorem Hoare.of_only {D : S.Op → Prop} {p : Prog S α} (hp : Only D p)
    (hD : ∀ o s, D o → P s → P (h o s).2) : Hoare h P p (fun _ => P) := by
  induction p with
  | ret a => exact fun _ hs => hs
  | op o k ih => exact fun s hs => ih _ (hp.2 _) _ (hD o s hp.1 hs)

theorem Hoare.of_step {p : Prog S α} (hP : ∀ o s, P s → P (h o s).2) :
    Hoare h P p (fun _ => P) := by
  induction p with
  | ret a => exact fun _ hs => hs
  | op o k ih => exact fun s hs => ih _ _ (hP o s hs)

theorem Hoare.finish {p : Prog S α} (hp : Hoare h P p fun _ => P') {s : σ} (hs : P s) :
    P' (finish h p s) := hp s hs

end HoareRules

/-- From related states the program gives equal answers, so both runs take the
    same path, and it ends in states related by `R'`. -/
def Coupled (h : Handler S σ) (R : σ → σ → Prop) (p : Prog S α) (R' : σ → σ → Prop) : Prop :=
  ∀ s t, R s t → (run h p s).1 = (run h p t).1 ∧ R' (run h p s).2 (run h p t).2

section CoupledRules
variable {h : Handler S σ} {R R' R'' : σ → σ → Prop}

theorem Coupled.perform {o : S.Op}
    (ho : ∀ s t, R s t → (h o s).1 = (h o t).1 ∧ R' (h o s).2 (h o t).2) :
    Coupled h R (perform o) R' := ho

theorem Coupled.pure (a : α) : Coupled h R (pure a) R := fun _ _ hst => ⟨rfl, hst⟩

theorem Coupled.bind {p : Prog S α} {f : α → Prog S β} (hp : Coupled h R p R')
    (hf : ∀ a, Coupled h R' (f a) R'') : Coupled h R (p >>= f) R'' := by
  intro s t hst
  obtain ⟨heq, hst'⟩ := hp s t hst
  rw [run_bind, run_bind, heq]
  exact hf _ _ _ hst'

theorem Coupled.seq {p : Prog S α} {q : Prog S β} (hp : Coupled h R p R')
    (hq : Coupled h R' q R'') : Coupled h R (p >>= fun _ => q) R'' :=
  hp.bind (fun _ => hq)

theorem Coupled.conseq {R₁ R₂ : σ → σ → Prop} {p : Prog S α} (hp : Coupled h R p R')
    (hR : ∀ s t, R₁ s t → R s t) (hR' : ∀ s t, R' s t → R₂ s t) : Coupled h R₁ p R₂ :=
  fun s t hst => ⟨(hp s t (hR s t hst)).1, hR' _ _ (hp s t (hR s t hst)).2⟩

theorem Coupled.forM (xs : List α) (f : α → Prog S PUnit)
    (hf : ∀ x ∈ xs, Coupled h R (f x) R) : Coupled h R (xs.forM f) R := by
  induction xs with
  | nil => exact Coupled.pure _
  | cons x xs ih =>
    exact (hf x (by simp)).seq (ih (fun y hy => hf y (by simp [hy])))

theorem Coupled.finish {p : Prog S α} (hp : Coupled h R p R') {s t : σ} (hst : R s t) :
    R' (finish h p s) (finish h p t) := (hp s t hst).2

end CoupledRules

end SteeringDisplay.ProgramTree
