import SteeringDisplay.ButtonLoop
import Mathlib.Data.List.Chain

set_option autoImplicit false

/-!
# The debounce lockout on a bouncing contact

The handler of a button sees the falling edges of its contact. Which of them it
accepts depends on their times alone, whatever the loop and the other button do.
-/
namespace SteeringDisplay.DebounceWaveform
open FirmwareInterface ButtonLoop

/-- The times that are later than the last accepted one by more than the lockout. -/
def lockout (last : ℤ) : List ℤ → List ℤ
  | [] => []
  | t :: ts => if t - last > debounceTimeUs then t :: lockout t ts else lockout last ts

theorem lockout_ignored {last : ℤ} {ts us : List ℤ} (h : ∀ t ∈ ts, t ≤ last + debounceTimeUs) :
    lockout last (ts ++ us) = lockout last us := by
  induction ts with
  | nil => rfl
  | cons t ts ih =>
    have ht := h t (List.mem_cons_self ..)
    rw [List.cons_append, lockout, if_neg (by omega)]
    exact ih (fun t' ht' => h t' (List.mem_cons_of_mem _ ht'))

/-- Of edges that lie closer together than the lockout only the first late one is accepted. -/
theorem lockout_burst {last release bounce : ℤ} {ts us : List ℤ}
    (hbounce : bounce < debounceTimeUs)
    (h : ∀ t ∈ ts, release ≤ t ∧ t ≤ release + bounce) :
    lockout last (ts ++ us) =
      (ts.find? (last + debounceTimeUs < ·)).toList ++
        lockout ((ts.find? (last + debounceTimeUs < ·)).getD last) us := by
  induction ts with
  | nil => rfl
  | cons t ts ih =>
    obtain ⟨hlow, _⟩ := h t (List.mem_cons_self ..)
    have hrest : ∀ t' ∈ ts, release ≤ t' ∧ t' ≤ release + bounce := fun t' ht' =>
      h t' (List.mem_cons_of_mem _ ht')
    by_cases hlate : last + debounceTimeUs < t
    · have hfind : (t :: ts).find? (last + debounceTimeUs < ·) = some t :=
        List.find?_cons_of_pos (by simpa using hlate)
      have hignored : ∀ t' ∈ ts, t' ≤ t + debounceTimeUs := by
        intro t' ht'
        obtain ⟨_, hhigh⟩ := hrest t' ht'
        omega
      rw [hfind, List.cons_append, lockout, if_pos (by omega), lockout_ignored hignored]
      rfl
    · have hfind : (t :: ts).find? (last + debounceTimeUs < ·) =
          ts.find? (last + debounceTimeUs < ·) := List.find?_cons_of_neg (by simpa using hlate)
      rw [hfind, List.cons_append, lockout, if_neg (by omega)]
      exact ih hrest

/-- What reaches the flags: falling edges of both buttons, and the clears of the loop. -/
inductive Signal where
  | edge (b : Button) (now : ℤ)
  | clear (b : Button)

def receive (s : Buttons) : Signal → Buttons
  | .edge b now => controllerIsr b now s
  | .clear b => Function.update s b { s b with pressed := false }

def edgesOf (b : Button) : List Signal → List ℤ
  | [] => []
  | .edge b' now :: signals => if b' = b then now :: edgesOf b signals else edgesOf b signals
  | .clear _ :: signals => edgesOf b signals

def acceptedTimes (b : Button) (s : Buttons) : List Signal → List ℤ
  | [] => []
  | .edge b' now :: signals =>
    if b' = b ∧ Accepts now (s b) then now :: acceptedTimes b (receive s (.edge b' now)) signals
    else acceptedTimes b (receive s (.edge b' now)) signals
  | .clear b' :: signals => acceptedTimes b (receive s (.clear b')) signals

theorem lastPressTimeUs_clear (s : Buttons) (b b' : Button) :
    (receive s (.clear b') b).lastPressTimeUs = (s b).lastPressTimeUs := by
  change (Function.update s b' { s b' with pressed := false } b).lastPressTimeUs = _
  by_cases hb : b = b'
  · subst hb
    rw [Function.update_self]
  · rw [Function.update_of_ne hb]

theorem acceptedTimes_eq_lockout (b : Button) (s : Buttons) (signals : List Signal) :
    acceptedTimes b s signals = lockout (s b).lastPressTimeUs (edgesOf b signals) := by
  induction signals generalizing s with
  | nil => rfl
  | cons signal signals ih =>
    cases signal with
    | clear b' =>
      rw [acceptedTimes, edgesOf, ih, lastPressTimeUs_clear]
    | edge b' now =>
      by_cases hb : b' = b
      · subst hb
        have hreceive : receive s (.edge b' now) b' = debounce now (s b') :=
          Function.update_self ..
        rw [acceptedTimes, edgesOf, if_pos rfl, lockout, ih, hreceive]
        unfold debounce
        by_cases hnow : Accepts now (s b')
        · have hlate : now - (s b').lastPressTimeUs > debounceTimeUs := hnow
          rw [if_pos ⟨rfl, hnow⟩, if_pos hnow, if_pos hlate]
        · have hearly : ¬ now - (s b').lastPressTimeUs > debounceTimeUs := hnow
          rw [if_neg (fun h => hnow h.2), if_neg hnow, if_neg hearly]
      · have hreceive : receive s (.edge b' now) b = s b :=
          Function.update_of_ne (Ne.symm hb) ..
        rw [acceptedTimes, edgesOf, if_neg (fun h => hb h.1), if_neg hb, ih, hreceive]

/-- One press and its release. The contact bounces for at most `bounce` after each. -/
structure Cycle (bounce : ℤ) where
  press : ℤ
  pressEdges : List ℤ
  release : ℤ
  releaseEdges : List ℤ
  held : press + bounce < release
  near_press : ∀ t ∈ pressEdges, press ≤ t ∧ t ≤ press + bounce
  near_release : ∀ t ∈ releaseEdges, release ≤ t ∧ t ≤ release + bounce
  press_sorted : pressEdges.Pairwise (· ≤ ·)
  release_sorted : releaseEdges.Pairwise (· ≤ ·)

variable {bounce : ℤ}

def Cycle.edges (c : Cycle bounce) : List ℤ := c.press :: (c.pressEdges ++ c.releaseEdges)

def Cycle.late (c : Cycle bounce) : Option ℤ :=
  c.releaseEdges.find? (c.press + debounceTimeUs < ·)

/-- Well separated presses. -/
structure Waveform (bounce : ℤ) where
  cycles : List (Cycle bounce)
  bounce_nonneg : 0 ≤ bounce
  bounce_lt : bounce < debounceTimeUs
  first : ∀ c ∈ cycles.head?, debounceTimeUs < c.press
  separated : cycles.IsChain fun c c' => c.release + bounce + debounceTimeUs < c'.press

def Waveform.edges (w : Waveform bounce) : List ℤ := w.cycles.flatMap Cycle.edges

theorem Cycle.accepted (c : Cycle bounce) (hbounce : bounce < debounceTimeUs) {last : ℤ}
    (hlast : last + debounceTimeUs < c.press) (us : List ℤ) :
    lockout last (c.edges ++ us) =
      (c.press :: c.late.toList) ++ lockout (c.late.getD c.press) us := by
  have hpress : ∀ t ∈ c.pressEdges, t ≤ c.press + debounceTimeUs := by
    intro t ht
    obtain ⟨_, hhigh⟩ := c.near_press t ht
    omega
  unfold Cycle.edges Cycle.late
  rw [List.cons_append, lockout, if_pos (by omega), List.append_assoc, lockout_ignored hpress,
    lockout_burst hbounce c.near_release]
  rfl

theorem Cycle.last_accepted_le (c : Cycle bounce) (hbounce : 0 ≤ bounce) :
    c.late.getD c.press ≤ c.release + bounce := by
  have hheld := c.held
  cases hlate : c.late with
  | none =>
    change c.press ≤ c.release + bounce
    omega
  | some t => exact (c.near_release t (List.mem_of_find?_eq_some hlate)).2

theorem lockout_cycles (hnonneg : 0 ≤ bounce) (hbounce : bounce < debounceTimeUs)
    {cycles : List (Cycle bounce)} {last : ℤ}
    (hfirst : ∀ c ∈ cycles.head?, last + debounceTimeUs < c.press)
    (hchain : cycles.IsChain fun c c' => c.release + bounce + debounceTimeUs < c'.press) :
    lockout last (cycles.flatMap Cycle.edges) =
      cycles.flatMap fun c => c.press :: c.late.toList := by
  induction cycles generalizing last with
  | nil => rfl
  | cons c cycles ih =>
    have hlast := c.last_accepted_le hnonneg
    have hnext : ∀ c' ∈ cycles.head?, c.late.getD c.press + debounceTimeUs < c'.press := by
      intro c' hc'
      have hsep := (List.isChain_cons.mp hchain).1 c' hc'
      omega
    rw [List.flatMap_cons, List.flatMap_cons, c.accepted hbounce (hfirst c rfl),
      ih hnext (List.isChain_cons.mp hchain).2]

theorem late_eq_none (c : Cycle bounce) :
    c.late = none ↔ ∀ t ∈ c.releaseEdges, t ≤ c.press + debounceTimeUs := by
  unfold Cycle.late
  rw [List.find?_eq_none]
  simp

theorem flatMap_late_iff (cycles : List (Cycle bounce)) :
    (cycles.flatMap fun c => c.press :: c.late.toList) = cycles.map Cycle.press ↔
      ∀ c ∈ cycles, c.late = none := by
  induction cycles with
  | nil => simp
  | cons c cycles ih =>
    rw [List.flatMap_cons, List.map_cons, List.cons_append, List.cons_inj_right]
    constructor
    · intro h
      have hlength : ∀ cs : List (Cycle bounce),
          cs.length ≤ (cs.flatMap fun c => c.press :: c.late.toList).length := by
        intro cs
        induction cs with
        | nil => exact Nat.le_refl 0
        | cons c cs ihc =>
          rw [List.flatMap_cons, List.length_append, List.length_cons, List.length_cons]
          omega
      have hnone : c.late = none := by
        have hle := hlength cycles
        have hsame := congrArg List.length h
        rw [List.length_append, List.length_map] at hsame
        cases hlate : c.late with
        | none => rfl
        | some t =>
          rw [hlate] at hsame
          simp only [Option.toList_some, List.length_singleton] at hsame
          omega
      rw [hnone] at h
      intro c' hc'
      rcases List.mem_cons.mp hc' with rfl | hc'
      · exact hnone
      · exact ih.mp h c' hc'
    · intro h
      rw [h c (List.mem_cons_self ..)]
      exact ih.mpr (fun c' hc' => h c' (List.mem_cons_of_mem _ hc'))

theorem accepted_presses (b : Button) (w : Waveform bounce) (signals : List Signal)
    (hedges : edgesOf b signals = w.edges) :
    acceptedTimes b .initial signals =
        w.cycles.flatMap (fun c => c.press :: c.late.toList) ∧
      (acceptedTimes b .initial signals = w.cycles.map Cycle.press ↔
        ∀ c ∈ w.cycles, ∀ t ∈ c.releaseEdges, t ≤ c.press + debounceTimeUs) := by
  have hall : acceptedTimes b .initial signals =
      w.cycles.flatMap (fun c => c.press :: c.late.toList) := by
    rw [acceptedTimes_eq_lockout, hedges]
    refine lockout_cycles w.bounce_nonneg w.bounce_lt (fun c hc => ?_) w.separated
    have hfirst := w.first c hc
    change (0 : ℤ) + debounceTimeUs < c.press
    omega
  refine ⟨hall, ?_⟩
  rw [hall, flatMap_late_iff]
  exact forall₂_congr fun c _ => late_eq_none c

/-- A press held for 0.7 s whose release bounces once, 0.5 ms after it. -/
def longPress : Cycle 1000 where
  press := 300000
  pressEdges := [300200]
  release := 1000000
  releaseEdges := [1000500]
  held := by decide
  near_press := by decide
  near_release := by decide
  press_sorted := by decide
  release_sorted := by decide

def longPressWaveform : Waveform 1000 where
  cycles := [longPress]
  bounce_nonneg := by decide
  bounce_lt := by decide
  first := by decide
  separated := by decide

def longPressSignals : List Signal :=
  [.edge .mode 300000, .edge .mode 300200, .clear .mode, .edge .mode 1000500]

theorem longPress_accepted :
    acceptedTimes .mode .initial longPressSignals = [300000, 1000500] := by
  obtain ⟨hall, _⟩ := accepted_presses .mode longPressWaveform longPressSignals (by decide)
  rw [hall]
  decide

theorem release_bounce_accepted :
    edgesOf .mode longPressSignals = longPressWaveform.edges ∧
      acceptedTimes .mode .initial longPressSignals ≠ longPressWaveform.cycles.map Cycle.press := by
  decide

end SteeringDisplay.DebounceWaveform
