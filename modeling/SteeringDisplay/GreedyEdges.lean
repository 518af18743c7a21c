import SteeringDisplay.DebounceWaveform

set_option autoImplicit false

/-!
# The accepted edges as a greedy subsequence
-/
namespace SteeringDisplay.GreedyEdges
open FirmwareInterface ButtonLoop DebounceWaveform

def lockedOut (last : ℤ) : List ℤ → List ℤ
  | [] => []
  | t :: ts => if t - last > debounceTimeUs then lockedOut t ts else t :: lockedOut last ts

def PastLockout (a c : ℤ) : Prop := a + debounceTimeUs < c

theorem debounceTimeUs_pos : 0 < debounceTimeUs := by decide

theorem lockout_perm (last : ℤ) (ts : List ℤ) :
    (lockout last ts ++ lockedOut last ts).Perm ts := by
  induction ts generalizing last with
  | nil => exact List.Perm.refl _
  | cons t ts ih =>
    rw [lockout, lockedOut]
    split_ifs
    · exact (ih t).cons t
    · exact List.perm_middle.trans ((ih last).cons t)

theorem lockout_sublist (last : ℤ) (ts : List ℤ) : (lockout last ts).Sublist ts := by
  induction ts generalizing last with
  | nil => exact List.Sublist.refl _
  | cons t ts ih =>
    rw [lockout]
    split_ifs
    · exact (ih t).cons_cons t
    · exact (ih last).cons t

theorem lockout_after (last : ℤ) (ts : List ℤ) : ∀ a ∈ lockout last ts, PastLockout last a := by
  have hpos := debounceTimeUs_pos
  induction ts generalizing last with
  | nil => simp [lockout]
  | cons t ts ih =>
    rw [lockout]
    split_ifs with hlate
    · intro a ha
      rcases List.mem_cons.mp ha with rfl | ha
      · unfold PastLockout
        omega
      · have hnext : t + debounceTimeUs < a := ih t a ha
        unfold PastLockout
        omega
    · exact ih last

theorem lockout_apart (last : ℤ) (ts : List ℤ) : (last :: lockout last ts).Pairwise PastLockout := by
  induction ts generalizing last with
  | nil => exact List.pairwise_singleton _ _
  | cons t ts ih =>
    refine List.pairwise_cons.mpr ⟨lockout_after last (t :: ts), ?_⟩
    rw [lockout]
    split_ifs
    · exact ih t
    · exact (List.pairwise_cons.mp (ih last)).2

theorem lockedOut_near {last : ℤ} {ts : List ℤ} (hsorted : ts.Pairwise (· ≤ ·))
    (hlast : ∀ t ∈ ts, last ≤ t) :
    ∀ t ∈ lockedOut last ts, ∃ a ∈ last :: lockout last ts, t - debounceTimeUs ≤ a ∧ a ≤ t := by
  induction ts generalizing last with
  | nil => simp [lockedOut]
  | cons u ts ih =>
    obtain ⟨hu, hrest⟩ := List.pairwise_cons.mp hsorted
    intro t ht
    rw [lockedOut] at ht
    rw [lockout]
    split_ifs at ht ⊢ with hlate
    · obtain ⟨a, ha, hnear⟩ := ih hrest hu t ht
      exact ⟨a, List.mem_cons_of_mem _ ha, hnear⟩
    · rcases List.mem_cons.mp ht with rfl | ht
      · have hle := hlast t (List.mem_cons_self ..)
        exact ⟨last, List.mem_cons_self .., by omega, hle⟩
      · exact ih hrest (fun t' ht' => hlast t' (List.mem_cons_of_mem _ ht')) t ht

def rejectedTimes (b : Button) (s : Buttons) : List Signal → List ℤ
  | [] => []
  | .edge b' now :: signals =>
    if b' = b ∧ ¬ Accepts now (s b) then now :: rejectedTimes b (receive s (.edge b' now)) signals
    else rejectedTimes b (receive s (.edge b' now)) signals
  | .clear b' :: signals => rejectedTimes b (receive s (.clear b')) signals

theorem rejectedTimes_eq_lockedOut (b : Button) (s : Buttons) (signals : List Signal) :
    rejectedTimes b s signals = lockedOut (s b).lastPressTimeUs (edgesOf b signals) := by
  induction signals generalizing s with
  | nil => rfl
  | cons signal signals ih =>
    cases signal with
    | clear b' =>
      rw [rejectedTimes, edgesOf, ih, lastPressTimeUs_clear]
    | edge b' now =>
      by_cases hb : b' = b
      · subst hb
        have hreceive : receive s (.edge b' now) b' = debounce now (s b') :=
          Function.update_self ..
        rw [rejectedTimes, edgesOf, if_pos rfl, lockedOut, ih, hreceive]
        unfold debounce
        by_cases hnow : Accepts now (s b')
        · have hlate : now - (s b').lastPressTimeUs > debounceTimeUs := hnow
          rw [if_neg (fun h => h.2 hnow), if_pos hnow, if_pos hlate]
        · have hearly : ¬ now - (s b').lastPressTimeUs > debounceTimeUs := hnow
          rw [if_pos ⟨rfl, hnow⟩, if_neg hnow, if_neg hearly]
      · have hreceive : receive s (.edge b' now) b = s b :=
          Function.update_of_ne (Ne.symm hb) ..
        rw [rejectedTimes, edgesOf, if_neg (fun h => hb h.1), if_neg hb, ih, hreceive]

def Signal.time? : Signal → Option ℤ
  | .edge _ now => some now
  | .clear _ => none

def Signal.edgeOf (b : Button) : Signal → Bool
  | .edge b' _ => b' = b
  | .clear _ => false

/-- Edges of both buttons as time goes on, with the clears of the loop between them. -/
structure EdgeTrain where
  signals : List Signal
  nonneg : ∀ t ∈ signals.filterMap Signal.time?, 0 ≤ t
  sorted : (signals.filterMap Signal.time?).Pairwise (· ≤ ·)

theorem edgesOf_sublist (b : Button) (signals : List Signal) :
    (edgesOf b signals).Sublist (signals.filterMap Signal.time?) := by
  induction signals with
  | nil => exact List.Sublist.refl _
  | cons signal signals ih =>
    cases signal with
    | clear b' => exact ih
    | edge b' now =>
      change (edgesOf b (.edge b' now :: signals)).Sublist
        (now :: signals.filterMap Signal.time?)
      rw [edgesOf]
      split_ifs
      · exact ih.cons_cons now
      · exact ih.cons now

theorem edgesOf_filter (b : Button) (signals : List Signal) :
    edgesOf b (signals.filter (Signal.edgeOf b)) = edgesOf b signals := by
  induction signals with
  | nil => rfl
  | cons signal signals ih =>
    cases signal with
    | clear b' => exact ih
    | edge b' now =>
      by_cases hb : b' = b
      · rw [List.filter_cons_of_pos (by simpa [Signal.edgeOf] using hb), edgesOf, edgesOf,
          if_pos hb, if_pos hb, ih]
      · rw [List.filter_cons_of_neg (by simpa [Signal.edgeOf] using hb), edgesOf, if_neg hb, ih]

/-- No edge that a handler rejects could have been accepted beside those it accepts. -/
theorem greedy_edges (b : Button) (train : EdgeTrain) :
    let accepted := acceptedTimes b .initial train.signals
    let rejected := rejectedTimes b .initial train.signals
    (accepted ++ rejected).Perm (edgesOf b train.signals) ∧
      accepted.Sublist (edgesOf b train.signals) ∧
      (0 :: accepted).Pairwise PastLockout ∧
      (∀ t ∈ rejected, ∃ a ∈ 0 :: accepted, t - debounceTimeUs ≤ a ∧ a ≤ t) ∧
      (∀ t ∈ rejected, ∃ a ∈ 0 :: accepted, ¬ PastLockout a t ∧ ¬ PastLockout t a) ∧
      acceptedTimes b .initial (train.signals.filter (Signal.edgeOf b)) = accepted := by
  have hsub := edgesOf_sublist b train.signals
  have hnear := lockedOut_near (train.sorted.sublist hsub)
    (fun t ht => train.nonneg t (hsub.subset ht))
  rw [acceptedTimes_eq_lockout, rejectedTimes_eq_lockedOut, acceptedTimes_eq_lockout,
    edgesOf_filter]
  refine ⟨lockout_perm _ _, lockout_sublist _ _, lockout_apart _ _, hnear, fun t ht => ?_, rfl⟩
  obtain ⟨a, ha, hlow, hhigh⟩ := hnear t ht
  have hpos := debounceTimeUs_pos
  refine ⟨a, ha, ?_, ?_⟩
  · unfold PastLockout
    omega
  · unfold PastLockout
    omega

/-- Both buttons bounce, and an edge comes exactly 200 ms after an accepted one. -/
def bouncingTrain : EdgeTrain where
  signals := [.edge .mode 200000, .edge .mode 200001, .edge .submode 200300, .edge .mode 200900,
    .edge .submode 201000, .clear .mode, .edge .mode 400001, .edge .mode 400002, .clear .submode]
  nonneg := by decide
  sorted := by decide

theorem greedy_edges_bouncing :
    let accepted := acceptedTimes .mode .initial bouncingTrain.signals
    let rejected := rejectedTimes .mode .initial bouncingTrain.signals
    accepted = [200001, 400002] ∧ rejected = [200000, 200900, 400001] ∧
      (0 :: accepted).Pairwise PastLockout ∧
      ∀ t ∈ rejected, ∃ a ∈ 0 :: accepted, ¬ PastLockout a t ∧ ¬ PastLockout t a := by
  obtain ⟨-, -, hpairwise, -, hmaximal, -⟩ := greedy_edges .mode bouncingTrain
  exact ⟨by decide, by decide, hpairwise, hmaximal⟩

end SteeringDisplay.GreedyEdges
