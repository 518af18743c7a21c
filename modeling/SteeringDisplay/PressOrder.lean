import SteeringDisplay.FlagHandshake
import Mathlib.Data.List.Count
import Mathlib.Data.List.Perm.Basic

set_option autoImplicit false

/-!
# The order in which presses take effect

The loop serves the flags in the order in which it clears them, and looks at the
mode flag first.
-/
namespace SteeringDisplay.PressOrder
open ProgramTree ProgramInterference FirmwareInterface DisplayScreens ButtonLoop
open Footprints LoopWorld LoopPasses LoopRuns FlagHandshake

def acceptedButton : Event → Option Button
  | .accepted b => some b
  | _ => none

def clearedButton : Event → Option Button
  | .cleared b => some b
  | _ => none

def acceptOrder (log : List Event) : List Button := log.filterMap acceptedButton

/-- The presses in the order in which the loop turns to them. -/
def clearOrder (log : List Event) : List Button := log.filterMap clearedButton

def duringNext : Screen → Screen
  | .mainNoLaps => .mainLaps
  | .mainLaps => .debugRtd
  | .debugRtd => .mainNoLaps
  | S => S

def applyPress (S : Screen) : Button → Screen
  | .mode => modeNext S
  | .submode => if S = .debugNoRtd then S else duringNext S

def ownFlagClear (b : Button) (w : World) : Prop := (w.buttons b).pressed = false

def bothFlagsClear (_ : Button) (w : World) : Prop := ∀ b, (w.buttons b).pressed = false

def FollowsClears (S : Screen) (l : List Event) : Prop :=
  S = (clearOrder l).foldl applyPress .debugNoRtd

theorem after_guardedDuringDrive (S : Screen) :
    after S (guardedDuringDrive S) = applyPress S .submode := by
  cases S <;> rfl

theorem clearOrder_guardedDuringDrive (S : Screen) : clearOrder (guardedDuringDrive S) = [] := by
  cases S <;> rfl

theorem clearOrder_append (l m : List Event) :
    clearOrder (l ++ m) = clearOrder l ++ clearOrder m := List.filterMap_append ..

theorem acceptOrder_append (l m : List Event) :
    acceptOrder (l ++ m) = acceptOrder l ++ acceptOrder m := List.filterMap_append ..

theorem clearOrder_ownEvents (l : List Event) : clearOrder (ownEvents l) = clearOrder l := by
  induction l with
  | nil => rfl
  | cons e l ih =>
    cases e with
    | cleared b => exact congrArg (b :: ·) ih
    | accepted b | tested b | called r | entered s | slept ms => exact ih

theorem followsClears_append {S : Screen} {l es : List Event} (h : FollowsClears S l)
    (hes : after S es = (clearOrder es).foldl applyPress S) :
    FollowsClears (after S es) (l ++ es) := by
  unfold FollowsClears at h ⊢
  rw [clearOrder_append, List.foldl_append, ← h, hes]

theorem followsClears_pass {S : Screen} {l : List Event} (h : FollowsClears S l) :
    ∀ es ∈ passes S, Walk (fun _ _ _ => True) S l es ∧ FollowsClears (after S es) (l ++ es) := by
  intro es hes
  refine ⟨walk_of_forall _ (fun _ _ _ => trivial) S l es, followsClears_append h ?_⟩
  obtain ⟨poll, hpoll, rfl⟩ := List.mem_map.mp hes
  simp only [polls, List.mem_cons, List.not_mem_nil, or_false] at hpoll
  rcases hpoll with rfl | rfl | rfl
  · rfl
  · have hclears : clearOrder (.tested .mode :: .tested .submode :: .cleared .submode ::
        guardedDuringDrive S ++ [.slept 100]) = [.submode] := by
      rw [clearOrder_append]
      change (Button.submode :: clearOrder (guardedDuringDrive S)) ++ [] = _
      rw [clearOrder_guardedDuringDrive]
      rfl
    rw [hclears, after_append]
    exact after_guardedDuringDrive S
  · rfl

theorem app_followsClears {allow : Button → World → Prop} {tries : ℕ} {w : World}
    (h : AppReach allow tries (.ret true) w) :
    w.statics.currentScreen = (clearOrder w.log).foldl applyPress .debugNoRtd := by
  have hfollows : FollowsClears w.statics.currentScreen (ownEvents w.log) :=
    (app_loop (γ := fun _ _ _ => True) (walk_of_forall _ (fun _ _ _ => trivial) _ _ _) rfl
      (fun _ _ h => followsClears_pass h)).1 w h
  rwa [FollowsClears, clearOrder_ownEvents] at hfollows

theorem acceptOrder_event {o : Op} {e : Event} (h : eventOf o = some e) : acceptOrder [e] = [] := by
  cases e with
  | accepted b => exact absurd rfl (eventOf_ne_accepted h b)
  | tested b | cleared b | called r | entered s | slept ms => rfl

theorem perform_orders (w : World) {o : Op} (ho : Raised o w) :
    acceptOrder (w.perform o).log = acceptOrder w.log ∧
      ((clearOrder (w.perform o).log = clearOrder w.log ∧ (w.perform o).buttons = w.buttons) ∨
        ∃ b, (w.buttons b).pressed = true ∧
          clearOrder (w.perform o).log = clearOrder w.log ++ [b] ∧
          (w.perform o).buttons =
            Function.update w.buttons b { w.buttons b with pressed := false }) := by
  change acceptOrder (w.log ++ (eventOf o).toList) = _ ∧
    ((clearOrder (w.log ++ (eventOf o).toList) = _ ∧ clearFlag w.buttons o = _) ∨ ∃ b, _ ∧
      clearOrder (w.log ++ (eventOf o).toList) = _ ∧ clearFlag w.buttons o = _)
  rw [acceptOrder_append, clearOrder_append, clearFlag_eq]
  cases he : eventOf o with
  | none => exact ⟨List.append_nil _, Or.inl ⟨List.append_nil _, rfl⟩⟩
  | some e =>
    refine ⟨?_, ?_⟩
    · change acceptOrder w.log ++ acceptOrder [e] = acceptOrder w.log
      rw [acceptOrder_event he, List.append_nil]
    · cases e with
      | cleared b =>
        exact Or.inr ⟨b, ho b (Option.some.inj (opOf_eventOf he)).symm, rfl, rfl⟩
      | accepted b | tested b | called r | entered s | slept ms =>
        exact Or.inl ⟨List.append_nil _, rfl⟩

theorem press_orders (w : World) (b : Button) (now : ℤ) :
    clearOrder (w.press b now).log = clearOrder w.log ∧
      (acceptOrder (w.press b now).log =
        acceptOrder w.log ++ if Accepts now (w.buttons b) then [b] else []) := by
  change clearOrder (w.log ++ ite _ _ _) = _ ∧ acceptOrder (w.log ++ ite _ _ _) = _
  rw [clearOrder_append, acceptOrder_append]
  split_ifs <;> exact ⟨List.append_nil _, rfl⟩

theorem controllerIsr_of_not_accepts {b : Button} {now : ℤ} {s : Buttons}
    (h : ¬ Accepts now (s b)) : controllerIsr b now s = s := by
  unfold controllerIsr debounce
  rw [if_neg h, Function.update_eq_self]

theorem controllerIsr_of_accepts {b : Button} {now : ℤ} {s : Buttons} (h : Accepts now (s b)) :
    controllerIsr b now s = Function.update s b ⟨true, now⟩ := by
  unfold controllerIsr debounce
  rw [if_pos h]

/-- Without coalescing the presses that are not yet cleared are the raised flags. -/
def Counted (w : World) : Prop :=
  ∀ b, (acceptOrder w.log).count b = (clearOrder w.log).count b + (w.buttons b).pressed.toNat

theorem counted_press {w : World} (hw : Counted w) (b : Button) (now : ℤ)
    (hfree : Accepts now (w.buttons b) → (w.buttons b).pressed = false) :
    Counted (w.press b now) := by
  intro b'
  have hb' := hw b'
  obtain ⟨hclear, haccept⟩ := press_orders w b now
  rw [hclear, haccept]
  change _ = _ + (controllerIsr b now w.buttons b').pressed.toNat
  by_cases hnow : Accepts now (w.buttons b)
  · rw [if_pos hnow, controllerIsr_of_accepts hnow, List.count_append]
    by_cases hb : b' = b
    · subst hb
      rw [hfree hnow] at hb'
      rw [Function.update_self, List.count_singleton_self]
      simp only [Bool.toNat_true, Bool.toNat_false] at hb' ⊢
      omega
    · have hzero : [b].count b' = 0 := List.count_eq_zero.mpr (by simpa using hb)
      rw [Function.update_of_ne hb, hzero]
      omega
  · rw [if_neg hnow, controllerIsr_of_not_accepts hnow, List.append_nil]
    exact hb'

theorem counted_perform {w : World} (hw : Counted w) {o : Op} (ho : Raised o w) :
    Counted (w.perform o) := by
  intro b'
  have hb' := hw b'
  obtain ⟨haccept, ⟨hclear, hbuttons⟩ | ⟨b, hup, hclear, hbuttons⟩⟩ := perform_orders w ho
  · rw [haccept, hclear, hbuttons]
    exact hb'
  · rw [haccept, hclear, hbuttons, List.count_append]
    by_cases hb : b' = b
    · subst hb
      rw [hup] at hb'
      rw [Function.update_self, List.count_singleton_self]
      simp only [Bool.toNat_true, Bool.toNat_false] at hb' ⊢
      omega
    · have hzero : [b].count b' = 0 := List.count_eq_zero.mpr (by simpa using hb)
      rw [Function.update_of_ne hb, hzero]
      omega

theorem app_counted {tries : ℕ} {p : Firmware Bool} {w : World}
    (h : AppReach ownFlagClear tries p w) : Counted w := by
  refine Reach.invariant_of_guard (G := Raised) (fun b => rfl) ?_ (fun _ _ _ => app_raised) ?_ h
  · rintro w _ hw ⟨b, now, _, hallow⟩
    exact counted_press hw b now hallow
  · rintro o w r _ ho hw ⟨_, rfl⟩
    exact counted_perform hw ho

/-- The presses are served in order, and at most the last of them is still waiting. -/
def InOrder (w : World) : Prop :=
  ∃ waiting : Option Button, acceptOrder w.log = clearOrder w.log ++ waiting.toList ∧
    ∀ b, (w.buttons b).pressed = true ↔ waiting = some b

theorem app_inOrder {tries : ℕ} {p : Firmware Bool} {w : World}
    (h : AppReach bothFlagsClear tries p w) : InOrder w := by
  refine Reach.invariant_of_guard (G := Raised) ⟨none, rfl, fun b => ?_⟩ ?_
    (fun _ _ _ => app_raised) ?_ h
  · exact iff_of_false Bool.false_ne_true (by simp)
  · rintro w _ ⟨waiting, horder, hflags⟩ ⟨b, now, _, hallow⟩
    obtain ⟨hclear, haccept⟩ := press_orders w b now
    by_cases hnow : Accepts now (w.buttons b)
    · have hdown : ∀ b, (w.buttons b).pressed = false := hallow hnow
      obtain rfl : waiting = none := by
        cases waiting with
        | none => rfl
        | some b' =>
          have hup := (hflags b').mpr rfl
          rw [hdown b'] at hup
          exact absurd hup Bool.false_ne_true
      refine ⟨some b, ?_, fun b' => ?_⟩
      · rw [haccept, hclear, if_pos hnow, horder]
        simp
      · change (controllerIsr b now w.buttons b').pressed = true ↔ _
        rw [controllerIsr_of_accepts hnow]
        by_cases hb : b' = b
        · subst hb
          simp
        · rw [Function.update_of_ne hb, hdown b']
          simp [Ne.symm hb]
    · refine ⟨waiting, ?_, fun b' => ?_⟩
      · rw [haccept, hclear, if_neg hnow, List.append_nil, horder]
      · change (controllerIsr b now w.buttons b').pressed = true ↔ _
        rw [controllerIsr_of_not_accepts hnow]
        exact hflags b'
  · rintro o w r _ ho ⟨waiting, horder, hflags⟩ ⟨_, rfl⟩
    obtain ⟨haccept, ⟨hclear, hbuttons⟩ | ⟨b, hup, hclear, hbuttons⟩⟩ := perform_orders w ho
    · refine ⟨waiting, ?_, fun b' => ?_⟩
      · rw [haccept, hclear, horder]
      · rw [hbuttons]
        exact hflags b'
    · obtain rfl := (hflags b).mp hup
      refine ⟨none, ?_, fun b' => ?_⟩
      · rw [haccept, hclear, horder]
        simp
      · rw [hbuttons]
        by_cases hb : b' = b
        · subst hb
          simp
        · rw [Function.update_of_ne hb, hflags b']
          simp [Ne.symm hb]

/-- The last look at the mode flag found no press waiting. -/
def ModeWasDown (w : World) : Prop :=
  ∃ pre post, w.log = pre ++ .tested .mode :: post ∧ ¬ Pending .mode pre ∧
    ∀ e ∈ post, e = .tested .submode ∨ ∃ b, e = .accepted b

def SubmodeYields (o : firmware.Op) (w : World) : Prop :=
  o = .clearPressed .submode → ModeWasDown w

theorem modeWasDown_append {w u : World} {es : List Event} (h : ModeWasDown w)
    (hlog : u.log = w.log ++ es) (hes : ∀ e ∈ es, e = .tested .submode ∨ ∃ b, e = .accepted b) :
    ModeWasDown u := by
  obtain ⟨pre, post, hsplit, hdown, hpost⟩ := h
  refine ⟨pre, post ++ es, by rw [hlog, hsplit]; simp, hdown, fun e he => ?_⟩
  rcases List.mem_append.mp he with he | he
  · exact hpost e he
  · exact hes e he

section Yielding
variable {allow : Button → World → Prop}

theorem stable_modeWasDown : Stable (loopSystem allow) ModeWasDown := by
  rintro w _ hw ⟨b, now, _, _⟩
  refine modeWasDown_append hw rfl (fun e he => Or.inr ⟨b, ?_⟩)
  split_ifs at he
  · exact List.mem_singleton.mp he
  · exact absurd he List.not_mem_nil

theorem yields_of_noClear {α : Type} {p : Firmware α} (hp : Only NoClear p) :
    Triple (loopSystem allow) SubmodeYields FlagsPending p (fun _ => FlagsPending) :=
  triple_of_noClear hp stable_flagsPending (fun _ _ ho hsub => absurd hsub (ho _))
    (fun o _ hw => flagsPending_perform hw o)

theorem yields_testMode :
    Triple (loopSystem allow) SubmodeYields FlagsPending (togglePressed .mode)
      (fun (pressed : Bool) w => FlagsPending w ∧ (pressed = false → ModeWasDown w)) := by
  refine Triple.perform stable_flagsPending
    (fun _ => stable_flagsPending.and stable_modeWasDown.imp) ?_ ?_
  · intro w _ hsub
    exact absurd hsub (by simp)
  · rintro w r _ hw ⟨hr, rfl⟩
    refine ⟨flagsPending_perform hw _, fun hdown => ⟨w.log, [], rfl, fun hpending => ?_, by simp⟩⟩
    have hup : r = true := hr.trans ((hw .mode).mpr hpending)
    rw [hdown] at hup
    exact Bool.false_ne_true hup

theorem yields_testSubmode :
    Triple (loopSystem allow) SubmodeYields (fun w => FlagsPending w ∧ ModeWasDown w)
      (togglePressed .submode) (fun _ w => FlagsPending w ∧ ModeWasDown w) := by
  have hstable : Stable (loopSystem allow) (fun w => FlagsPending w ∧ ModeWasDown w) :=
    stable_flagsPending.and stable_modeWasDown
  refine Triple.perform hstable (fun _ => hstable) (fun w _ hsub => absurd hsub (by simp)) ?_
  rintro w r _ ⟨hw, hdown⟩ ⟨_, rfl⟩
  exact ⟨flagsPending_perform hw _,
    modeWasDown_append hdown rfl (fun e he => Or.inl (List.mem_singleton.mp he))⟩

theorem yields_clear (b : Button) :
    Triple (loopSystem allow) SubmodeYields
      (fun w => FlagsPending w ∧ (b = .submode → ModeWasDown w)) (clearPressed b)
      (fun _ => FlagsPending) := by
  refine Triple.perform (stable_flagsPending.and stable_modeWasDown.imp)
    (fun _ => stable_flagsPending) ?_ ?_
  · rintro w ⟨_, hdown⟩ hsub
    exact hdown (by simpa using hsub)
  · rintro w r _ ⟨hw, _⟩ ⟨_, rfl⟩
    exact flagsPending_perform hw _

theorem loopBody_yields :
    Triple (loopSystem allow) SubmodeYields FlagsPending loopBody (AtHead FlagsPending) := by
  have hpoll : Triple (loopSystem allow) SubmodeYields FlagsPending pollButtons
      (fun _ => FlagsPending) := by
    refine yields_testMode.bind (fun (pressed : Bool) => ?_)
    cases pressed with
    | true =>
      refine ((yields_clear .mode).conseq (fun w h => ⟨h.1, by simp⟩) (fun _ _ h => h)).seq ?_
      exact yields_of_noClear toggleWhetherDrive_noClear
    | false =>
      refine (yields_testSubmode.conseq (fun w h => ⟨h.1, h.2 rfl⟩) (fun _ _ h => h)).bind
        (fun (pressed : Bool) => ?_)
      cases pressed with
      | true =>
        refine ((yields_clear .submode).conseq (fun w h => ⟨h.1, fun _ => h.2⟩)
          (fun _ _ h => h)).seq ?_
        exact yields_of_noClear guardedToggle_noClear
      | false =>
        exact Triple.pure (stable_flagsPending.and stable_modeWasDown) (fun _ h => h.1)
  exact hpoll.seq ((yields_of_noClear delay_noClear).conseq (fun _ h => h) (fun _ _ h _ => h))

theorem app_yields {tries : ℕ} {o : Op} {k : o.Res → Firmware Bool} {w : World}
    (h : AppReach allow tries (.op o k) w) : SubmodeYields o w := by
  have hboot : Safe (loopSystem allow) SubmodeYields (AtHead FlagsPending) (appInit tries)
      .initial :=
    Safe.conseq (yields_of_noClear ((appInit_booting tries).mono fun _ => noClear_of_booting) _
      flagsPending_initial) (fun _ _ h _ => h)
  exact Reach.guard hboot loopBody_yields h

end Yielding

theorem presses_in_clear_order (tries : ℕ) :
    (∀ w, AppReach ownFlagClear tries (.ret true) w →
      w.statics.currentScreen = (clearOrder w.log).foldl applyPress .debugNoRtd ∧
      ((∀ b, (w.buttons b).pressed = false) → (clearOrder w.log).Perm (acceptOrder w.log))) ∧
    (∀ k w, AppReach ownFlagClear tries (.op (.clearPressed .submode) k) w → ModeWasDown w) ∧
    (∀ w, AppReach bothFlagsClear tries (.ret true) w → (∀ b, (w.buttons b).pressed = false) →
      w.statics.currentScreen = (acceptOrder w.log).foldl applyPress .debugNoRtd) := by
  refine ⟨fun w h => ⟨app_followsClears h, fun hdown => ?_⟩, fun k w h => app_yields h rfl,
    fun w h hdown => ?_⟩
  · refine List.perm_iff_count.mpr (fun b => ?_)
    have hcount := app_counted h b
    rw [hdown b] at hcount
    exact hcount.symm
  · obtain ⟨waiting, horder, hflags⟩ := app_inOrder h
    cases waiting with
    | none =>
      rw [horder, Option.toList_none, List.append_nil]
      exact app_followsClears h
    | some b =>
      have hup := (hflags b).mpr rfl
      rw [hdown b] at hup
      exact absurd hup Bool.false_ne_true

theorem headAt_submode_mode :
    ∃ w, AppReach ownFlagClear 1 (.ret true) w ∧ (∀ b, (w.buttons b).pressed = false) ∧
      acceptOrder w.log = [.submode, .mode] ∧ clearOrder w.log = [.mode, .submode] ∧
      w.statics.currentScreen = .mainLaps := by
  have hsub := (headAt_boot : HeadAt ownFlagClear _ _ _).press .submode 200001 (by decide)
    (fun w _ hs _ => by rw [ownFlagClear, hs]; rfl)
  have hmode := hsub.press .mode 200001 (by decide)
    (fun w _ hs _ => by rw [ownFlagClear, hs]; rfl)
  obtain ⟨w, hw, _, hscreen, hbuttons, hlog⟩ := hmode.pass.pass
  refine ⟨w, hw, fun b => ?_, ?_, ?_, hscreen⟩
  · rw [hbuttons]
    cases b <;> rfl
  · rw [hlog]
    rfl
  · rw [hlog]
    rfl

theorem accept_order_fails :
    ∃ w, AppReach ownFlagClear 1 (.ret true) w ∧ (∀ b, (w.buttons b).pressed = false) ∧
      acceptOrder w.log = [.submode, .mode] ∧
      w.statics.currentScreen ≠ (acceptOrder w.log).foldl applyPress .debugNoRtd := by
  obtain ⟨w, hw, hdown, haccept, _, hscreen⟩ := headAt_submode_mode
  refine ⟨w, hw, hdown, haccept, ?_⟩
  rw [haccept, hscreen]
  decide

theorem presses_in_clear_order_run :
    (∃ w, AppReach ownFlagClear 1 (.ret true) w ∧
      (clearOrder w.log).Perm (acceptOrder w.log) ∧
      w.statics.currentScreen = (clearOrder w.log).foldl applyPress .debugNoRtd) ∧
    (∃ k w, AppReach ownFlagClear 1 (.op (.clearPressed .submode) k) w ∧ ModeWasDown w) ∧
    (∃ w, AppReach bothFlagsClear 1 (.ret true) w ∧ acceptOrder w.log = [.mode, .submode] ∧
      w.statics.currentScreen = (acceptOrder w.log).foldl applyPress .debugNoRtd) := by
  obtain ⟨hclears, hyields, haccepts⟩ := presses_in_clear_order 1
  refine ⟨?_, ?_, ?_⟩
  · obtain ⟨w, hw, hdown, _, _, _⟩ := headAt_submode_mode
    exact ⟨w, hw, (hclears w hw).2 hdown, (hclears w hw).1⟩
  · have hsub := (headAt_boot : HeadAt ownFlagClear _ _ _).press .submode 200001 (by decide)
      (fun w _ hs _ => by rw [ownFlagClear, hs]; rfl)
    obtain ⟨k, w, hw⟩ := hsub.asks (e := .cleared .submode) rfl (by decide)
    exact ⟨k, w, hw, hyields k w hw⟩
  · have hmode := (headAt_boot : HeadAt bothFlagsClear _ _ _).press .mode 200001 (by decide)
      (fun w _ hs _ b => by rw [hs]; rfl)
    have hsub := hmode.pass.press .submode 200001 (by decide)
      (fun w _ hs _ b => by rw [hs]; cases b <;> rfl)
    obtain ⟨w, hw, _, _, hbuttons, hlog⟩ := hsub.pass
    refine ⟨w, hw, by rw [hlog]; rfl, haccepts w hw (fun b => ?_)⟩
    rw [hbuttons]
    cases b <;> rfl

end SteeringDisplay.PressOrder
