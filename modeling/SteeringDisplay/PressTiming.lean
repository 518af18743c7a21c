import SteeringDisplay.PressOrder
import SteeringDisplay.TimedPass

set_option autoImplicit false

/-!
# Debouncing and polling

How old a raised flag can be, and why a handler finds its flag clear.
-/
namespace SteeringDisplay.PressTiming
open ProgramTree ProgramInterference FirmwareInterface PanelDriver DisplayScreens ButtonLoop
open Footprints LoopWorld LoopPasses LoopRuns TimedLoop TimedPass FlagHandshake PressOrder

variable {allow : Button → World → Prop}

/-- How old a raised flag can be in a delay of 100 ms that ends at `due`: a mode press
    came in this delay, and a submode press came in it too or was overtaken by a
    mode press of the delay before. -/
structure Aged (s : Buttons) (due : ℤ) : Prop where
  mode : (s .mode).pressed = true → due - 100000 ≤ (s .mode).lastPressTimeUs
  submode : (s .submode).pressed = true → due - 200000 ≤ (s .submode).lastPressTimeUs
  overtaken : (s .submode).pressed = true → (s .submode).lastPressTimeUs < due - 100000 →
    (s .mode).pressed = false ∧ due - 200000 ≤ (s .mode).lastPressTimeUs

theorem accepts_iff (now : ℤ) (s : ButtonState) :
    Accepts now s ↔ s.lastPressTimeUs + 200000 < now := by
  unfold Accepts debounceTimeUs
  omega

theorem Aged.flag_clear {s : Buttons} {due now : ℤ} (h : Aged s due) (hnow : now ≤ due) (b : Button)
    (haccepts : Accepts now (s b)) : (s b).pressed = false := by
  rw [accepts_iff] at haccepts
  rw [← Bool.not_eq_true]
  intro hup
  cases b with
  | mode =>
    have hage := h.mode hup
    omega
  | submode =>
    have hage := h.submode hup
    omega

theorem Aged.press {s : Buttons} {due now : ℤ} (h : Aged s due) (hnow : now ≤ due)
    (hrecent : due - 100000 ≤ now) (b : Button) : Aged (controllerIsr b now s) due := by
  by_cases haccepts : Accepts now (s b)
  · rw [controllerIsr_of_accepts haccepts]
    rw [accepts_iff] at haccepts
    cases b with
    | mode =>
      have hmode : Function.update s .mode ⟨true, now⟩ .mode = ⟨true, now⟩ :=
        Function.update_self ..
      have hsub : Function.update s .mode ⟨true, now⟩ .submode = s .submode :=
        Function.update_of_ne (by decide) ..
      refine ⟨?_, ?_, ?_⟩
      · rw [hmode]
        exact fun _ => hrecent
      · rw [hsub]
        exact h.submode
      · rw [hsub]
        intro hup hold
        have hlast := (h.overtaken hup hold).2
        omega
    | submode =>
      have hmode : Function.update s .submode ⟨true, now⟩ .mode = s .mode :=
        Function.update_of_ne (by decide) ..
      have hsub : Function.update s .submode ⟨true, now⟩ .submode = ⟨true, now⟩ :=
        Function.update_self ..
      refine ⟨?_, ?_, ?_⟩
      · rw [hmode]
        exact h.mode
      · rw [hsub]
        intro _
        change due - 200000 ≤ now
        omega
      · rw [hsub]
        intro _ hold
        change now < due - 100000 at hold
        omega
  · rw [controllerIsr_of_not_accepts haccepts]
    exact h

/-- After a poll the mode flag is down, and a submode flag that is still up was overtaken. -/
structure Polled (s : Buttons) (now : ℤ) : Prop where
  mode : (s .mode).pressed = false
  submode : (s .submode).pressed = true →
    now - 100000 ≤ (s .submode).lastPressTimeUs ∧ now - 100000 ≤ (s .mode).lastPressTimeUs

theorem Polled.aged {s : Buttons} {now : ℤ} (h : Polled s now) : Aged s (now + 100000) := by
  refine ⟨fun hup => ?_, fun hup => ?_, fun hup _ => ⟨h.mode, ?_⟩⟩
  · rw [h.mode] at hup
    exact absurd hup Bool.false_ne_true
  · have hsub := (h.submode hup).1
    omega
  · have hmode := (h.submode hup).2
    omega

theorem Aged.polled_mode {s : Buttons} {now : ℤ} (h : Aged s now)
    (hup : (s .mode).pressed = true) :
    Polled (Function.update s .mode { s .mode with pressed := false }) now := by
  have hsub : Function.update s .mode { s .mode with pressed := false } .submode = s .submode :=
    Function.update_of_ne (by decide) ..
  refine ⟨by rw [Function.update_self], ?_⟩
  rw [hsub, Function.update_self]
  intro hsubmode
  refine ⟨?_, h.mode hup⟩
  by_contra hold
  have hdown := (h.overtaken hsubmode (by omega)).1
  rw [hdown] at hup
  exact Bool.false_ne_true hup

def BothDown (s : Buttons) : Prop := ∀ b, (s b).pressed = false

theorem BothDown.aged {s : Buttons} (h : BothDown s) (due : ℤ) : Aged s due := by
  refine ⟨fun hup => ?_, fun hup => ?_, fun hup _ => ?_⟩ <;>
    exact absurd ((h _).symm.trans hup) Bool.false_ne_true

theorem BothDown.polled {s : Buttons} (h : BothDown s) (now : ℤ) : Polled s now := by
  refine ⟨h .mode, fun hup => ?_⟩
  rw [h .submode] at hup
  exact absurd hup Bool.false_ne_true

theorem bothDown_clear {s : Buttons} (hmode : (s .mode).pressed = false) :
    BothDown (Function.update s .submode { s .submode with pressed := false }) := by
  intro b
  cases b with
  | mode => rw [Function.update_of_ne (by decide), hmode]
  | submode => rw [Function.update_self]

/-- A handler that accepts a press finds its flag clear. -/
def Unmerged (t : TimedWorld) : Prop :=
  ∀ b, t.asleep = true → t.world.statics.currentScreen ≠ .warn →
    Accepts t.clock (t.world.buttons b) → (t.world.buttons b).pressed = false

/-- What the proof keeps of every operation: a clear finds its flag up, and a
    handler that runs before it merges no presses. -/
def Timely (o : firmware.Op) (t : TimedWorld) : Prop := Raised o t.world ∧ Unmerged t

def InDelay (t : TimedWorld) : Prop :=
  t.remaining ≤ 100000 ∧ Aged t.world.buttons (t.clock + t.remaining)

theorem InDelay.unmerged {t : TimedWorld} (h : InDelay t) : Unmerged t :=
  fun b _ _ hnow => h.2.flag_clear (by omega) b hnow

theorem stable_inDelay : Stable (timedSystem allow) InDelay := by
  rintro t _ ⟨hrecent, haged⟩ e
  cases e with
  | tick d hd =>
    refine ⟨(Nat.sub_le _ _).trans hrecent, ?_⟩
    have hdue : t.clock + d + (t.remaining - d : ℕ) = t.clock + t.remaining := by omega
    change Aged t.world.buttons (t.clock + d + (t.remaining - d : ℕ))
    rw [hdue]
    exact haged
  | press b _ _ _ => exact ⟨hrecent, haged.press (by omega) (by omega) b⟩

def Warned (t : TimedWorld) : Prop :=
  t.world.statics.currentScreen = .warn ∧ BothDown t.world.buttons

theorem Warned.unmerged {t : TimedWorld} (h : Warned t) : Unmerged t :=
  fun _ _ hne => absurd h.1 hne

theorem stable_warned : Stable (timedSystem notOnWarn) Warned := by
  rintro t _ ⟨hwarn, hdown⟩ e
  cases e with
  | tick d hd => exact ⟨hwarn, hdown⟩
  | press b _ _ hallow =>
    refine ⟨hwarn, ?_⟩
    change BothDown (controllerIsr b t.clock t.world.buttons)
    rw [controllerIsr_of_not_accepts (fun hnow => hallow hnow hwarn)]
    exact hdown

theorem unmerged_of_awake {t : TimedWorld} (h : Awake t) : Unmerged t := by
  intro b hasleep
  rw [h.1] at hasleep
  exact absurd hasleep Bool.false_ne_true

/-- The clock, where a handler that runs merges no presses. -/
def mergeless (allow : Button → World → Prop) : Clocked TimedWorld Unit where
  system := timedSystem allow
  guard := Timely
  time t := t
  note _ := ()
  invariant := Unmerged
  still := awake_env
  acts h := ⟨h.1, h.2.1, h.2.2, rfl⟩
  kept := by
    rintro o t r _ ⟨_, _, rfl⟩ ho _
    exact unmerged_of_awake (awake_perform ho)
  guarded ho h := ⟨fun b hb => absurd hb (ho b), h⟩
  cleared := by
    rintro b t hup h
    refine ⟨fun b' hb' => ?_, h⟩
    obtain rfl : b = b' := by simpa using hb'
    exact hup

theorem mergeless_pass : (mergeless notOnWarn).Pass InDelay Warned (fun _ s _ now => Aged s now)
    (fun _ s _ _ => BothDown s) (fun _ s _ now => Polled s now) where
  stable_rests := stable_inDelay
  stable_warned := stable_warned
  rests_invariant _ h := h.unmerged
  warned_invariant _ h := h.unmerged
  head := by
    rintro t ⟨_, haged⟩ (hremaining : t.remaining = 0)
    rw [hremaining] at haged
    change Aged t.world.buttons t.clock
    simpa using haged
  modeUp _ _ _ _ h hup _ _ := h.polled_mode hup
  submodeUp _ _ _ _ _ hmode _ := bothDown_clear hmode
  bothDown _ _ _ now _ h := BothDown.polled h now
  served _ _ _ now h _ := h.polled now
  warned _ _ h := ⟨h.2, h.1⟩
  woken _ h _ := h.2.polled _
  rests := by
    rintro t (hremaining : t.remaining = 100000) (h : Polled _ _)
    refine ⟨hremaining.le, ?_⟩
    rw [hremaining]
    exact h.aged

theorem appInit_inDelay (start : ℤ) (tries : ℕ) :
    Safe (timedSystem notOnWarn) Timely (fun _ => InDelay) (appInit tries) (.initial start) := by
  have hdown : (mergeless notOnWarn).Busy (fun _ s _ _ => BothDown s) (.initial start) :=
    ⟨⟨rfl, rfl⟩, unmerged_of_awake ⟨rfl, rfl⟩, fun _ => rfl⟩
  refine Safe.conseq (busy_appInit tries hdown) fun _ t ht => ⟨?_, ?_⟩
  · exact (Nat.le_of_eq ht.1.2).trans (Nat.zero_le _)
  · exact BothDown.aged ht.2.2 _

theorem timed_safe {start : ℤ} {tries : ℕ} {p : Firmware Bool} {t : TimedWorld}
    (h : TimedReach notOnWarn start tries p t) :
    Safe (timedSystem notOnWarn) Timely (fun _ => InDelay) p t :=
  Reach.safe (appInit_inDelay start tries) (loopBody_rests mergeless_pass) h

theorem timed_unmerged {start : ℤ} {tries : ℕ} {p : Firmware Bool} {t : TimedWorld}
    (h : TimedReach notOnWarn start tries p t) : Unmerged t := by
  have hsafe := timed_safe h
  cases p with
  | ret b => exact InDelay.unmerged (hsafe t .refl)
  | op o k => exact (hsafe t .refl).1.2

theorem timed_counted {start : ℤ} {tries : ℕ} {p : Firmware Bool} {t : TimedWorld}
    (h : TimedReach notOnWarn start tries p t) : Counted t.world := by
  unfold TimedReach at h
  induction h with
  | start => exact fun b => rfl
  | env h e ih =>
    have hunmerged := timed_unmerged h
    cases e with
    | tick d hd => exact ih
    | press b hasleep _ hallow =>
      exact counted_press ih b _ (fun hnow => hunmerged b hasleep (hallow hnow) hnow)
  | act h ha ih =>
    obtain ⟨_, _, rfl⟩ := ha
    exact counted_perform ih ((timed_safe h) _ .refl).1.1
  | again _ ih => exact ih

theorem presses_never_merge (start : ℤ) (tries : ℕ) (p : Firmware Bool) (t : TimedWorld)
    (h : TimedReach notOnWarn start tries p t) (b : Button) :
    (t.asleep = true → t.world.statics.currentScreen ≠ .warn →
      Accepts t.clock (t.world.buttons b) → (t.world.buttons b).pressed = false) ∧
    ((t.world.buttons b).pressed = false →
      (clearOrder t.world.log).count b = (acceptOrder t.world.log).count b) := by
  refine ⟨timed_unmerged h b, fun hdown => ?_⟩
  have hcount := timed_counted h b
  rw [hdown] at hcount
  exact hcount.symm

theorem presses_never_merge_run :
    ∃ t, TimedReach notOnWarn 1000000 1 (.ret true) t ∧
      (t.world.buttons .mode).pressed = false ∧
      (clearOrder t.world.log).count .mode = (acceptOrder t.world.log).count .mode := by
  obtain ⟨_, hidle⟩ : ∃ l, TimedAt notOnWarn 1000000 (.ret true)
      ⟨.debugNoRtd, flags ⟨false, 0⟩ ⟨false, 0⟩, l, 1000000, 100000, true⟩ :=
    (timedAt_boot notOnWarn 1000000).passes rfl rfl rfl rfl (by norm_num)
  obtain ⟨_, hfirst⟩ := hidle.pressMode (by decide) (fun w hw => by rw [notOnWarn, hw]; decide)
  obtain ⟨_, hserved⟩ : ∃ l, TimedAt notOnWarn 1000000 (.ret true)
      ⟨.mainNoLaps, flags ⟨false, 1000000⟩ ⟨false, 0⟩, l, 1100000, 100000, true⟩ :=
    hfirst.passes rfl rfl rfl rfl (by norm_num)
  obtain ⟨_, hagain⟩ : ∃ l, TimedAt notOnWarn 1000000 (.ret true)
      ⟨.mainNoLaps, flags ⟨false, 1000000⟩ ⟨false, 0⟩, l, 1200000, 100000, true⟩ :=
    hserved.passes rfl rfl rfl rfl (by norm_num)
  have hhalf : TimedAt notOnWarn 1000000 (.ret true)
      ⟨.mainNoLaps, flags ⟨false, 1000000⟩ ⟨false, 0⟩, _, 1250000, 50000, true⟩ :=
    hagain.waits 50000 (by norm_num) rfl
  obtain ⟨_, hsecond⟩ := hhalf.pressMode (by decide) (fun w hw => by rw [notOnWarn, hw]; decide)
  obtain ⟨_, t, ht, _, hshown⟩ : ∃ l, TimedAt notOnWarn 1000000 (.ret true)
      ⟨.debugNoRtd, flags ⟨false, 1250000⟩ ⟨false, 0⟩, l, 1300000, 100000, true⟩ :=
    hsecond.passes rfl rfl rfl rfl (by norm_num)
  have hdown : (t.world.buttons .mode).pressed = false :=
    congrArg (fun m : Snapshot => (m.buttons .mode).pressed) hshown
  exact ⟨t, ht, hdown, (presses_never_merge 1000000 1 _ t ht .mode).2 hdown⟩

/-- While `SCREEN_WARN` is shown a second press is accepted before the first is served. -/
theorem warn_merges_presses :
    ∃ p t, TimedReach anyPress 1000000 1 p t ∧ t.asleep = true ∧
      t.world.armed .submode = true ∧ Accepts t.clock (t.world.buttons .submode) ∧
      (t.world.buttons .submode).pressed = true := by
  obtain ⟨_, hidle⟩ : ∃ l, TimedAt anyPress 1000000 (.ret true)
      ⟨.debugNoRtd, flags ⟨false, 0⟩ ⟨false, 0⟩, l, 1000000, 100000, true⟩ :=
    (timedAt_boot anyPress 1000000).passes rfl rfl rfl rfl (by norm_num)
  obtain ⟨_, hmode⟩ := hidle.pressMode (by decide) (fun _ _ => trivial)
  obtain ⟨_, hdrive⟩ : ∃ l, TimedAt anyPress 1000000 (.ret true)
      ⟨.mainNoLaps, flags ⟨false, 1000000⟩ ⟨false, 0⟩, l, 1100000, 100000, true⟩ :=
    hmode.passes rfl rfl rfl rfl (by norm_num)
  obtain ⟨_, hsub⟩ := hdrive.pressSubmode (by decide) (fun _ _ => trivial)
  obtain ⟨_, hlaps⟩ : ∃ l, TimedAt anyPress 1000000 (.ret true)
      ⟨.mainLaps, flags ⟨false, 1000000⟩ ⟨false, 1100000⟩, l, 1200000, 100000, true⟩ :=
    hsub.passes rfl rfl rfl rfl (by norm_num)
  obtain ⟨_, hrest⟩ : ∃ l, TimedAt anyPress 1000000 (.ret true)
      ⟨.mainLaps, flags ⟨false, 1000000⟩ ⟨false, 1100000⟩, l, 1300000, 100000, true⟩ :=
    hlaps.passes rfl rfl rfl rfl (by norm_num)
  have hlate : TimedAt anyPress 1000000 (.ret true)
      ⟨.mainLaps, flags ⟨false, 1000000⟩ ⟨false, 1100000⟩, _, 1300001, 99999, true⟩ :=
    hrest.waits 1 (by norm_num) rfl
  obtain ⟨_, hagain⟩ := hlate.pressSubmode (by decide) (fun _ _ => trivial)
  have hpass : passOf .mainLaps (flags ⟨false, 1000000⟩ ⟨true, 1300001⟩) =
      [.tested .mode, .tested .submode, .cleared .submode, .called .toggleDuringDrive,
        .called (.switchScreen .warn), .entered .warn] ++ .slept 500 ::
        [.called (.switchScreen .debugRtd), .entered .debugRtd, .slept 100] := rfl
  obtain ⟨p, hsleep⟩ := hagain.sleeps hpass
  have hclock : (1300001 : ℤ) + (99999 : ℕ) + (0 : ℕ) = 1400000 := by norm_num
  obtain ⟨_, hwarn⟩ : ∃ l, TimedAt anyPress 1000000 p
      ⟨.warn, flags ⟨false, 1000000⟩ ⟨false, 1300001⟩, l, 1400000, 500000, true⟩ :=
    hsleep.shows rfl rfl rfl hclock rfl rfl
  have hwaited : TimedAt anyPress 1000000 p
      ⟨.warn, flags ⟨false, 1000000⟩ ⟨false, 1300001⟩, _, 1600000, 300000, true⟩ :=
    hwarn.waits 200000 (by norm_num) rfl
  obtain ⟨_, hraised⟩ := hwaited.pressSubmode (by decide) (fun _ _ => trivial)
  obtain ⟨t, ht, harmed, hshown⟩ : TimedAt anyPress 1000000 p
      ⟨.warn, flags ⟨false, 1000000⟩ ⟨true, 1600000⟩, _, 1800001, 99999, true⟩ :=
    hraised.waits 200001 (by norm_num) rfl
  have hclock : t.clock = 1800001 := congrArg Snapshot.clock hshown
  have hbuttons : t.world.buttons = flags ⟨false, 1000000⟩ ⟨true, 1600000⟩ :=
    congrArg Snapshot.buttons hshown
  refine ⟨p, t, ht, congrArg Snapshot.asleep hshown, harmed .submode, ?_, ?_⟩
  · rw [hclock, hbuttons]
    decide
  · rw [hbuttons]
    rfl

end SteeringDisplay.PressTiming
