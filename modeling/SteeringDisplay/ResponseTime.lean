import SteeringDisplay.PressTiming
import Mathlib.Order.Bounds.Basic

set_option autoImplicit false

/-!
# How long a press waits

A raised flag is cleared by a pass of the loop. The long sleep on `SCREEN_WARN` and the
mode button, which the loop looks at first, can make it wait.
-/
namespace SteeringDisplay.ResponseTime
open ProgramTree ProgramInterference FirmwareInterface PanelDriver DisplayScreens ButtonLoop
open Footprints LoopWorld LoopPasses LoopRuns TimedLoop TimedPass FlagHandshake PressOrder
open PressTiming

abbrev RaisedAt := Button → ℤ

def raisedBy (s s' : Buttons) (now : ℤ) (raised : RaisedAt) : RaisedAt := fun b =>
  if (s b).pressed = false ∧ (s' b).pressed = true then now else raised b

def noteRaised (t u : TimedWorld) : RaisedAt → RaisedAt :=
  raisedBy t.world.buttons u.world.buttons u.clock

abbrev Moment := TimedWorld × RaisedAt

def raisedSystem : System firmware Moment := (timedSystem anyPress).noting noteRaised

def RaisedReach (start : ℤ) (tries : ℕ) : Firmware Bool → Moment → Prop :=
  Reach raisedSystem (appInit tries) loopBody (.initial start, fun _ => start)

/-- The longest time from the raising of a flag to its clearing, in microseconds. -/
def longestWait : Button → ℤ
  | .mode => 600000
  | .submode => 699999

/-- How far the submode press has come that waits for the loop head at the time `head`. -/
inductive Turn (s : Buttons) (raised : RaisedAt) (head : ℤ) : Prop
  /-- No pass has overlooked it. -/
  | fresh (hraised : head - 499999 ≤ raised .submode)
  /-- A mode press was served in its place. -/
  | overtaken (hraised : head - 599999 ≤ raised .submode)
      (hmode : (s .mode).pressed = true → head - 100000 ≤ (s .mode).lastPressTimeUs)
  /-- Two mode presses were, and no third one can be accepted before `head`. -/
  | due (hraised : head - 699999 ≤ raised .submode) (hmode : (s .mode).pressed = false)
      (hlast : head - 200000 ≤ (s .mode).lastPressTimeUs)

/-- What the next loop head finds. On `SCREEN_MAIN_LAPS` no submode press has been
    overlooked, for a mode press would have left that screen. -/
structure Queued (S : Screen) (s : Buttons) (raised : RaisedAt) (head : ℤ) : Prop where
  mode : (s .mode).pressed = true → head - 600000 ≤ raised .mode
  submode : (s .submode).pressed = true → Turn s raised head
  laps : S = .mainLaps → (s .submode).pressed = true →
    head - 100000 ≤ (s .submode).lastPressTimeUs

/-- What the sleep on `SCREEN_WARN` that ends at `due` has let in: the submode press that
    led to it keeps the next one out for 100 ms at least. -/
structure Recent (s : Buttons) (raised : RaisedAt) (due : ℤ) : Prop where
  mode : (s .mode).pressed = true → due - 500000 ≤ raised .mode
  submode : (s .submode).pressed = true → due - 399999 ≤ raised .submode
  last : due - 600000 ≤ (s .submode).lastPressTimeUs

theorem Recent.queued {s : Buttons} {raised : RaisedAt} {now : ℤ} (h : Recent s raised now)
    {S : Screen} (hS : S ≠ .mainLaps) : Queued S s raised (now + 100000) := by
  refine ⟨fun hup => ?_, fun hup => .fresh ?_, fun hlaps => absurd hlaps hS⟩
  · have hmode := h.mode hup
    omega
  · have hsub := h.submode hup
    omega

theorem BothDown.queued {s : Buttons} (h : BothDown s) (S : Screen) (raised : RaisedAt)
    (head : ℤ) : Queued S s raised head := by
  refine ⟨fun hup => ?_, fun hup => ?_, fun _ hup => ?_⟩ <;>
    exact absurd ((h _).symm.trans hup) Bool.false_ne_true

theorem Queued.overtake {S S' : Screen} {s : Buttons} {raised : RaisedAt} {head : ℤ}
    (h : Queued S s raised head) (hup : (s .mode).pressed = true) (hS : S' ≠ .mainLaps) :
    Queued S' (Function.update s .mode { s .mode with pressed := false }) raised
      (head + 100000) := by
  have hsub : Function.update s .mode { s .mode with pressed := false } .submode = s .submode :=
    Function.update_of_ne (by decide) ..
  refine ⟨fun hmode => ?_, fun hsubmode => ?_, fun hlaps => absurd hlaps hS⟩
  · rw [Function.update_self] at hmode
    exact absurd hmode Bool.false_ne_true
  · rw [hsub] at hsubmode
    cases h.submode hsubmode with
    | fresh hraised =>
      refine .overtaken (by omega) fun hmode => ?_
      rw [Function.update_self] at hmode
      exact absurd hmode Bool.false_ne_true
    | overtaken hraised hmode =>
      have hlast := hmode hup
      refine .due (by omega) ?_ ?_
      · rw [Function.update_self]
      · rw [Function.update_self]
        change head + 100000 - 200000 ≤ (s .mode).lastPressTimeUs
        omega
    | due _ hdown _ =>
      rw [hdown] at hup
      exact absurd hup Bool.false_ne_true

theorem raisedBy_of_le {s s' : Buttons} (now : ℤ) (raised : RaisedAt)
    (h : ∀ b, (s' b).pressed = true → (s b).pressed = true) : raisedBy s s' now raised = raised := by
  funext b
  unfold raisedBy
  rw [if_neg]
  rintro ⟨hdown, hup⟩
  rw [h b hup] at hdown
  exact absurd hdown.symm Bool.false_ne_true

theorem raisedBy_isr {s : Buttons} {b : Button} {now : ℤ} (raised : RaisedAt)
    (haccepts : Accepts now (s b)) : raisedBy s (controllerIsr b now s) now raised =
      Function.update raised b (if (s b).pressed = true then raised b else now) := by
  rw [controllerIsr_of_accepts haccepts]
  funext b'
  unfold raisedBy
  by_cases hb : b' = b
  · subst hb
    rw [Function.update_self, Function.update_self]
    cases (s b').pressed <;> simp
  · rw [Function.update_of_ne hb, Function.update_of_ne hb, if_neg]
    rintro ⟨hdown, hup⟩
    rw [hup] at hdown
    exact Bool.false_ne_true hdown.symm

theorem raisedBy_rejected {s : Buttons} {b : Button} {now : ℤ} (raised : RaisedAt)
    (hnot : ¬ Accepts now (s b)) : raisedBy s (controllerIsr b now s) now raised = raised := by
  rw [controllerIsr_of_not_accepts hnot]
  exact raisedBy_of_le now raised fun _ hup => hup

theorem Turn.congr {s s' : Buttons} {raised raised' : RaisedAt} {head : ℤ}
    (h : Turn s raised head) (hs : s' .mode = s .mode)
    (hr : raised' .submode = raised .submode) : Turn s' raised' head := by
  cases h with
  | fresh hraised => exact .fresh (by rwa [hr])
  | overtaken hraised hmode => exact .overtaken (by rwa [hr]) (by rwa [hs])
  | due hraised hmode hlast => exact .due (by rwa [hr]) (by rwa [hs]) (by rwa [hs])

/-- A mode press is too early after two others. -/
theorem Turn.pressMode {s : Buttons} {raised raised' : RaisedAt} {head now : ℤ}
    (h : Turn s raised head) (hrecent : head - 100000 ≤ now)
    (haccepts : (s .mode).lastPressTimeUs + 200000 < now) (hnow : now ≤ head)
    (hr : raised' .submode = raised .submode) :
    Turn (Function.update s .mode ⟨true, now⟩) raised' head := by
  cases h with
  | fresh hraised => exact .fresh (by rwa [hr])
  | overtaken hraised _ =>
    refine .overtaken (by rwa [hr]) fun _ => ?_
    rw [Function.update_self]
    exact hrecent
  | due hraised hdown hlast => omega

theorem Queued.press {S : Screen} {s : Buttons} {raised : RaisedAt} {head now : ℤ}
    (h : Queued S s raised head) (hnow : now ≤ head) (hrecent : head - 100000 ≤ now) (b : Button) :
    Queued S (controllerIsr b now s) (raisedBy s (controllerIsr b now s) now raised) head := by
  by_cases haccepts : Accepts now (s b)
  · rw [raisedBy_isr raised haccepts, controllerIsr_of_accepts haccepts]
    rw [accepts_iff] at haccepts
    cases b with
    | mode =>
      have hsub : Function.update s .mode ⟨true, now⟩ .submode = s .submode :=
        Function.update_of_ne (by decide) ..
      have hother : ∀ now', Function.update raised .mode now' .submode = raised .submode :=
        fun now' => Function.update_of_ne (by decide) ..
      refine ⟨fun _ => ?_, fun hup => ?_, fun hlaps hup => ?_⟩
      · rw [Function.update_self]
        split_ifs with hup
        · exact h.mode hup
        · omega
      · rw [hsub] at hup
        exact (h.submode hup).pressMode hrecent (by omega) hnow (hother _)
      · rw [hsub] at hup ⊢
        exact h.laps hlaps hup
    | submode =>
      have hmode : Function.update s .submode ⟨true, now⟩ .mode = s .mode :=
        Function.update_of_ne (by decide) ..
      have hother : ∀ now', Function.update raised .submode now' .mode = raised .mode :=
        fun now' => Function.update_of_ne (by decide) ..
      refine ⟨fun hup => ?_, fun _ => ?_, fun _ _ => ?_⟩
      · rw [hmode] at hup
        rw [hother]
        exact h.mode hup
      · cases hdown : (s .submode).pressed with
        | false =>
          refine .fresh ?_
          rw [Function.update_self, if_neg Bool.false_ne_true]
          omega
        | true =>
          have hsame : Function.update raised .submode (if true = true then raised .submode
              else now) .submode = raised .submode := by
            rw [Function.update_self, if_pos rfl]
          exact (h.submode hdown).congr hmode hsame
      · rw [Function.update_self]
        exact hrecent
  · rw [raisedBy_rejected raised haccepts, controllerIsr_of_not_accepts haccepts]
    exact h

theorem Recent.press {s : Buttons} {raised : RaisedAt} {due now : ℤ} (h : Recent s raised due)
    (hrecent : due - 500000 ≤ now) (b : Button) :
    Recent (controllerIsr b now s) (raisedBy s (controllerIsr b now s) now raised) due := by
  by_cases haccepts : Accepts now (s b)
  · rw [raisedBy_isr raised haccepts, controllerIsr_of_accepts haccepts]
    rw [accepts_iff] at haccepts
    have hlast := h.last
    cases b with
    | mode =>
      have hsub : Function.update s .mode ⟨true, now⟩ .submode = s .submode :=
        Function.update_of_ne (by decide) ..
      refine ⟨fun _ => ?_, fun hup => ?_, ?_⟩
      · rw [Function.update_self]
        split_ifs with hup
        · exact h.mode hup
        · exact hrecent
      · rw [hsub] at hup
        rw [Function.update_of_ne (by decide)]
        exact h.submode hup
      · rw [hsub]
        exact hlast
    | submode =>
      have hmode : Function.update s .submode ⟨true, now⟩ .mode = s .mode :=
        Function.update_of_ne (by decide) ..
      refine ⟨fun hup => ?_, fun _ => ?_, ?_⟩
      · rw [hmode] at hup
        rw [Function.update_of_ne (by decide)]
        exact h.mode hup
      · rw [Function.update_self]
        split_ifs with hup
        · exact h.submode hup
        · omega
      · rw [Function.update_self]
        dsimp only
        omega
  · rw [raisedBy_rejected raised haccepts, controllerIsr_of_not_accepts haccepts]
    exact h

/-- No flag that is up has waited too long. -/
def Prompt (m : Moment) : Prop :=
  ∀ b, (m.1.world.buttons b).pressed = true → m.1.clock - m.2 b ≤ longestWait b

theorem Queued.prompt {S : Screen} {m : Moment} {head : ℤ}
    (h : Queued S m.1.world.buttons m.2 head) (hclock : m.1.clock ≤ head) : Prompt m := by
  intro b hup
  cases b with
  | mode =>
    have hraised := h.mode hup
    change m.1.clock - m.2 .mode ≤ 600000
    omega
  | submode =>
    change m.1.clock - m.2 .submode ≤ 699999
    cases h.submode hup with
    | fresh hraised => omega
    | overtaken hraised _ => omega
    | due hraised _ _ => omega

theorem Recent.prompt {m : Moment} {due : ℤ} (h : Recent m.1.world.buttons m.2 due)
    (hclock : m.1.clock ≤ due) : Prompt m := by
  intro b hup
  cases b with
  | mode =>
    have hraised := h.mode hup
    change m.1.clock - m.2 .mode ≤ 600000
    omega
  | submode =>
    have hraised := h.submode hup
    change m.1.clock - m.2 .submode ≤ 699999
    omega

def Rests (m : Moment) : Prop :=
  m.1.remaining ≤ 100000 ∧
    Queued m.1.world.statics.currentScreen m.1.world.buttons m.2 (m.1.clock + m.1.remaining)

theorem Rests.prompt {m : Moment} (h : Rests m) : Prompt m := h.2.prompt (by omega)

def Warns (m : Moment) : Prop :=
  m.1.remaining ≤ 500000 ∧ Recent m.1.world.buttons m.2 (m.1.clock + m.1.remaining)

theorem Warns.prompt {m : Moment} (h : Warns m) : Prompt m := h.2.prompt (by omega)

theorem noteRaised_tick (t : TimedWorld) (clock : ℤ) (remaining : ℕ) (raised : RaisedAt) :
    noteRaised t { t with clock := clock, remaining := remaining } raised = raised :=
  raisedBy_of_le _ raised fun _ hup => hup

theorem due_tick {clock : ℤ} {remaining d : ℕ} (hd : d ≤ remaining) :
    clock + d + (remaining - d : ℕ) = clock + remaining := by
  omega

theorem stable_rests : Stable raisedSystem Rests := by
  rintro ⟨t, raised⟩ _ ⟨hrecent, hqueued⟩ ⟨u, e, rfl⟩
  cases e with
  | tick d hd =>
    refine ⟨(Nat.sub_le _ _).trans hrecent, ?_⟩
    change Queued _ t.world.buttons (noteRaised t _ raised) (t.clock + d + (t.remaining - d : ℕ))
    rw [noteRaised_tick, due_tick hd]
    exact hqueued
  | press b _ _ _ =>
    exact ⟨hrecent, hqueued.press (by dsimp only; omega) (by dsimp only at *; omega) b⟩

theorem stable_warns : Stable raisedSystem Warns := by
  rintro ⟨t, raised⟩ _ ⟨hrecent, hraised⟩ ⟨u, e, rfl⟩
  cases e with
  | tick d hd =>
    refine ⟨(Nat.sub_le _ _).trans hrecent, ?_⟩
    change Recent t.world.buttons (noteRaised t _ raised) (t.clock + d + (t.remaining - d : ℕ))
    rw [noteRaised_tick, due_tick hd]
    exact hraised
  | press b _ _ _ => exact ⟨hrecent, hraised.press (by dsimp only at *; omega) b⟩

theorem up_before {w : World} {o : Op} {b : Button}
    (hup : ((w.perform o).buttons b).pressed = true) : (w.buttons b).pressed = true := by
  cases o with
  | clearPressed b' =>
    change (Function.update w.buttons b' _ b).pressed = true at hup
    by_cases hb : b = b'
    · subst hb
      rw [Function.update_self] at hup
      exact absurd hup Bool.false_ne_true
    · rwa [Function.update_of_ne hb] at hup
  | _ => exact hup

theorem noteRaised_perform (t : TimedWorld) (o : Op) (raised : RaisedAt) :
    noteRaised t (t.perform o) raised = raised :=
  raisedBy_of_le _ raised fun _ => up_before

theorem prompt_perform {t : TimedWorld} {raised : RaisedAt} (hremaining : t.remaining = 0) (o : Op)
    (h : Prompt (t, raised)) : Prompt (t.perform o, raised) := by
  intro b hup
  dsimp only
  rw [clock_perform hremaining]
  exact h b (up_before hup)

def raising : Clocked Moment RaisedAt where
  system := raisedSystem
  guard _ := Prompt
  time := Prod.fst
  note := Prod.snd
  invariant := Prompt
  still := by
    rintro ⟨t, raised⟩ _ h ⟨u, e, rfl⟩
    obtain rfl : u = t := awake_env h e
    exact Prod.ext rfl (noteRaised_tick u u.clock u.remaining raised)
  acts := by
    rintro o ⟨t, raised⟩ r _ ⟨_, ⟨hanswer, hremaining, rfl⟩, rfl⟩
    exact ⟨hanswer, hremaining, rfl, noteRaised_perform t o raised⟩
  kept := by
    rintro o ⟨t, raised⟩ r _ ⟨_, ⟨_, hremaining, rfl⟩, rfl⟩ _ h
    rw [noteRaised_perform]
    exact prompt_perform hremaining o h
  guarded _ h := h
  cleared _ h := h

abbrev Passed : View RaisedAt := fun S s raised now => Queued S s raised (now + 100000)

/-- A submode press has been served: on `SCREEN_MAIN_LAPS` it was accepted in the last delay. -/
abbrev JustServed : View RaisedAt := fun S s _ now =>
  BothDown s ∧ (S = .mainLaps → now - 100000 ≤ (s .submode).lastPressTimeUs)

theorem raising_pass : raising.Pass Rests Warns Queued JustServed Passed where
  stable_rests := stable_rests
  stable_warned := stable_warns
  rests_invariant _ h := h.prompt
  warned_invariant _ h := h.prompt
  head := by
    rintro m ⟨_, hqueued⟩ (hremaining : m.1.remaining = 0)
    rw [hremaining] at hqueued
    have hhead : Queued m.1.world.statics.currentScreen m.1.world.buttons m.2 m.1.clock := by
      simpa using hqueued
    exact hhead
  modeUp _ _ _ _ h hup _ hS := h.overtake hup hS
  submodeUp _ _ _ _ h hmode hup := by
    refine ⟨bothDown_clear hmode, fun hlaps => ?_⟩
    rw [Function.update_self]
    exact h.laps hlaps hup
  bothDown _ _ _ _ _ h := BothDown.queued h _ _ _
  served _ _ _ _ h _ := BothDown.queued h.1 _ _ _
  warned := by
    rintro ⟨t, raised⟩ (hremaining : t.remaining = 500000) ⟨⟨hdown, hlast⟩, -⟩
    refine ⟨hremaining.le, fun hup => ?_, fun hup => ?_, ?_⟩
    · exact absurd ((hdown .mode).symm.trans hup) Bool.false_ne_true
    · exact absurd ((hdown .submode).symm.trans hup) Bool.false_ne_true
    · have hrecent : t.clock - 100000 ≤ (t.world.buttons .submode).lastPressTimeUs := hlast rfl
      dsimp only
      omega
  woken := by
    rintro m ⟨_, hrecent⟩ (hremaining : m.1.remaining = 0)
    rw [hremaining] at hrecent
    have hwoken : Recent m.1.world.buttons m.2 m.1.clock := by simpa using hrecent
    exact hwoken.queued (by decide)
  rests := by
    rintro m (hremaining : m.1.remaining = 100000) hpassed
    refine ⟨hremaining.le, ?_⟩
    rw [hremaining]
    exact hpassed

theorem appInit_rests (start : ℤ) (tries : ℕ) :
    Safe raisedSystem (fun _ => Prompt) (fun _ => Rests) (appInit tries)
      (.initial start, fun _ => start) := by
  have hdown : raising.Busy (fun _ s _ _ => BothDown s) (.initial start, fun _ => start) :=
    ⟨⟨rfl, rfl⟩, fun _ hup => absurd hup Bool.false_ne_true, fun _ => rfl⟩
  refine Safe.conseq (busy_appInit tries hdown) fun _ m hm => ⟨?_, BothDown.queued hm.2.2 _ _ _⟩
  exact (Nat.le_of_eq hm.1.2).trans (Nat.zero_le _)

theorem prompt_reached {start : ℤ} {tries : ℕ} {p : Firmware Bool} {m : Moment}
    (h : RaisedReach start tries p m) : Prompt m := by
  have hsafe : Safe raisedSystem (fun _ => Prompt) (fun _ => Rests) p m :=
    Reach.safe (appInit_rests start tries) (loopBody_rests raising_pass) h
  cases p with
  | ret ready => exact Rests.prompt (hsafe m .refl)
  | op o k => exact (hsafe m .refl).1

def MomentAt (start : ℤ) (p : Firmware Bool) (S : Screen) (s : Buttons) (clock : ℤ)
    (remaining : ℕ) (asleep : Bool) (raised : RaisedAt) : Prop :=
  ∃ t, RaisedReach start 1 p (t, raised) ∧ Armed t.world ∧
    (t.world.statics.currentScreen = S ∧ t.world.buttons = s) ∧
    t.clock = clock ∧ t.remaining = remaining ∧ t.asleep = asleep

section Moments
variable {start : ℤ} {p : Firmware Bool} {S : Screen} {s : Buttons} {clock : ℤ}
variable {remaining : ℕ} {asleep : Bool} {raised : RaisedAt}

theorem momentAt_timed {l : List Event}
    (h : TimedAt anyPress start p ⟨S, s, l, clock, remaining, asleep⟩) :
    ∃ raised, MomentAt start p S s clock remaining asleep raised := by
  obtain ⟨t, ht, harmed, hshown⟩ := h
  obtain ⟨raised, hraised⟩ : ∃ raised, RaisedReach start 1 p (t, raised) :=
    Reach.noted (fun _ => start) ht
  exact ⟨raised, t, hraised, harmed,
    ⟨congrArg Snapshot.screen hshown, congrArg Snapshot.buttons hshown⟩,
    congrArg Snapshot.clock hshown, congrArg Snapshot.remaining hshown,
    congrArg Snapshot.asleep hshown⟩

theorem MomentAt.waits {remaining' : ℕ} {clock' : ℤ}
    (h : MomentAt start p S s clock remaining asleep raised) (d : ℕ) (hclock : clock + d = clock')
    (hremaining : remaining' + d = remaining) :
    MomentAt start p S s clock' remaining' asleep raised := by
  obtain ⟨t, ht, harmed, hshown, rfl, hleft, hasleep⟩ := h
  have htick : RaisedReach start 1 p
      ({ t with clock := t.clock + d, remaining := t.remaining - d }, raised) := by
    have hstep := ht.env ⟨_, .tick d (by dsimp only; omega), rfl⟩
    dsimp only at hstep
    rwa [noteRaised_tick] at hstep
  refine ⟨_, htick, harmed, hshown, hclock, ?_, hasleep⟩
  dsimp only
  omega

theorem MomentAt.pressed (h : MomentAt start p S s clock remaining true raised) (b : Button)
    (hnow : Accepts clock (s b)) (hdown : (s b).pressed = false) :
    MomentAt start p S (Function.update s b ⟨true, clock⟩) clock remaining true
      (Function.update raised b clock) := by
  obtain ⟨t, ht, harmed, ⟨hscreen, rfl⟩, rfl, hleft, hasleep⟩ := h
  have hstep := ht.env ⟨_, .press b hasleep (harmed b) fun _ => trivial, rfl⟩
  have hraised : noteRaised t { t with world := t.world.press b t.clock } raised =
      Function.update raised b t.clock := by
    have hpressed := raisedBy_isr raised hnow
    rwa [hdown, if_neg Bool.false_ne_true] at hpressed
  dsimp only at hstep
  rw [hraised] at hstep
  exact ⟨_, hstep, harmed, ⟨hscreen, controllerIsr_of_accepts hnow⟩, rfl, hleft, hasleep⟩

theorem raisedReach_run {α : Type} {q : Firmware α} {f : α → Firmware Bool} {t : TimedWorld}
    (h : RaisedReach start 1 (q >>= f) (t, raised)) :
    RaisedReach start 1 (f (run timedSteady q t).1) ((run timedSteady q t).2, raised) := by
  induction q generalizing t with
  | ret a => exact h
  | op o k ih =>
    have htick := h.env ⟨_, .tick t.remaining (Nat.le_refl _), rfl⟩
    dsimp only at htick
    rw [noteRaised_tick] at htick
    have hact : (timedSystem anyPress).act o
        { t with clock := t.clock + t.remaining, remaining := t.remaining - t.remaining }
        (reply o t.world) (t.perform o) := by
      refine ⟨(steady_act anyPress o t.world).1, Nat.sub_self _, ?_⟩
      unfold TimedWorld.perform
      simp
    have hstep := Reach.act htick ⟨_, hact, rfl⟩
    have hraised : noteRaised
        { t with clock := t.clock + t.remaining, remaining := t.remaining - t.remaining }
        (t.perform o) raised = raised := noteRaised_perform t o raised
    dsimp only at hstep
    rw [hraised] at hstep
    exact ih _ hstep

theorem MomentAt.acts {o : Op} {k : o.Res → Firmware Bool} {r : o.Res} {S' : Screen}
    {s' : Buttons} {clock' : ℤ} (h : MomentAt start (.op o k) S s clock remaining asleep raised)
    (hr : ∀ w : World, w.statics.currentScreen = S → w.buttons = s → reply o w = r)
    (hscreen : after S (eventOf o).toList = S')
    (hbuttons : (eventOf o).toList.foldl lower s = s') (hclock : clock + remaining = clock') :
    MomentAt start (k r) S' s' clock' ((sleepUs o).getD 0) (sleepUs o).isSome raised := by
  obtain ⟨t, ht, harmed, ⟨rfl, rfl⟩, rfl, rfl, -⟩ := h
  obtain ⟨hshown, hflags, -⟩ := run_shows (leaves_ask timedSteady_tracks o t)
  have hstep : RaisedReach start 1 (k (reply o t.world)) (t.perform o, raised) :=
    raisedReach_run (q := ask o) (f := k) ht
  rw [hr t.world rfl rfl] at hstep
  exact ⟨t.perform o, hstep, armed_perform harmed o, ⟨hshown.trans hscreen, hflags.trans hbuttons⟩,
    hclock, rfl, rfl⟩

theorem awake_foldl {os : List Op} (hos : os ≠ []) (hinstant : ∀ o ∈ os, Instant o)
    (t : TimedWorld) : Awake (os.foldl TimedWorld.perform t) := by
  induction os generalizing t with
  | nil => exact absurd rfl hos
  | cons o os ih =>
    rw [List.foldl_cons]
    cases os with
    | nil => exact awake_perform (hinstant o (by simp)).1
    | cons o' os => exact ih (by simp) (fun o ho => hinstant o (by simp [ho])) _

theorem MomentAt.switches {next : Screen} {draw : Firmware Unit} {f : Unit → Firmware Bool}
    (h : MomentAt start (displaySwitchScreen next >>= f) S s clock remaining asleep raised)
    (hne : S ≠ next) (hdraw : render next = some draw) :
    MomentAt start (f ()) next s (clock + remaining) 0 false raised := by
  obtain ⟨t, ht, harmed, ⟨rfl, rfl⟩, rfl, rfl, -⟩ := h
  have hleaves : Leaves timedSteady TimedWorld.world (displaySwitchScreen next) t (switched next) :=
    leaves_emits timedSteady_tracks rfl fun _ => emits_switchScreen hne hdraw
  obtain ⟨hscreen, hbuttons, -, hclock⟩ := run_shows hleaves
  have hend : (run timedSteady (displaySwitchScreen next) t).2 =
      (trace timedSteady (displaySwitchScreen next) t).foldl TimedWorld.perform t :=
    run_foldl_trace timedSteady (fun _ _ => rfl) _ t
  have hawake : Awake (run timedSteady (displaySwitchScreen next) t).2 := by
    rw [hend]
    refine awake_foldl ?_ ((switchScreen_instant next).trace timedSteady t) t
    exact List.cons_ne_nil _ _
  refine ⟨_, raisedReach_run ht, armed_run timedSteady_tracks _ harmed, ⟨hscreen, hbuttons⟩, ?_,
    hawake.2, hawake.1⟩
  · have hplain : ((switched next).filterMap sleptUs).sum = 0 := rfl
    rw [hawake.2, hplain] at hclock
    simpa using hclock

theorem MomentAt.passes {S' : Screen} {s' : Buttons} {clock' : ℤ}
    (h : MomentAt start (.ret true) S s clock remaining asleep raised)
    (hscreen : after S (passOf S s) = S') (hbuttons : (passOf S s).foldl lower s = s')
    (hplain : ((pollOf S s).filterMap sleptUs).sum = 0) (hclock : clock + remaining = clock') :
    MomentAt start (.ret true) S' s' clock' 100000 true raised := by
  obtain ⟨t, ht, harmed, ⟨rfl, rfl⟩, rfl, rfl, -⟩ := h
  obtain ⟨hshown, hflags, -⟩ := run_shows (leaves_loopBody timedSteady_tracks t)
  obtain ⟨-, -, -, hpolled⟩ := run_shows (leaves_pollButtons timedSteady_tracks t)
  have hend : run timedSteady loopBody t =
      (true, (run timedSteady pollButtons t).2.perform (.vTaskDelay .main 100)) := by
    unfold loopBody
    rw [run_bind, run_bind, run_pure]
    rfl
  have hbody : RaisedReach start 1 (loopBody >>= pure) (t, raised) := by
    rw [bind_pure]
    exact ht.again
  have hreach := raisedReach_run hbody
  rw [hend] at hreach
  refine ⟨_, hreach, ?_, ⟨?_, ?_⟩, ?_, rfl, rfl⟩
  · rw [← congrArg Prod.snd hend]
    exact armed_run timedSteady_tracks loopBody harmed
  · rw [← congrArg Prod.snd hend, hshown, hscreen]
  · rw [← congrArg Prod.snd hend, hflags, hbuttons]
  · change (run timedSteady pollButtons t).2.clock + (run timedSteady pollButtons t).2.remaining = _
    rw [hpolled, hplain, ← hclock]
    simp

def afterWarn : Firmware Bool :=
  displaySwitchScreen .debugRtd >>= fun _ => vTaskDelay .main 100 >>= fun _ => pure true

theorem MomentAt.warns {mode submode : ButtonState}
    (h : MomentAt start (.ret true) .mainLaps (flags mode submode) clock remaining asleep raised)
    (hmode : mode.pressed = false) (hsub : submode.pressed = true) :
    MomentAt start afterWarn .warn (flags mode { submode with pressed := false })
      (clock + remaining) 500000 true raised := by
  have hbody : MomentAt start loopBody .mainLaps (flags mode submode) clock remaining asleep
      raised := by
    obtain ⟨t, ht, hshown⟩ := h
    exact ⟨t, ht.again, hshown⟩
  have hawake : clock + remaining + (0 : ℕ) = clock + remaining := by simp
  have hlowered : [Event.cleared .submode].foldl lower (flags mode submode) =
      flags mode { submode with pressed := false } := by
    funext b
    cases b <;> rfl
  have hmodeTest : MomentAt start _ .mainLaps (flags mode submode) (clock + remaining) 0 false
      raised := hbody.acts (o := .togglePressed .mode) (r := false) (fun w _ hw => by
        change (w.buttons .mode).pressed = false
        rw [hw]
        exact hmode) rfl rfl rfl
  have hsubTest : MomentAt start _ .mainLaps (flags mode submode) (clock + remaining) 0 false
      raised := hmodeTest.acts (o := .togglePressed .submode) (r := true) (fun w _ hw => by
        change (w.buttons .submode).pressed = true
        rw [hw]
        exact hsub) rfl rfl hawake
  have hclear : MomentAt start _ .mainLaps (flags mode { submode with pressed := false })
      (clock + remaining) 0 false raised :=
    hsubTest.acts (o := .clearPressed .submode) (r := ()) (fun _ _ _ => rfl) rfl hlowered hawake
  have hload : MomentAt start _ .mainLaps (flags mode { submode with pressed := false })
      (clock + remaining) 0 false raised :=
    hclear.acts (o := .currentScreen) (r := .mainLaps) (fun _ hw _ => hw) rfl rfl hawake
  have hcall : MomentAt start _ .mainLaps (flags mode { submode with pressed := false })
      (clock + remaining) 0 false raised :=
    hload.acts (o := .call .toggleDuringDrive) (r := ()) (fun _ _ _ => rfl) rfl rfl hawake
  have hagain : MomentAt start ((displaySwitchScreen .warn >>= fun _ => vTaskDelay .main 500 >>=
      fun _ => displaySwitchScreen .debugRtd) >>= fun _ => vTaskDelay .main 100 >>= fun _ =>
        pure true) .mainLaps (flags mode { submode with pressed := false }) (clock + remaining) 0
      false raised :=
    hcall.acts (o := .currentScreen) (r := .mainLaps) (fun _ hw _ => hw) rfl rfl hawake
  rw [bind_assoc] at hagain
  have hwarn : MomentAt start ((vTaskDelay .main 500 >>= fun _ => displaySwitchScreen .debugRtd) >>=
      fun _ => vTaskDelay .main 100 >>= fun _ => pure true) .warn
      (flags mode { submode with pressed := false }) (clock + remaining + (0 : ℕ)) 0 false raised :=
    hagain.switches (by decide) (show render .warn = some displayWarn from rfl)
  rw [hawake, bind_assoc] at hwarn
  exact hwarn.acts (o := .vTaskDelay .main 500) (r := ()) (fun _ _ _ => rfl) rfl rfl hawake

theorem MomentAt.leavesWarn {clock' : ℤ} (h : MomentAt start afterWarn .warn s clock remaining asleep raised)
    (hclock : clock + remaining = clock') :
    MomentAt start (.ret true) .debugRtd s clock' 100000 true raised := by
  have hrtd : MomentAt start (vTaskDelay .main 100 >>= fun _ => pure true) .debugRtd s
      (clock + remaining) 0 false raised :=
    h.switches (by decide) (show render .debugRtd = some displayUsePrerenderedDebugRtd from rfl)
  exact hrtd.acts (o := .vTaskDelay .main 100) (r := ()) (fun _ _ _ => rfl) rfl rfl
    (by rw [← hclock]; simp)

end Moments

theorem update_flags (mode submode state : ButtonState) :
    Function.update (flags mode submode) .mode state = flags state submode ∧
      Function.update (flags mode submode) .submode state = flags mode state := by
  constructor <;> funext b <;> cases b <;> rfl

theorem warn_reached : ∃ raised, MomentAt 1000000 afterWarn .warn
    (flags ⟨false, 1000000⟩ ⟨false, 1300000⟩) 1400000 500000 true raised := by
  obtain ⟨_, hidle⟩ : ∃ l, TimedAt anyPress 1000000 (.ret true)
      ⟨.debugNoRtd, flags ⟨false, 0⟩ ⟨false, 0⟩, l, 1000000, 100000, true⟩ :=
    (timedAt_boot anyPress 1000000).passes rfl rfl rfl rfl (by norm_num)
  obtain ⟨_, hmode⟩ := hidle.pressMode (by decide) (fun _ _ => trivial)
  obtain ⟨_, hboth⟩ := hmode.pressSubmode (by decide) (fun _ _ => trivial)
  obtain ⟨_, hdrive⟩ : ∃ l, TimedAt anyPress 1000000 (.ret true)
      ⟨.mainNoLaps, flags ⟨false, 1000000⟩ ⟨true, 1000000⟩, l, 1100000, 100000, true⟩ :=
    hboth.passes rfl rfl rfl rfl (by norm_num)
  obtain ⟨_, hlaps⟩ : ∃ l, TimedAt anyPress 1000000 (.ret true)
      ⟨.mainLaps, flags ⟨false, 1000000⟩ ⟨false, 1000000⟩, l, 1200000, 100000, true⟩ :=
    hdrive.passes rfl rfl rfl rfl (by norm_num)
  obtain ⟨_, hrest⟩ : ∃ l, TimedAt anyPress 1000000 (.ret true)
      ⟨.mainLaps, flags ⟨false, 1000000⟩ ⟨false, 1000000⟩, l, 1300000, 100000, true⟩ :=
    hlaps.passes rfl rfl rfl rfl (by norm_num)
  obtain ⟨_, hsub⟩ := hrest.pressSubmode (by decide) (fun _ _ => trivial)
  obtain ⟨raised, hraised⟩ := momentAt_timed hsub
  have hwarn := hraised.warns rfl rfl
  have hclock : (1300000 : ℤ) + (100000 : ℕ) = 1400000 := by norm_num
  rw [hclock] at hwarn
  exact ⟨raised, hwarn⟩

theorem mode_waits : ∃ p m, RaisedReach 1000000 1 p m ∧
    (m.1.world.buttons .mode).pressed = true ∧ m.1.clock - m.2 .mode = 600000 := by
  obtain ⟨raised, hwarn⟩ := warn_reached
  have hpress := hwarn.pressed .mode (by decide) rfl
  rw [(update_flags _ _ _).1] at hpress
  have hslept : MomentAt 1000000 afterWarn .warn (flags ⟨true, 1400000⟩ ⟨false, 1300000⟩) 1900000 0
      true _ := hpress.waits 500000 (by norm_num) rfl
  have hpassed : MomentAt 1000000 (.ret true) .debugRtd
      (flags ⟨true, 1400000⟩ ⟨false, 1300000⟩) 1900000 100000 true _ :=
    hslept.leavesWarn (by norm_num)
  have hhead : MomentAt 1000000 (.ret true) .debugRtd
      (flags ⟨true, 1400000⟩ ⟨false, 1300000⟩) 2000000 0 true _ :=
    hpassed.waits 100000 (by norm_num) rfl
  obtain ⟨t, ht, -, ⟨-, hbuttons⟩, hclock, -, -⟩ := hhead
  refine ⟨_, _, ht, ?_, ?_⟩
  · rw [hbuttons]
    rfl
  · dsimp only
    rw [hclock, Function.update_self]
    norm_num

/-- A submode press that comes as early in the sleep as it can, and a mode press before each
    of the two loop heads after it. -/
theorem submode_waits : ∃ p m, RaisedReach 1000000 1 p m ∧
    (m.1.world.buttons .submode).pressed = true ∧ m.1.clock - m.2 .submode = 699999 := by
  obtain ⟨raised, hwarn⟩ := warn_reached
  have hopen : MomentAt 1000000 afterWarn .warn (flags ⟨false, 1000000⟩ ⟨false, 1300000⟩) 1500001
      399999 true raised := hwarn.waits 100001 (by norm_num) rfl
  have hsub := hopen.pressed .submode (by decide) rfl
  rw [(update_flags _ _ _).2] at hsub
  have hmode := hsub.pressed .mode (by decide) rfl
  rw [(update_flags _ _ _).1] at hmode
  have hslept : MomentAt 1000000 afterWarn .warn (flags ⟨true, 1500001⟩ ⟨true, 1500001⟩) 1900000 0
      true _ := hmode.waits 399999 (by norm_num) rfl
  have hpassed : MomentAt 1000000 (.ret true) .debugRtd
      (flags ⟨true, 1500001⟩ ⟨true, 1500001⟩) 1900000 100000 true _ :=
    hslept.leavesWarn (by norm_num)
  have hovertaken : MomentAt 1000000 (.ret true) .debugNoRtd
      (flags ⟨false, 1500001⟩ ⟨true, 1500001⟩) 2000000 100000 true _ :=
    hpassed.passes rfl (by funext b; cases b <;> rfl) rfl (by norm_num)
  have hhalf : MomentAt 1000000 (.ret true) .debugNoRtd
      (flags ⟨false, 1500001⟩ ⟨true, 1500001⟩) 2050000 50000 true _ :=
    hovertaken.waits 50000 (by norm_num) rfl
  have hagain := hhalf.pressed .mode (by decide) rfl
  rw [(update_flags _ _ _).1] at hagain
  have htwice : MomentAt 1000000 (.ret true) .mainNoLaps
      (flags ⟨false, 2050000⟩ ⟨true, 1500001⟩) 2100000 100000 true _ :=
    hagain.passes rfl (by funext b; cases b <;> rfl) rfl (by norm_num)
  have hhead : MomentAt 1000000 (.ret true) .mainNoLaps
      (flags ⟨false, 2050000⟩ ⟨true, 1500001⟩) 2200000 0 true _ :=
    htwice.waits 100000 (by norm_num) rfl
  obtain ⟨t, ht, -, ⟨-, hbuttons⟩, hclock, -, -⟩ := hhead
  refine ⟨_, _, ht, ?_, ?_⟩
  · rw [hbuttons]
    rfl
  · have hraised : ∀ now, Function.update (Function.update (Function.update raised .submode 1500001)
        .mode 1500001) .mode now .submode = 1500001 := by
      intro now
      rw [Function.update_of_ne (by decide), Function.update_of_ne (by decide),
        Function.update_self]
    dsimp only
    rw [hclock, hraised]
    norm_num

/-- The longest time for which a flag stays up, over all runs and all presses: 600 ms for the
    mode button, and a microsecond less than 700 ms for the submode button. -/
theorem worst_case_wait (b : Button) :
    IsGreatest {w : ℤ | ∃ start tries p m, RaisedReach start tries p m ∧
      (m.1.world.buttons b).pressed = true ∧ m.1.clock - m.2 b = w} (longestWait b) := by
  constructor
  · cases b with
    | mode =>
      obtain ⟨p, m, hreach, hup, hwait⟩ := mode_waits
      exact ⟨_, _, p, m, hreach, hup, hwait⟩
    | submode =>
      obtain ⟨p, m, hreach, hup, hwait⟩ := submode_waits
      exact ⟨_, _, p, m, hreach, hup, hwait⟩
  · rintro w ⟨start, tries, p, m, hreach, hup, rfl⟩
    exact prompt_reached hreach b hup

end SteeringDisplay.ResponseTime
