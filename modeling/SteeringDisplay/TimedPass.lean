import SteeringDisplay.FlagHandshake
import SteeringDisplay.TimedLoop

set_option autoImplicit false

/-!
# One pass of the loop on a clock

While the task runs no time passes, so what it knows of the flags changes only where it
clears one and where it sleeps.
-/
namespace SteeringDisplay.TimedPass
open ProgramTree ProgramInterference FirmwareInterface PanelDriver DisplayScreens ButtonLoop
open Footprints LoopWorld LoopPasses LoopRuns TimedLoop FlagHandshake

/-- The task is running: no time passes and no handler runs. -/
def Awake (t : TimedWorld) : Prop := t.asleep = false ∧ t.remaining = 0

theorem awake_env {allow : Button → World → Prop} {t u : TimedWorld} (h : Awake t)
    (e : Passing allow t u) : u = t := by
  obtain ⟨hasleep, hremaining⟩ := h
  cases e with
  | tick d hd =>
    obtain rfl : d = 0 := by omega
    simp
  | press b hon _ _ =>
    rw [hasleep] at hon
    exact absurd hon Bool.false_ne_true

theorem awake_perform {t : TimedWorld} {o : Op} (h : sleepUs o = none) : Awake (t.perform o) := by
  unfold Awake TimedWorld.perform
  rw [h]
  exact ⟨rfl, rfl⟩

theorem clock_perform {t : TimedWorld} (hremaining : t.remaining = 0) (o : Op) :
    (t.perform o).clock = t.clock := by
  change t.clock + t.remaining = t.clock
  rw [hremaining]
  simp

theorem sleepUs_of_switching {o : firmware.Op} (h : Switching o) : sleepUs o = none := by
  cases o with
  | vTaskDelay file ms => cases file <;> first | rfl | exact absurd rfl h
  | _ => rfl

theorem buttons_of_noClear {o : firmware.Op} (h : NoClear o) (w : World) :
    (w.perform o).buttons = w.buttons := by
  cases o with
  | clearPressed b => exact absurd rfl (h b)
  | _ => rfl

def Instant (o : firmware.Op) : Prop := sleepUs o = none ∧ NoClear o

theorem instant_of_switching {o : firmware.Op} (h : Switching o) : Instant o :=
  ⟨sleepUs_of_switching h, noClear_of_toggling (toggling_of_switching h)⟩

theorem instant_of_booting {o : firmware.Op} (h : Booting o) : Instant o := by
  refine ⟨?_, noClear_of_booting h⟩
  cases o with
  | vTaskDelay file ms => cases file <;> first | rfl | exact absurd rfl h
  | _ => rfl

theorem switchScreen_instant (next : Screen) : Only Instant (displaySwitchScreen next) :=
  (switchScreen_switching next).mono fun _ => instant_of_switching

/-- A system that runs the task on a clock and may keep notes of it. The invariant holds
    before every operation, and a clear finds its flag up. -/
structure Clocked (σ ν : Type) where
  system : System firmware σ
  guard : firmware.Op → σ → Prop
  time : σ → TimedWorld
  note : σ → ν
  invariant : σ → Prop
  still : ∀ {s t}, Awake (time s) → system.env s t → t = s
  acts : ∀ {o s r u}, system.act o s r u → Answers o (time s).world r ∧
    (time s).remaining = 0 ∧ time u = (time s).perform o ∧ note u = note s
  kept : ∀ {o s r u}, system.act o s r u → sleepUs o = none → invariant s → invariant u
  guarded : ∀ {o s}, NoClear o → invariant s → guard o s
  cleared : ∀ {b s}, ((time s).world.buttons b).pressed = true → invariant s →
    guard (.clearPressed b) s

abbrev View (ν : Type) := Screen → Buttons → ν → ℤ → Prop

section Rules
variable {σ ν : Type} (C : Clocked σ ν)

def Clocked.Sees (A : View ν) (s : σ) : Prop :=
  A (C.time s).world.statics.currentScreen (C.time s).world.buttons (C.note s) (C.time s).clock

/-- The task is running, and `A` holds of what it knows. -/
def Clocked.Busy (A : View ν) (s : σ) : Prop :=
  Awake (C.time s) ∧ C.invariant s ∧ C.Sees A s

abbrev Clocked.Runs {α : Type} (P : σ → Prop) (p : Firmware α) (Q : α → σ → Prop) : Prop :=
  Triple C.system C.guard P p Q

variable {C} {P : σ → Prop} {α : Type}

theorem stable_busy (A : View ν) : Stable C.system (C.Busy A) := by
  intro s t h e
  rwa [C.still h.1 e]

theorem Clocked.Busy.mono {A B : View ν} {s : σ} (h : C.Busy A s)
    (hAB : ∀ S b n now, A S b n now → B S b n now) : C.Busy B s :=
  ⟨h.1, h.2.1, hAB _ _ _ _ h.2.2⟩

theorem busy_act {A : View ν} {o : Op} {s u : σ} {r : o.Res} (ho : Instant o)
    (hact : C.system.act o s r u) (hs : C.invariant s)
    (hA : A ((C.time s).perform o).world.statics.currentScreen (C.time s).world.buttons
      (C.note s) (C.time s).clock) : C.Busy A u := by
  obtain ⟨-, hremaining, htime, hnote⟩ := C.acts hact
  have hbuttons : ((C.time s).perform o).world.buttons = (C.time s).world.buttons :=
    buttons_of_noClear ho.2 _
  refine ⟨?_, C.kept hact ho.1 hs, ?_⟩
  · rw [htime]
    exact awake_perform ho.1
  · unfold Clocked.Sees
    rw [htime, hnote, hbuttons, clock_perform hremaining]
    exact hA

/-- An operation that takes no time, from a state in which the task may be asleep. -/
theorem busy_ask {o : Op} {A : o.Res → View ν} (ho : Instant o) (hP : Stable C.system P)
    (hinvariant : ∀ s, P s → C.invariant s)
    (hA : ∀ s r, P s → (C.time s).remaining = 0 → Answers o (C.time s).world r →
      A r ((C.time s).perform o).world.statics.currentScreen (C.time s).world.buttons
        (C.note s) (C.time s).clock) :
    C.Runs P (ask o) fun r => C.Busy (A r) := by
  refine Triple.perform hP (fun _ => stable_busy _)
    (fun s hs => C.guarded ho.2 (hinvariant s hs)) fun s r u hs hact => ?_
  obtain ⟨hanswer, hremaining, -⟩ := C.acts hact
  exact busy_act ho hact (hinvariant s hs) (hA s r hs hremaining hanswer)

theorem busy_call {A : View ν} (r : Routine) : C.Runs (C.Busy A) (called r) fun _ => C.Busy A :=
  busy_ask (instant_of_switching trivial) (stable_busy A) (fun _ h => h.2.1) fun _ _ h _ _ => h.2.2

theorem busy_load {A : View ν} : C.Runs (C.Busy A) loadCurrentScreen
    fun (S : Screen) => C.Busy fun S' b n now => A S' b n now ∧ S = S' :=
  busy_ask (instant_of_switching trivial) (stable_busy A) (fun _ h => h.2.1)
    fun _ _ h _ hS => ⟨h.2.2, hS⟩

theorem busy_test {A : View ν} (b : Button) (hP : Stable C.system P)
    (hinvariant : ∀ s, P s → C.invariant s)
    (hA : ∀ s, P s → (C.time s).remaining = 0 → C.Sees A s) :
    C.Runs P (togglePressed b)
      fun (pressed : Bool) => C.Busy fun S s n now => A S s n now ∧ pressed = (s b).pressed :=
  busy_ask ⟨rfl, fun _ h => by cases h⟩ hP hinvariant
    fun s _ hs hremaining hpressed => ⟨hA s hs hremaining, hpressed⟩

theorem busy_clear {A B : View ν} (b : Button) (hup : ∀ S s n now, A S s n now → (s b).pressed = true)
    (hAB : ∀ S s n now, A S s n now →
      B S (Function.update s b { s b with pressed := false }) n now) :
    C.Runs (C.Busy A) (clearPressed b) fun _ => C.Busy B := by
  refine Triple.perform (stable_busy A) (fun _ => stable_busy B)
    (fun s hs => C.cleared (hup _ _ _ _ hs.2.2) hs.2.1) ?_
  rintro s r u ⟨-, hinvariant, hs⟩ hact
  obtain ⟨-, hremaining, htime, hnote⟩ := C.acts hact
  refine ⟨?_, C.kept hact rfl hinvariant, ?_⟩
  · rw [htime]
    exact awake_perform rfl
  · unfold Clocked.Sees
    rw [htime, hnote, clock_perform hremaining]
    exact hAB _ _ _ _ hs

/-- The task falls asleep: what holds then is known until it wakes. -/
theorem busy_sleep {A : View ν} {Q : σ → Prop} (ms : ℕ) (hQ : Stable C.system Q)
    (hA : ∀ s, (C.time s).remaining = ms * 1000 → C.Sees A s → Q s) :
    C.Runs (C.Busy A) (vTaskDelay .main ms) fun _ => Q := by
  refine Triple.perform (stable_busy A) (fun _ => hQ)
    (fun s hs => C.guarded (fun _ h => by cases h) hs.2.1) fun s r u hs hact => ?_
  obtain ⟨-, hremaining, htime, hnote⟩ := C.acts hact
  refine hA u (by rw [htime]; rfl) ?_
  unfold Clocked.Sees
  rw [htime, hnote, clock_perform hremaining]
  exact hs.2.2

theorem busy_instant {p : Firmware α} (hp : Only Instant p) (A : Buttons → ν → ℤ → Prop) :
    C.Runs (C.Busy fun _ => A) p fun _ => C.Busy fun _ => A :=
  Triple.of_only hp (stable_busy _) (fun _ _ ho hs => C.guarded ho.2 hs.2.1)
    fun _ _ _ _ ho hs hact => busy_act ho hact hs.2.1 hs.2.2

theorem switchScreen_lands {A : Buttons → ν → ℤ → Prop} {next : Screen} {draw : Firmware Unit}
    (hdraw : render next = some draw) (hP : Stable C.system P)
    (hinvariant : ∀ s, P s → C.invariant s)
    (hA : ∀ s, P s → (C.time s).remaining = 0 → C.Sees (fun _ => A) s) :
    C.Runs P (displaySwitchScreen next)
      fun _ => C.Busy fun S s n now => A s n now ∧ S = next := by
  have hcall : C.Runs P (called (.switchScreen next)) fun _ => C.Busy fun _ => A :=
    busy_ask (instant_of_switching trivial) hP hinvariant fun s _ hs hremaining _ =>
      hA s hs hremaining
  refine hcall.seq (busy_load.bind fun (S : Screen) => ?_)
  change Triple _ _ _ (if S = next then pure () else _) _
  split_ifs with hS
  · refine Triple.pure (stable_busy _) fun s hs => hs.mono fun S' b n now h => ?_
    exact ⟨h.1, h.2.symm.trans hS⟩
  · have hrender : C.Runs (C.Busy fun _ => A) draw fun _ => C.Busy fun _ => A :=
      busy_instant ((render_silent hdraw).mono fun _ h =>
        instant_of_switching (switching_of_silent h)) A
    rw [hdraw]
    dsimp only
    refine (hrender.conseq (fun s hs => hs.mono fun _ _ _ _ h => h.1) fun _ _ h => h).seq ?_
    exact busy_ask (instant_of_switching trivial) (stable_busy _) (fun _ h => h.2.1)
      fun _ _ h _ _ => ⟨h.2.2, rfl⟩

theorem busy_appInit {A : Buttons → ν → ℤ → Prop} {s₀ : σ} (tries : ℕ)
    (h : C.Busy (fun _ => A) s₀) :
    Safe C.system C.guard (fun _ => C.Busy fun _ => A) (appInit tries) s₀ :=
  busy_instant ((appInit_booting tries).mono fun _ => instant_of_booting) A s₀ h

variable (C) in
/-- What one pass has to do: `Rests` holds in the delay at its end, `Warned` in the sleep on
    `SCREEN_WARN`, `Served` after a submode flag has been cleared, and `Passed` before the
    delay. -/
structure Clocked.Pass (Rests Warned : σ → Prop) (Head Served Passed : View ν) : Prop where
  stable_rests : Stable C.system Rests
  stable_warned : Stable C.system Warned
  rests_invariant : ∀ s, Rests s → C.invariant s
  warned_invariant : ∀ s, Warned s → C.invariant s
  head : ∀ s, Rests s → (C.time s).remaining = 0 → C.Sees Head s
  modeUp : ∀ S s n now, Head S s n now → (s .mode).pressed = true → ∀ S', S' ≠ .mainLaps →
    Passed S' (Function.update s .mode { s .mode with pressed := false }) n now
  submodeUp : ∀ S s n now, Head S s n now → (s .mode).pressed = false →
    (s .submode).pressed = true →
    Served S (Function.update s .submode { s .submode with pressed := false }) n now
  bothDown : ∀ S s n now, Head S s n now → (∀ b, (s b).pressed = false) → Passed S s n now
  served : ∀ S s n now, Served S s n now → ∀ S', Passed S' s n now
  warned : ∀ s, (C.time s).remaining = 500000 →
    C.Sees (fun S s n now => Served .mainLaps s n now ∧ S = .warn) s → Warned s
  woken : ∀ s, Warned s → (C.time s).remaining = 0 → C.Sees (fun _ => Passed .debugRtd) s
  rests : ∀ s, (C.time s).remaining = 100000 → C.Sees Passed s → Rests s

section Pass
variable {Rests Warned : σ → Prop} {Head Served Passed : View ν}
variable (hpass : C.Pass Rests Warned Head Served Passed)
include hpass

omit hpass in
theorem toggleWhetherDrive_passed :
    C.Runs (C.Busy fun _ s n now => ∀ S, S ≠ .mainLaps → Passed S s n now) toggleWhetherDrive
      fun _ => C.Busy Passed := by
  have hlands : ∀ {next : Screen} {draw : Firmware Unit}, render next = some draw →
      next ≠ .mainLaps → C.Runs (C.Busy fun _ s n now => ∀ S, S ≠ .mainLaps → Passed S s n now)
        (displaySwitchScreen next) fun _ => C.Busy Passed := by
    intro next draw hdraw hnext
    refine (switchScreen_lands hdraw (stable_busy _) (fun _ h => h.2.1) fun _ h _ => h.2.2).conseq
      (fun _ h => h) fun _ s h => h.mono ?_
    rintro S b n now ⟨hall, rfl⟩
    exact hall S hnext
  have hload : C.Runs (C.Busy fun _ s n now => ∀ S, S ≠ .mainLaps → Passed S s n now)
      loadCurrentScreen fun _ => C.Busy fun _ s n now => ∀ S, S ≠ .mainLaps → Passed S s n now :=
    busy_load.conseq (fun _ h => h) fun _ _ h => h.mono fun _ _ _ _ h => h.1
  refine (busy_call _).seq (hload.bind fun (S : Screen) => ?_)
  change Triple _ _ _ (if S = .debugNoRtd then displaySwitchScreen .mainNoLaps
    else displaySwitchScreen .debugNoRtd) _
  split_ifs
  · exact hlands rfl (by decide)
  · exact hlands rfl (by decide)

theorem toggleDuringDrive_passed :
    C.Runs (C.Busy Served) toggleDuringDrive fun _ => C.Busy Passed := by
  have hplain : ∀ S next, C.Runs (C.Busy fun S' s n now => Served S' s n now ∧ S = S')
      (displaySwitchScreen next) fun _ => C.Busy Passed := by
    intro S next
    have hswitch : C.Runs (C.Busy fun _ s n now => ∀ S', Passed S' s n now)
        (displaySwitchScreen next) fun _ => C.Busy fun _ s n now => ∀ S', Passed S' s n now :=
      busy_instant (switchScreen_instant next) _
    exact hswitch.conseq (fun s hs => hs.mono fun S' b n now h => hpass.served _ _ _ _ h.1)
      fun _ s hs => hs.mono fun S' b n now h => h S'
  refine (busy_call _).seq (busy_load.bind fun (S : Screen) => ?_)
  cases S with
  | mainNoLaps | debugRtd => exact hplain _ _
  | mainLaps =>
    have hwarn : C.Runs (C.Busy fun S s n now => Served S s n now ∧ .mainLaps = S)
        (displaySwitchScreen .warn)
        fun _ => C.Busy fun S s n now => Served .mainLaps s n now ∧ S = .warn := by
      refine switchScreen_lands (show render .warn = some displayWarn from rfl) (stable_busy _)
        (fun _ h => h.2.1) fun s hs _ => ?_
      have hserved := hs.2.2.1
      rwa [← hs.2.2.2] at hserved
    have hwake : C.Runs Warned (displaySwitchScreen .debugRtd) fun _ => C.Busy Passed := by
      refine (switchScreen_lands (show render .debugRtd = some _ from rfl) hpass.stable_warned
        hpass.warned_invariant hpass.woken).conseq (fun _ h => h) fun _ s h => h.mono ?_
      rintro S b n now ⟨hpassed, rfl⟩
      exact hpassed
    exact hwarn.seq ((busy_sleep 500 hpass.stable_warned hpass.warned).seq hwake)
  | debugNoRtd | warn | other value outside =>
    exact Triple.pure (stable_busy _) fun s hs => hs.mono fun S b n now h =>
      hpass.served _ _ _ _ h.1 S

theorem pollButtons_passed : C.Runs Rests pollButtons fun _ => C.Busy Passed := by
  refine (busy_test .mode hpass.stable_rests hpass.rests_invariant hpass.head).bind
    fun (pressed : Bool) => ?_
  cases pressed with
  | true =>
    refine (busy_clear .mode (fun S s n now h => h.2.symm) fun S s n now h => ?_).seq
      toggleWhetherDrive_passed
    exact hpass.modeUp S s n now h.1 h.2.symm
  | false =>
    refine (busy_test .submode (stable_busy _) (fun _ h => h.2.1) fun _ h _ => h.2.2).bind
      fun (pressed : Bool) => ?_
    cases pressed with
    | true =>
      refine (busy_clear .submode (fun S s n now h => h.2.symm) fun S s n now h =>
        hpass.submodeUp S s n now h.1.1 h.1.2.symm h.2.symm).seq ?_
      refine busy_load.bind fun (S : Screen) => ?_
      change Triple _ _ _ (if S = .debugNoRtd then pure () else toggleDuringDrive) _
      split_ifs
      · exact Triple.pure (stable_busy _) fun s hs => hs.mono fun S' b n now h =>
          hpass.served _ _ _ _ h.1 S'
      · exact (toggleDuringDrive_passed hpass).conseq
          (fun s hs => hs.mono fun _ _ _ _ h => h.1) fun _ _ h => h
    | false =>
      refine Triple.pure (stable_busy _) fun s hs => hs.mono fun S b n now h =>
        hpass.bothDown S b n now h.1.1 fun button => ?_
      cases button with
      | mode => exact h.1.2.symm
      | submode => exact h.2.symm

theorem loopBody_rests : C.Runs Rests loopBody fun _ => Rests :=
  (pollButtons_passed hpass).seq ((busy_sleep 100 hpass.stable_rests hpass.rests).seq
    (Triple.pure hpass.stable_rests fun _ h => h))

end Pass

end Rules

end SteeringDisplay.TimedPass
