import SteeringDisplay.LoopRuns

set_option autoImplicit false

/-!
# The loop and the handlers on a clock

Time passes only while the task sleeps in a delay call of main.c, and handlers
run only then. Times are in microseconds.
-/
namespace SteeringDisplay.TimedLoop
open ProgramTree ProgramInterference FirmwareInterface PanelDriver DisplayScreens ButtonLoop
open Footprints LoopWorld LoopPasses LoopRuns

/-- The clock, and how long the delay in progress still lasts. -/
structure TimedWorld where
  world : World
  clock : ℤ
  remaining : ℕ
  asleep : Bool

def TimedWorld.initial (start : ℤ) : TimedWorld := ⟨.initial, start, 0, false⟩

def sleepUs : Op → Option ℕ
  | .vTaskDelay .main ms => some (ms * 1000)
  | _ => none

/-- The operation is performed when the delay in progress is over. -/
def TimedWorld.perform (t : TimedWorld) (o : Op) : TimedWorld where
  world := t.world.perform o
  clock := t.clock + t.remaining
  remaining := (sleepUs o).getD 0
  asleep := (sleepUs o).isSome

inductive Passing (allow : Button → World → Prop) : TimedWorld → TimedWorld → Prop
  | tick {t : TimedWorld} (d : ℕ) (hd : d ≤ t.remaining) :
      Passing allow t { t with clock := t.clock + d, remaining := t.remaining - d }
  | press {t : TimedWorld} (b : Button) (hasleep : t.asleep = true)
      (harmed : t.world.armed b = true)
      (hallow : Accepts t.clock (t.world.buttons b) → allow b t.world) :
      Passing allow t { t with world := t.world.press b t.clock }

def timedSystem (allow : Button → World → Prop) : System firmware TimedWorld where
  env := Passing allow
  act o t r u := Answers o t.world r ∧ t.remaining = 0 ∧ u = t.perform o

def TimedReach (allow : Button → World → Prop) (start : ℤ) (tries : ℕ) :
    Firmware Bool → TimedWorld → Prop :=
  Reach (timedSystem allow) (appInit tries) loopBody (.initial start)

/-- No press is accepted while `SCREEN_WARN` is shown. -/
def notOnWarn (_ : Button) (w : World) : Prop := w.statics.currentScreen ≠ .warn

def timedSteady : Handler firmware TimedWorld := fun o t => (reply o t.world, t.perform o)

theorem timedSteady_conforms (allow : Button → World → Prop) :
    Conforms (timedSystem allow) timedSteady := by
  intro o t
  refine ⟨_, .single (.tick t.remaining (Nat.le_refl _)), (steady_act allow o t.world).1,
    Nat.sub_self _, ?_⟩
  change t.perform o = _
  unfold TimedWorld.perform
  simp

theorem timedSteady_tracks : Tracks timedSteady TimedWorld.world where
  answers o t := steady_tracks.answers o t.world
  performs _ _ := rfl

theorem foldl_timed (os : List Op) (t : TimedWorld) :
    (os.foldl TimedWorld.perform t).world = os.foldl World.perform t.world ∧
      (os.foldl TimedWorld.perform t).clock + (os.foldl TimedWorld.perform t).remaining =
        t.clock + t.remaining + (os.filterMap sleepUs).sum := by
  induction os generalizing t with
  | nil => exact ⟨rfl, by simp⟩
  | cons o os ih =>
    obtain ⟨hworld, hdue⟩ := ih (t.perform o)
    refine ⟨hworld, ?_⟩
    rw [List.foldl_cons, hdue, List.filterMap_cons]
    change t.clock + t.remaining + ((sleepUs o).getD 0 : ℕ) + _ = _
    cases sleepUs o with
    | none => simp
    | some d =>
      simp only [Option.getD_some, List.sum_cons]
      push_cast
      ring

def sleptUs : Event → Option ℕ
  | .slept ms => some (ms * 1000)
  | _ => none

theorem sleepUs_eq (o : Op) : sleepUs o = (eventOf o).bind sleptUs := by
  cases o with
  | vTaskDelay file ms => cases file <;> rfl
  | _ => rfl

theorem filterMap_sleepUs (os : List Op) :
    os.filterMap sleepUs = (os.filterMap eventOf).filterMap sleptUs := by
  rw [List.filterMap_filterMap]
  exact congrArg (fun f => List.filterMap f os) (funext sleepUs_eq)

theorem foldl_shows {os : List Op} {es : List Event} (hes : os.filterMap eventOf = es)
    (t : TimedWorld) :
    (os.foldl TimedWorld.perform t).world.statics.currentScreen =
        after t.world.statics.currentScreen es ∧
      (os.foldl TimedWorld.perform t).world.buttons = es.foldl lower t.world.buttons ∧
      (os.foldl TimedWorld.perform t).world.log = t.world.log ++ es ∧
      (os.foldl TimedWorld.perform t).clock + (os.foldl TimedWorld.perform t).remaining =
        t.clock + t.remaining + (es.filterMap sleptUs).sum := by
  obtain ⟨hworld, hdue⟩ := foldl_timed os t
  obtain ⟨hlog, hbuttons, hscreen⟩ := foldl_perform os t.world
  rw [hworld, hlog, hbuttons, hscreen, hes, hdue, filterMap_sleepUs, hes]
  exact ⟨rfl, rfl, rfl, rfl⟩

theorem run_shows {α : Type} {p : Firmware α} {t : TimedWorld} {es : List Event}
    (h : Leaves timedSteady TimedWorld.world p t es) :
    (run timedSteady p t).2.world.statics.currentScreen =
        after t.world.statics.currentScreen es ∧
      (run timedSteady p t).2.world.buttons = es.foldl lower t.world.buttons ∧
      (run timedSteady p t).2.world.log = t.world.log ++ es ∧
      (run timedSteady p t).2.clock + (run timedSteady p t).2.remaining =
        t.clock + t.remaining + (es.filterMap sleptUs).sum := by
  have hfold : (run timedSteady p t).2 = (trace timedSteady p t).foldl TimedWorld.perform t :=
    run_foldl_trace timedSteady (fun _ _ => rfl) p t
  rw [hfold]
  exact foldl_shows (leaves_trace timedSteady_tracks h) t

theorem sleepUs_of_booting {o : firmware.Op} (h : Booting o) : sleepUs o = none := by
  cases o with
  | vTaskDelay file ms => cases file <;> first | rfl | exact absurd rfl h
  | _ => rfl

structure Snapshot where
  screen : Screen
  buttons : Buttons
  log : List Event
  clock : ℤ
  remaining : ℕ
  asleep : Bool

def TimedWorld.snapshot (t : TimedWorld) : Snapshot :=
  ⟨t.world.statics.currentScreen, t.world.buttons, t.world.log, t.clock, t.remaining, t.asleep⟩

def TimedAt (allow : Button → World → Prop) (start : ℤ) (p : Firmware Bool) (m : Snapshot) :
    Prop :=
  ∃ t, TimedReach allow start 1 p t ∧ Armed t.world ∧ t.snapshot = m

variable {allow : Button → World → Prop} {start : ℤ} {p : Firmware Bool} {m : Snapshot}

theorem TimedAt.tick (h : TimedAt allow start p m) (d : ℕ) (hd : d ≤ m.remaining) :
    TimedAt allow start p { m with clock := m.clock + d, remaining := m.remaining - d } := by
  obtain ⟨t, ht, harmed, rfl⟩ := h
  exact ⟨_, ht.env (.tick d hd), harmed, rfl⟩

theorem TimedAt.press (h : TimedAt allow start p m) (b : Button) (hasleep : m.asleep = true)
    (hnow : Accepts m.clock (m.buttons b))
    (hallow : ∀ w : World, w.statics.currentScreen = m.screen → allow b w) :
    TimedAt allow start p
      { m with buttons := controllerIsr b m.clock m.buttons, log := m.log ++ [.accepted b] } := by
  obtain ⟨t, ht, harmed, rfl⟩ := h
  refine ⟨_, ht.env (.press b hasleep (harmed b) fun _ => hallow _ rfl), harmed, ?_⟩
  have hlog : (t.world.press b t.clock).log = t.world.log ++ [.accepted b] := by
    change t.world.log ++ ite _ _ _ = _
    rw [if_pos (show Accepts t.clock (t.world.buttons b) from hnow)]
  unfold TimedWorld.snapshot
  rw [hlog]
  rfl

theorem timedAt_boot (allow : Button → World → Prop) (start : ℤ) :
    TimedAt allow start (.ret true)
      ⟨.debugNoRtd, .initial, switched .debugNoRtd, start, 0, false⟩ := by
  have hidle : (run timedSteady (appInit 1) (.initial start)).2.remaining = 0 ∧
      (run timedSteady (appInit 1) (.initial start)).2.asleep = false := by
    have hkeeps : Hoare timedSteady (fun t : TimedWorld => t.remaining = 0 ∧ t.asleep = false)
        (appInit 1) (fun _ t => t.remaining = 0 ∧ t.asleep = false) := by
      refine Hoare.of_only (appInit_booting 1) (fun o t ho _ => ?_)
      change (sleepUs o).getD 0 = 0 ∧ (sleepUs o).isSome = false
      rw [sleepUs_of_booting ho]
      exact ⟨rfl, rfl⟩
    exact hkeeps _ ⟨rfl, rfl⟩
  have hready : (run timedSteady (appInit 1) (.initial start)).1 = true := run_appInit_fst rfl
  obtain ⟨hscreen, hbuttons, hlog, hclock⟩ :=
    run_shows (leaves_appInit timedSteady_tracks (by rfl) hready)
  have harmed := armed_appInit timedSteady_tracks hready
  have hreach : TimedReach allow start 1 (.ret (run timedSteady (appInit 1) (.initial start)).1)
      (run timedSteady (appInit 1) (.initial start)).2 := by
    refine Reach.run (timedSteady_conforms allow) (f := pure) ?_
    rw [bind_pure]
    exact Reach.start
  rw [hready] at hreach
  generalize (run timedSteady (appInit 1) (.initial start)).2 = u at *
  obtain ⟨hremaining, hasleep⟩ := hidle
  have hsum : ((switched .debugNoRtd).filterMap sleptUs).sum = 0 := rfl
  have hstart : u.clock = start := by
    rw [hremaining, hsum] at hclock
    simpa [TimedWorld.initial] using hclock
  refine ⟨u, hreach, harmed, ?_⟩
  unfold TimedWorld.snapshot
  rw [hscreen, hbuttons, hlog, hstart, hremaining, hasleep]
  rfl

theorem TimedAt.pass (h : TimedAt allow start (.ret true) m) :
    TimedAt allow start (.ret true)
      ⟨after m.screen (passOf m.screen m.buttons),
        (passOf m.screen m.buttons).foldl lower m.buttons,
        m.log ++ passOf m.screen m.buttons,
        m.clock + m.remaining + ((pollOf m.screen m.buttons).filterMap sleptUs).sum,
        100000, true⟩ := by
  obtain ⟨t, ht, harmed, rfl⟩ := h
  obtain ⟨hscreen, hbuttons, hlog, _⟩ := run_shows (leaves_loopBody timedSteady_tracks t)
  obtain ⟨_, _, _, hclock⟩ := run_shows (leaves_pollButtons timedSteady_tracks t)
  have hreach : TimedReach allow start 1 (.ret (run timedSteady loopBody t).1)
      (run timedSteady loopBody t).2 := by
    refine Reach.run (timedSteady_conforms allow) (f := pure) ?_
    rw [bind_pure]
    exact ht.again
  have hend : run timedSteady loopBody t =
      (true, (run timedSteady pollButtons t).2.perform (.vTaskDelay .main 100)) := by
    unfold loopBody
    rw [run_bind, run_bind, run_pure]
    rfl
  refine ⟨(run timedSteady loopBody t).2, ?_, ?_, ?_⟩
  · rwa [hend] at hreach ⊢
  · exact armed_run timedSteady_tracks loopBody harmed
  · unfold TimedWorld.snapshot
    rw [hscreen, hbuttons, hlog, hend]
    change Snapshot.mk _ _ _ ((run timedSteady pollButtons t).2.clock +
      (run timedSteady pollButtons t).2.remaining) 100000 true = _
    rw [hclock]

def flags (mode submode : ButtonState) : Buttons
  | .mode => mode
  | .submode => submode

theorem TimedAt.shows {S : Screen} {mode submode : ButtonState} {clock : ℤ} {remaining : ℕ}
    (h : TimedAt allow start p m) (hscreen : m.screen = S) (hmode : m.buttons .mode = mode)
    (hsub : m.buttons .submode = submode) (hclock : m.clock = clock)
    (hremaining : m.remaining = remaining) (hasleep : m.asleep = true) :
    ∃ l, TimedAt allow start p ⟨S, flags mode submode, l, clock, remaining, true⟩ := by
  have hbuttons : m.buttons = flags mode submode := by
    funext b
    cases b with
    | mode => exact hmode
    | submode => exact hsub
  obtain ⟨screen, buttons, log, c, r, asleep⟩ := m
  obtain rfl : screen = S := hscreen
  obtain rfl : buttons = flags mode submode := hbuttons
  obtain rfl : c = clock := hclock
  obtain rfl : r = remaining := hremaining
  obtain rfl : asleep = true := hasleep
  exact ⟨log, h⟩

theorem TimedAt.passes {S S' : Screen} {s : Buttons} {l : List Event} {clock clock' : ℤ}
    {remaining : ℕ} {asleep : Bool} {mode submode : ButtonState}
    (h : TimedAt allow start (.ret true) ⟨S, s, l, clock, remaining, asleep⟩)
    (hscreen : after S (passOf S s) = S') (hmode : (passOf S s).foldl lower s .mode = mode)
    (hsub : (passOf S s).foldl lower s .submode = submode)
    (hplain : ((pollOf S s).filterMap sleptUs).sum = 0) (hclock : clock + remaining = clock') :
    ∃ l', TimedAt allow start (.ret true)
      ⟨S', flags mode submode, l', clock', 100000, true⟩ := by
  refine h.pass.shows hscreen hmode hsub ?_ rfl rfl
  change clock + remaining + (((pollOf S s).filterMap sleptUs).sum : ℕ) = clock'
  rw [hplain, hclock]
  simp

theorem TimedAt.waits {S : Screen} {s : Buttons} {l : List Event} {clock clock' : ℤ}
    {remaining remaining' : ℕ}
    (h : TimedAt allow start p ⟨S, s, l, clock, remaining, true⟩) (d : ℕ)
    (hclock : clock + d = clock') (hremaining : remaining' + d = remaining) :
    TimedAt allow start p ⟨S, s, l, clock', remaining', true⟩ := by
  subst hclock hremaining
  have hticked := h.tick d (Nat.le_add_left d remaining')
  rwa [Nat.add_sub_cancel_right] at hticked

theorem TimedAt.pressMode {S : Screen} {mode submode : ButtonState} {l : List Event} {clock : ℤ}
    {remaining : ℕ}
    (h : TimedAt allow start p ⟨S, flags mode submode, l, clock, remaining, true⟩)
    (hnow : Accepts clock mode)
    (hallow : ∀ w : World, w.statics.currentScreen = S → allow .mode w) :
    ∃ l', TimedAt allow start p ⟨S, flags ⟨true, clock⟩ submode, l', clock, remaining, true⟩ := by
  refine (h.press .mode rfl hnow hallow).shows rfl ?_ rfl rfl rfl rfl
  change debounce clock mode = ⟨true, clock⟩
  unfold debounce
  rw [if_pos hnow]

theorem TimedAt.pressSubmode {S : Screen} {mode submode : ButtonState} {l : List Event}
    {clock : ℤ} {remaining : ℕ}
    (h : TimedAt allow start p ⟨S, flags mode submode, l, clock, remaining, true⟩)
    (hnow : Accepts clock submode)
    (hallow : ∀ w : World, w.statics.currentScreen = S → allow .submode w) :
    ∃ l', TimedAt allow start p ⟨S, flags mode ⟨true, clock⟩, l', clock, remaining, true⟩ := by
  refine (h.press .submode rfl hnow hallow).shows rfl rfl ?_ rfl rfl rfl
  change debounce clock submode = ⟨true, clock⟩
  unfold debounce
  rw [if_pos hnow]

theorem TimedAt.sleeps (h : TimedAt allow start (.ret true) m) {ms : ℕ} {es fs : List Event}
    (hes : passOf m.screen m.buttons = es ++ .slept ms :: fs) :
    ∃ p, TimedAt allow start p
      ⟨after m.screen es, es.foldl lower m.buttons, m.log ++ es ++ [.slept ms],
        m.clock + m.remaining + (es.filterMap sleptUs).sum, ms * 1000, true⟩ := by
  obtain ⟨t, ht, harmed, rfl⟩ := h
  have htrace := leaves_trace timedSteady_tracks (leaves_loopBody timedSteady_tracks t)
  obtain ⟨before, rest, hsplit, hbefore, hrest⟩ :=
    List.filterMap_eq_append_iff.mp (htrace.trans hes)
  obtain ⟨silent, o, later, rfl, hsilent, ho, _⟩ := List.filterMap_eq_cons_iff.mp hrest
  obtain rfl : .vTaskDelay .main ms = o := Option.some.inj (opOf_eventOf ho)
  have hevents : (before ++ silent).filterMap eventOf = es := by
    rw [List.filterMap_append, hbefore, List.filterMap_eq_nil_iff.mpr hsilent, List.append_nil]
  have hbody : TimedReach allow start 1 (loopBody >>= pure) t := by
    rw [bind_pure]
    exact ht.again
  rw [← List.append_assoc] at hsplit
  obtain ⟨k, hk⟩ := Reach.split (timedSteady_conforms allow) (fun _ _ => rfl) hbody hsplit
  obtain ⟨hscreen, hbuttons, hlog, hclock⟩ := foldl_shows hevents t
  have harmed' : Armed ((before ++ silent).foldl TimedWorld.perform t).world := by
    rw [(foldl_timed _ t).1]
    exact armed_foldl _ harmed
  replace hk : TimedReach allow start 1 (.op (.vTaskDelay .main ms) k)
      ((before ++ silent).foldl TimedWorld.perform t) := hk
  generalize (before ++ silent).foldl TimedWorld.perform t = u at *
  obtain ⟨v, henv, hact⟩ := timedSteady_conforms allow (Op.vTaskDelay .main ms) u
  refine ⟨_, _, Reach.act (hk.envs henv) hact, armed_perform harmed' _, ?_⟩
  change Snapshot.mk u.world.statics.currentScreen u.world.buttons (u.world.log ++ [.slept ms])
    (u.clock + u.remaining) (ms * 1000) true = _
  rw [hscreen, hbuttons, hlog, hclock]
  rfl

end SteeringDisplay.TimedLoop
