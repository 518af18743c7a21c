import SteeringDisplay.LoopPasses

set_option autoImplicit false

/-!
# Runs of `app_main` with presses between the passes

A panel that answers makes the task deterministic. Its runs, with handler calls at
the loop heads, are among those of the open system, whatever else that system keeps.
-/
namespace SteeringDisplay.LoopRuns
open ProgramTree ProgramInterference FirmwareInterface PanelDriver DisplayScreens ButtonLoop
open Footprints LoopWorld LoopPasses

def reply : (o : Op) → World → o.Res
  | .togglePressed b, w => (w.buttons b).pressed
  | .currentFont, w => w.statics.currentFont
  | .inGraphicMode, w => w.statics.inGraphicMode
  | .currentScreen, w => w.statics.currentScreen
  | .glyphCache ch, w => w.statics.glyphCache ch
  | .spiBusInitialize, _ | .spiBusAddDevice, _ => true
  | .readRegister reg, _ => if reg = 0 then (0x75 : UInt8) else (0xFF : UInt8)
  | .undefinedText _ _, _ => ([] : List UInt8)
  | .writeCommand _, _ | .writeData _, _ | .writeRegister _ _, _ | .vTaskDelay _ _, _
  | .setCurrentFont _, _ | .setInGraphicMode _, _ | .setCurrentScreen _, _
  | .setGlyphCache _ _, _ | .gpioIsrHandlerAdd _, _ | .clearPressed _, _ | .call _, _ => ()

def steady : Handler firmware World := fun o w => (reply o w, w.perform o)

theorem steady_act (allow : Button → World → Prop) (o : firmware.Op) (w : World) :
    (loopSystem allow).act o w (steady o w).1 (steady o w).2 := by
  refine ⟨?_, rfl⟩
  cases o <;> first | rfl | trivial

theorem steady_conforms (allow : Button → World → Prop) : Conforms (loopSystem allow) steady :=
  fun o w => ⟨w, .refl, steady_act allow o w⟩

def lower (s : Buttons) : Event → Buttons
  | .cleared b => Function.update s b { s b with pressed := false }
  | _ => s

theorem clearFlag_eq (s : Buttons) (o : Op) : clearFlag s o = (eventOf o).toList.foldl lower s := by
  cases o with
  | vTaskDelay file ms => cases file <;> rfl
  | _ => rfl

theorem foldl_perform (os : List Op) (w : World) :
    (os.foldl World.perform w).log = w.log ++ os.filterMap eventOf ∧
      (os.foldl World.perform w).buttons = (os.filterMap eventOf).foldl lower w.buttons ∧
      (os.foldl World.perform w).statics.currentScreen =
        after w.statics.currentScreen (os.filterMap eventOf) := by
  induction os generalizing w with
  | nil => exact ⟨(List.append_nil _).symm, rfl, rfl⟩
  | cons o os ih =>
    obtain ⟨hlog, hbuttons, hscreen⟩ := ih (w.perform o)
    have hcons : (o :: os).filterMap eventOf = (eventOf o).toList ++ os.filterMap eventOf := by
      rw [List.filterMap_cons]
      cases eventOf o <;> rfl
    have hstore : (w.perform o).statics.currentScreen =
        after w.statics.currentScreen (eventOf o).toList := currentScreen_store _ o
    rw [List.foldl_cons, hlog, hbuttons, hscreen, hcons, List.foldl_append, ← clearFlag_eq,
      after_append, ← hstore]
    exact ⟨List.append_assoc _ _ _, rfl, rfl⟩

theorem ownEvents_filterMap (os : List Op) :
    ownEvents (os.filterMap eventOf) = os.filterMap eventOf := by
  refine List.filter_eq_self.mpr (fun e he => ?_)
  obtain ⟨o, _, ho⟩ := List.mem_filterMap.mp he
  cases e with
  | accepted b =>
    have howns := ownEvents_eventOf o
    rw [ho] at howns
    exact absurd howns (by simp [ownEvents])
  | _ => rfl

/-- The handler does to a view of its state what the task does to the world. -/
structure Tracks {σ : Type} (h : Handler firmware σ) (world : σ → World) : Prop where
  answers : ∀ o s, Answers o (world s) (h o s).1
  performs : ∀ o s, world (h o s).2 = (world s).perform o

theorem steady_tracks : Tracks steady id where
  answers o w := (steady_act anyPress o w).1
  performs _ _ := rfl

section Tracking
variable {σ α β : Type} {h : Handler firmware σ} {world : σ → World} {s : σ}
variable {S : Screen} {es fs : List Event}

/-- Run from `s` without presses, the program leaves the events `es`. -/
def Leaves (h : Handler firmware σ) (world : σ → World) (p : Firmware α) (s : σ)
    (es : List Event) : Prop :=
  (world (run h p s).2).statics.currentScreen = after (world s).statics.currentScreen es ∧
    (world (run h p s).2).buttons = es.foldl lower (world s).buttons ∧
    (world (run h p s).2).log = (world s).log ++ es

theorem Leaves.screen {p : Firmware α} (hp : Leaves h world p s es)
    (hS : (world s).statics.currentScreen = S) :
    (world (run h p s).2).statics.currentScreen = after S es := by
  rw [hp.1, hS]

theorem Leaves.bind {p : Firmware α} {f : α → Firmware β} (hp : Leaves h world p s es)
    (hf : Leaves h world (f (run h p s).1) (run h p s).2 fs) :
    Leaves h world (p >>= f) s (es ++ fs) := by
  obtain ⟨hafter, hbuttons, hlog⟩ := hp
  obtain ⟨hafter', hbuttons', hlog'⟩ := hf
  unfold Leaves
  rw [run_bind, hafter', hbuttons', hlog', hafter, hbuttons, hlog, after_append,
    List.foldl_append, List.append_assoc]
  exact ⟨rfl, rfl, rfl⟩

variable (ht : Tracks h world)
include ht

theorem Tracks.foldl (p : Firmware α) (s : σ) :
    world (run h p s).2 = (trace h p s).foldl World.perform (world s) := by
  induction p generalizing s with
  | ret a => rfl
  | op o k ih =>
    change world (run h (k (h o s).1) (h o s).2).2 =
      (trace h (k (h o s).1) (h o s).2).foldl World.perform ((world s).perform o)
    rw [ih, ht.performs]

theorem Tracks.leaves {p : Firmware α} (hS : (world s).statics.currentScreen = S)
    (hend : At (after S es) (ownEvents (world s).log ++ es) (world (run h p s).2)) :
    Leaves h world p s es := by
  obtain ⟨hafter, hown⟩ := hend
  obtain ⟨hlog, hbuttons, _⟩ := foldl_perform (trace h p s) (world s)
  rw [ht.foldl, hlog, ownEvents_append, ownEvents_filterMap] at hown
  have hes := List.append_cancel_left hown
  refine ⟨by rw [hafter, hS], ?_, ?_⟩
  · rw [ht.foldl, hbuttons, hes]
  · rw [ht.foldl, hlog, hes]

theorem leaves_emits {p : Firmware α} (hS : (world s).statics.currentScreen = S)
    (hp : ∀ l, Emits (fun _ _ _ => True) anyPress p S l es) : Leaves h world p s es := by
  refine ht.leaves hS ?_
  have hwalk := walk_of_forall (fun _ _ _ => True) (fun _ _ _ => trivial) S
    (ownEvents (world s).log) es
  exact Safe.run world (hp _ hwalk (world s) ⟨hS, rfl⟩)
    fun o t => ⟨ht.answers o t, ht.performs o t⟩

theorem leaves_ask (o : Op) (s : σ) : Leaves h world (ask o) s (eventOf o).toList :=
  leaves_emits ht rfl fun _ => emits_ask _ o

theorem leaves_trace {p : Firmware α} (hp : Leaves h world p s es) :
    (trace h p s).filterMap eventOf = es := by
  obtain ⟨_, _, hlog⟩ := hp
  rw [ht.foldl, (foldl_perform _ (world s)).1] at hlog
  exact List.append_cancel_left hlog

end Tracking

def pollOf (S : Screen) (s : Buttons) : List Event :=
  if (s .mode).pressed then .tested .mode :: .cleared .mode :: whetherDrive S
  else if (s .submode).pressed then
    .tested .mode :: .tested .submode :: .cleared .submode :: guardedDuringDrive S
  else [.tested .mode, .tested .submode]

def passOf (S : Screen) (s : Buttons) : List Event := pollOf S s ++ [.slept 100]

section Tracking
variable {σ : Type} {h : Handler firmware σ} {world : σ → World} (ht : Tracks h world)
include ht

theorem leaves_test {α : Type} (b : Button) {f : Bool → Firmware α} {s : σ} {es : List Event}
    (hf : Leaves h world (f ((world s).buttons b).pressed) (h (.togglePressed b) s).2 es) :
    Leaves h world (togglePressed b >>= f) s (.tested b :: es) := by
  have hpressed : @Eq Bool (h (.togglePressed b) s).1 ((world s).buttons b).pressed :=
    ht.answers (.togglePressed b) s
  refine (leaves_ask ht (.togglePressed b) s).bind ?_
  change Leaves h world (f (h (.togglePressed b) s).1) _ _
  rw [hpressed]
  exact hf

theorem leaves_pollButtons (s : σ) :
    Leaves h world pollButtons s (pollOf (world s).statics.currentScreen (world s).buttons) := by
  obtain ⟨hscreen, hsame, -⟩ := leaves_ask ht (.togglePressed .mode) s
  unfold pollOf
  split_ifs with hmode hsub
  · refine leaves_test ht .mode ?_
    rw [if_pos hmode]
    have hclear := leaves_ask ht (.clearPressed .mode) (h (.togglePressed .mode) s).2
    exact hclear.bind (leaves_emits ht (hclear.screen hscreen) fun _ => emits_toggleWhetherDrive)
  · refine leaves_test ht .mode ?_
    rw [if_neg hmode]
    refine leaves_test ht .submode ?_
    have hup : ((world (h (.togglePressed .mode) s).2).buttons .submode).pressed = true :=
      (congrArg (fun w : Buttons => (w .submode).pressed) hsame).trans hsub
    rw [if_pos hup]
    have hagain := leaves_ask ht (.togglePressed .submode) (h (.togglePressed .mode) s).2
    have hclear := leaves_ask ht (.clearPressed .submode)
      (h (.togglePressed .submode) (h (.togglePressed .mode) s).2).2
    exact hclear.bind (leaves_emits ht (hclear.screen (hagain.screen hscreen)) fun _ =>
      emits_guardedDuringDrive)
  · refine leaves_test ht .mode ?_
    rw [if_neg hmode]
    refine leaves_test ht .submode ?_
    have hdown : ¬ ((world (h (.togglePressed .mode) s).2).buttons .submode).pressed = true :=
      fun hup => hsub ((congrArg (fun w : Buttons => (w .submode).pressed) hsame).symm.trans hup)
    rw [if_neg hdown]
    exact leaves_emits ht rfl fun _ => emits_pure _

theorem leaves_loopBody (s : σ) :
    Leaves h world loopBody s (passOf (world s).statics.currentScreen (world s).buttons) :=
  (leaves_pollButtons ht s).bind ((leaves_ask ht (.vTaskDelay .main 100) _).bind
    (leaves_emits ht rfl fun _ => emits_pure _))

omit ht in
theorem run_appInit_fst {tries : ℕ} {s₀ : σ}
    (hready : (run h (ra8875Init tries) s₀).1 = some true) :
    (run h (appInit tries) s₀).1 = true := by
  have hdisplay : (run h (displayInit tries) s₀).1 = true := by
    unfold displayInit
    rw [run_bind, hready]
    change (run h (displaySetup >>= fun _ => pure true) _).1 = true
    rw [run_bind, run_pure]
  unfold appInit
  rw [run_bind, hdisplay]
  exact congrArg Prod.fst (run_bind _ _ _ _)

theorem leaves_appInit {tries : ℕ} {s₀ : σ} (h₀ : world s₀ = .initial)
    (hready : (run h (appInit tries) s₀).1 = true) :
    Leaves h world (appInit tries) s₀ (switched .debugNoRtd) := by
  have hwalk := walk_of_forall (fun _ _ _ => True) (fun _ _ _ => trivial) .mainNoLaps []
    (switched .debugNoRtd)
  have hstart : At .mainNoLaps [] (world s₀) := by
    rw [h₀]
    exact ⟨rfl, rfl⟩
  have hemits : Triple (loopSystem anyPress) (guardOf fun _ _ _ => True) (At .mainNoLaps [])
      (appInit tries) _ := appInit_emits tries hwalk
  have hend := Safe.run (h := h) world (hemits _ hstart) fun o t => ⟨ht.answers o t, ht.performs o t⟩
  refine ht.leaves hstart.1 ?_
  rw [hstart.2]
  exact hend hready

end Tracking

def Armed (w : World) : Prop := ∀ b, w.armed b = true

theorem armed_perform {w : World} (hw : Armed w) (o : Op) : Armed (w.perform o) := by
  intro b
  cases o with
  | gpioIsrHandlerAdd b' =>
    change Function.update w.armed b' true b = true
    by_cases h : b = b'
    · rw [h, Function.update_self]
    · rw [Function.update_of_ne h, hw b]
  | _ => exact hw b

theorem armed_foldl (os : List Op) {w : World} (hw : Armed w) :
    Armed (os.foldl World.perform w) := by
  induction os generalizing w with
  | nil => exact hw
  | cons o os ih => exact ih (armed_perform hw o)

theorem armed_run {σ α : Type} {h : Handler firmware σ} {world : σ → World} (ht : Tracks h world)
    (p : Firmware α) {s : σ} (hs : Armed (world s)) : Armed (world (run h p s).2) := by
  rw [ht.foldl]
  exact armed_foldl _ hs

theorem armed_appInit {σ : Type} {h : Handler firmware σ} {world : σ → World}
    (ht : Tracks h world) {tries : ℕ} {s₀ : σ} (hready : (run h (appInit tries) s₀).1 = true) :
    Armed (world (run h (appInit tries) s₀).2) := by
  unfold appInit at hready ⊢
  rw [run_bind] at hready ⊢
  generalize run h (displayInit tries) s₀ = u at hready ⊢
  obtain ⟨_ | _, u⟩ := u
  · exact absurd hready Bool.false_ne_true
  · change Armed (world (h (.gpioIsrHandlerAdd .submode) (h (.gpioIsrHandlerAdd .mode) u).2).2)
    rw [ht.performs, ht.performs]
    intro b
    cases b with
    | mode => rfl
    | submode => rfl

/-- The handler runs the task in a system that lets the armed buttons be pressed. -/
structure Drives {σ : Type} (M : System firmware σ) (h : Handler firmware σ) (world : σ → World)
    (allow : Button → World → Prop) : Prop extends Tracks h world where
  conforms : Conforms M h
  presses : ∀ s b now, (world s).armed b = true →
    (Accepts now ((world s).buttons b) → allow b (world s)) →
    ∃ t, M.env s t ∧ world t = (world s).press b now

theorem loop_drives (allow : Button → World → Prop) : Drives (loopSystem allow) steady id allow where
  toTracks := steady_tracks
  conforms := steady_conforms allow
  presses w b now harmed hallow := ⟨w.press b now, .mk b now harmed hallow, rfl⟩

/-- The task is reached with the rest `p`, this screen, these flags and this log. -/
def TaskAt {σ : Type} (M : System firmware σ) (world : σ → World) (tries : ℕ) (s₀ : σ)
    (p : Firmware Bool) (S : Screen) (s : Buttons) (l : List Event) : Prop :=
  ∃ t, Reach M (appInit tries) loopBody s₀ p t ∧ Armed (world t) ∧
    (world t).statics.currentScreen = S ∧ (world t).buttons = s ∧ (world t).log = l

def HeadAt (allow : Button → World → Prop) (S : Screen) (s : Buttons) (l : List Event) : Prop :=
  ∃ w, AppReach allow 1 (.ret true) w ∧ Armed w ∧
    w.statics.currentScreen = S ∧ w.buttons = s ∧ w.log = l

section Moments
variable {σ : Type} {M : System firmware σ} {h : Handler firmware σ} {world : σ → World}
variable {allow : Button → World → Prop} {tries : ℕ} {s₀ : σ}
variable {p : Firmware Bool} {S : Screen} {s : Buttons} {l : List Event}

theorem Drives.boot (hd : Drives M h world allow) (h₀ : world s₀ = .initial)
    (hready : (run h (ra8875Init tries) s₀).1 = some true) :
    TaskAt M world tries s₀ (.ret true) .debugNoRtd .initial (switched .debugNoRtd) := by
  have hfst := run_appInit_fst hready
  have hreach : Reach M (appInit tries) loopBody s₀ (.ret (run h (appInit tries) s₀).1)
      (run h (appInit tries) s₀).2 := by
    refine Reach.run hd.conforms (f := pure) ?_
    rw [bind_pure]
    exact Reach.start
  obtain ⟨hscreen, hbuttons, hlog⟩ := leaves_appInit hd.toTracks h₀ hfst
  rw [h₀] at hscreen hbuttons hlog
  rw [hfst] at hreach
  exact ⟨_, hreach, armed_appInit hd.toTracks hfst, hscreen, hbuttons, hlog⟩

theorem TaskAt.press (hd : Drives M h world allow) (hp : TaskAt M world tries s₀ p S s l)
    (b : Button) (now : ℤ) (hnow : Accepts now (s b))
    (hallow : ∀ w : World, w.statics.currentScreen = S → w.buttons = s → w.log = l → allow b w) :
    TaskAt M world tries s₀ p S (controllerIsr b now s) (l ++ [.accepted b]) := by
  obtain ⟨t, ht, harmed, rfl, rfl, rfl⟩ := hp
  obtain ⟨u, henv, hu⟩ := hd.presses t b now (harmed b) fun _ => hallow _ rfl rfl rfl
  refine ⟨u, ht.env henv, ?_⟩
  rw [hu]
  refine ⟨harmed, rfl, rfl, ?_⟩
  change (world t).log ++ (if Accepts now ((world t).buttons b) then [Event.accepted b] else []) = _
  rw [if_pos hnow]

theorem TaskAt.runs {α : Type} {q : Firmware α} {f : α → Firmware Bool} {es : List Event}
    (hd : Drives M h world allow) (hp : TaskAt M world tries s₀ (q >>= f) S s l)
    (hq : ∀ l, Emits (fun _ _ _ => True) anyPress q S l es) :
    ∃ a, TaskAt M world tries s₀ (f a) (after S es) (es.foldl lower s) (l ++ es) := by
  obtain ⟨t, ht, harmed, rfl, rfl, rfl⟩ := hp
  obtain ⟨hscreen, hbuttons, hlog⟩ := leaves_emits hd.toTracks (s := t) rfl hq
  exact ⟨_, _, Reach.run hd.conforms ht, armed_run hd.toTracks q harmed, hscreen, hbuttons, hlog⟩

theorem TaskAt.again (hp : TaskAt M world tries s₀ (.ret true) S s l) :
    TaskAt M world tries s₀ loopBody S s l := by
  obtain ⟨t, ht, hrest⟩ := hp
  exact ⟨t, Reach.again ht, hrest⟩

theorem TaskAt.step (hd : Drives M h world allow) {o : Op} {k : o.Res → Firmware Bool} {a : o.Res}
    (hp : TaskAt M world tries s₀ (.op o k) S s l)
    (ha : ∀ w r, w.statics.currentScreen = S → w.buttons = s → Answers o w r → r = a) :
    TaskAt M world tries s₀ (k a) (after S (eventOf o).toList) ((eventOf o).toList.foldl lower s)
      (l ++ (eventOf o).toList) := by
  obtain ⟨t, ht, harmed, rfl, rfl, rfl⟩ := hp
  obtain ⟨hscreen, hbuttons, hlog⟩ := leaves_ask hd.toTracks o t
  have hanswer : (h o t).1 = a := ha (world t) _ rfl rfl (hd.answers o t)
  have hnext := Reach.run (q := ask o) (f := k) hd.conforms ht
  rw [← hanswer]
  exact ⟨_, hnext, armed_run hd.toTracks (ask o) harmed, hscreen, hbuttons, hlog⟩

theorem TaskAt.submode (hd : Drives M h world allow)
    (hp : TaskAt M world tries s₀ (.ret true) S s l) (hmode : (s .mode).pressed = false)
    (hsub : (s .submode).pressed = true) (hS : S ≠ .debugNoRtd) :
    ∃ f s' l', TaskAt M world tries s₀ (toggleDuringDrive >>= f) S s' l' := by
  have hfirst := hp.again.step hd (o := .togglePressed .mode) (a := false) (by
    rintro w r - rfl rfl
    exact hmode)
  have hsecond := hfirst.step hd (o := .togglePressed .submode) (a := true) (by
    rintro w r - rfl rfl
    exact hsub)
  have hclear := hsecond.step hd (o := .clearPressed .submode) (a := ()) fun _ _ _ _ _ => rfl
  have hguard := hclear.step hd (o := .currentScreen) (a := S) fun w r hw _ hr => hr.trans hw
  have hdrive : TaskAt M world tries s₀
      ((if S = .debugNoRtd then pure () else toggleDuringDrive) >>= fun _ =>
        vTaskDelay .main 100 >>= fun _ => pure true) S _ _ := hguard
  rw [if_neg hS] at hdrive
  exact ⟨_, _, _, hdrive⟩

theorem TaskAt.warned (hd : Drives M h world allow) {f : Unit → Firmware Bool}
    (hp : TaskAt M world tries s₀ (toggleDuringDrive >>= f) .mainLaps s l) :
    ∃ s' l', TaskAt M world tries s₀ (displaySwitchScreen .debugRtd >>= f) .warn s' l' := by
  have hcall := hp.step hd (o := .call .toggleDuringDrive) (a := ()) fun _ _ _ _ _ => rfl
  have hscreen := hcall.step hd (o := .currentScreen) (a := .mainLaps) fun w r hw _ hr => hr.trans hw
  have hwarn : TaskAt M world tries s₀ ((displaySwitchScreen .warn >>= fun _ =>
      vTaskDelay .main 500 >>= fun _ => displaySwitchScreen .debugRtd) >>= f) .mainLaps _ _ := hscreen
  rw [bind_assoc] at hwarn
  obtain ⟨-, hsleep⟩ := hwarn.runs hd fun _ => emits_switchScreen (by decide) rfl
  exact ⟨_, _, hsleep.step hd (o := .vTaskDelay .main 500) (a := ()) fun _ _ _ _ _ => rfl⟩

theorem TaskAt.pass (hd : Drives M h world allow)
    (hp : TaskAt M world tries s₀ (.ret true) S s l) :
    TaskAt M world tries s₀ (.ret true) (after S (passOf S s)) ((passOf S s).foldl lower s)
      (l ++ passOf S s) := by
  obtain ⟨t, ht, harmed, rfl, rfl, rfl⟩ := hp
  obtain ⟨hscreen, hbuttons, hlog⟩ := leaves_loopBody hd.toTracks t
  have hreach : Reach M (appInit tries) loopBody s₀ (.ret (run h loopBody t).1)
      (run h loopBody t).2 := by
    refine Reach.run hd.conforms (f := pure) ?_
    rw [bind_pure]
    exact ht.again
  have hgoes : (run h loopBody t).1 = true := by
    unfold loopBody
    rw [run_bind, run_bind, run_pure]
  rw [hgoes] at hreach
  exact ⟨_, hreach, armed_run hd.toTracks loopBody harmed, hscreen, hbuttons, hlog⟩

def opOf : Event → Option Op
  | .accepted _ => none
  | .tested b => some (.togglePressed b)
  | .cleared b => some (.clearPressed b)
  | .called r => some (.call r)
  | .entered screen => some (.setCurrentScreen screen)
  | .slept ms => some (.vTaskDelay .main ms)

theorem opOf_eventOf {o : Op} {e : Event} (h : eventOf o = some e) : opOf e = some o := by
  cases o with
  | vTaskDelay file ms =>
    cases file with
    | main => obtain rfl := Option.some.inj h; rfl
    | core | bte | display => simp [eventOf] at h
  | togglePressed b | clearPressed b | call r | setCurrentScreen screen =>
    obtain rfl := Option.some.inj h
    rfl
  | _ => simp [eventOf] at h

/-- The operation of each event of the next pass is asked for. -/
theorem TaskAt.asks (hd : Drives M h world allow)
    (hp : TaskAt M world tries s₀ (.ret true) S s l) {o : Op} {e : Event} (ho : opOf e = some o)
    (he : e ∈ passOf S s) : ∃ k t, Reach M (appInit tries) loopBody s₀ (.op o k) t := by
  obtain ⟨t, ht, _, rfl, rfl, _⟩ := hp
  rw [← leaves_trace hd.toTracks (leaves_loopBody hd.toTracks t)] at he
  obtain ⟨o', ho', heo⟩ := List.mem_filterMap.mp he
  obtain rfl : o' = o := Option.some.inj ((opOf_eventOf heo).symm.trans ho)
  refine Reach.asks (f := pure) hd.conforms ?_ ho'
  rw [bind_pure]
  exact ht.again

theorem headAt_boot : HeadAt allow .debugNoRtd .initial (switched .debugNoRtd) :=
  (loop_drives allow).boot rfl rfl

theorem HeadAt.press (hp : HeadAt allow S s l) (b : Button) (now : ℤ) (hnow : Accepts now (s b))
    (hallow : ∀ w, w.statics.currentScreen = S → w.buttons = s → w.log = l → allow b w) :
    HeadAt allow S (controllerIsr b now s) (l ++ [.accepted b]) :=
  TaskAt.press (loop_drives allow) hp b now hnow hallow

theorem HeadAt.pass (hp : HeadAt allow S s l) :
    HeadAt allow (after S (passOf S s)) ((passOf S s).foldl lower s) (l ++ passOf S s) :=
  TaskAt.pass (loop_drives allow) hp

theorem HeadAt.asks (hp : HeadAt allow S s l) {o : Op} {e : Event} (ho : opOf e = some o)
    (he : e ∈ passOf S s) : ∃ k w, AppReach allow 1 (.op o k) w :=
  TaskAt.asks (loop_drives allow) hp ho he

end Moments

end SteeringDisplay.LoopRuns
