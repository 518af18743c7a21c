import SteeringDisplay.LoopWorld

set_option autoImplicit false

/-!
# The event sequences of one pass

`passes S` is the abstract loop: the event sequences that one pass may leave
when it starts with the screen `S`. The task of main.c refines it, whatever the
interrupt handlers do between its operations.
-/
namespace SteeringDisplay.LoopPasses
open ProgramTree ProgramInterference FirmwareInterface PanelDriver DisplayScreens ButtonLoop
open Footprints LoopWorld

def screenAfter (S : Screen) : Event → Screen
  | .entered s => s
  | _ => S

def after (S : Screen) (es : List Event) : Screen := es.foldl screenAfter S

theorem after_append (S : Screen) (es fs : List Event) :
    after S (es ++ fs) = after (after S es) fs := List.foldl_append ..

/-- The screen and the task's own events, whatever the buttons are. -/
def At (S : Screen) (l : List Event) (w : World) : Prop :=
  w.statics.currentScreen = S ∧ ownEvents w.log = l

def switched (next : Screen) : List Event := [.called (.switchScreen next), .entered next]

def modeNext (S : Screen) : Screen := if S = .debugNoRtd then .mainNoLaps else .debugNoRtd

def whetherDrive (S : Screen) : List Event :=
  .called .toggleWhetherDrive :: switched (modeNext S)

def duringDrive (S : Screen) : List Event :=
  .called .toggleDuringDrive :: match S with
    | .mainNoLaps => switched .mainLaps
    | .mainLaps => switched .warn ++ .slept 500 :: switched .debugRtd
    | .debugRtd => switched .mainNoLaps
    | _ => []

def guardedDuringDrive (S : Screen) : List Event :=
  if S = .debugNoRtd then [] else duringDrive S

def polls (S : Screen) : List (List Event) :=
  [.tested .mode :: .cleared .mode :: whetherDrive S,
   .tested .mode :: .tested .submode :: .cleared .submode :: guardedDuringDrive S,
   [.tested .mode, .tested .submode]]

def passes (S : Screen) : List (List Event) := (polls S).map (· ++ [.slept 100])

section Emission
variable {allow : Button → World → Prop} (γ : Event → Screen → List Event → Prop)
variable {α : Type} {S : Screen} {l : List Event}

/-- `γ` holds of each of the events before it happens. -/
def Walk : Screen → List Event → List Event → Prop
  | _, _, [] => True
  | S, l, e :: es => γ e S l ∧ Walk (screenAfter S e) (l ++ [e]) es

theorem walk_append (S : Screen) (l es fs : List Event) :
    Walk γ S l (es ++ fs) ↔ Walk γ S l es ∧ Walk γ (after S es) (l ++ es) fs := by
  induction es generalizing S l with
  | nil => simp [Walk, after]
  | cons e es ih => simp [Walk, after, ih, and_assoc]

theorem walk_of_forall (h : ∀ e S l, γ e S l) (S : Screen) (l es : List Event) :
    Walk γ S l es := by
  induction es generalizing S l with
  | nil => exact trivial
  | cons e es ih => exact ⟨h e S l, ih _ _⟩

def guardOf (o : firmware.Op) (w : World) : Prop :=
  ∀ e, eventOf o = some e → γ e w.statics.currentScreen (ownEvents w.log)

/-- From the screen `S` and the own events `l` the program adds exactly `es`. -/
def Emits (allow : Button → World → Prop) (p : Firmware α) (S : Screen) (l es : List Event) : Prop :=
  Walk γ S l es →
    Triple (loopSystem allow) (guardOf γ) (At S l) p (fun _ => At (after S es) (l ++ es))

theorem stable_at : Stable (loopSystem allow) (At S l) := by
  rintro w _ ⟨hS, hl⟩ ⟨b, now, _, _⟩
  exact ⟨hS, (ownEvents_press w b now).trans hl⟩

theorem currentScreen_store (s : Statics) (o : Op) :
    (s.store o).currentScreen = after s.currentScreen (eventOf o).toList := by
  cases o with
  | vTaskDelay file ms => cases file <;> rfl
  | _ => rfl

theorem at_perform (o : Op) {w : World} (h : At S l w) :
    At (after S (eventOf o).toList) (l ++ (eventOf o).toList) (w.perform o) := by
  obtain ⟨rfl, rfl⟩ := h
  exact ⟨currentScreen_store _ o, ownEvents_perform w o⟩

theorem walk_eventOf {o : Op} (hw : Walk γ S l (eventOf o).toList) {w : World} (h : At S l w) :
    guardOf γ o w := by
  obtain ⟨rfl, rfl⟩ := h
  intro e he
  rw [he] at hw
  exact hw.1

theorem emits_ask (o : Op) : Emits γ allow (ask o) S l (eventOf o).toList := by
  intro hw
  refine Triple.perform stable_at (fun _ => stable_at) (fun w h => walk_eventOf γ hw h) ?_
  rintro w r u h ⟨_, rfl⟩
  exact at_perform o h

theorem emits_silent {p : Firmware α} (hp : Only Silent p) : Emits γ allow p S l [] := by
  intro _
  refine (Triple.of_only hp stable_at ?_ ?_).conseq (fun _ h => h) ?_
  · intro o w ho _ e he
    rw [silent_eventOf ho] at he
    exact absurd he (by simp)
  · rintro o w r u ho h ⟨_, rfl⟩
    have hu := at_perform o h
    rwa [silent_eventOf ho, Option.toList_none, List.append_nil] at hu
  · intro _ w h
    rwa [List.append_nil]

variable {γ}

theorem Emits.seq {β : Type} {p : Firmware α} {q : Firmware β} {es fs : List Event}
    (hp : Emits γ allow p S l es) (hq : Emits γ allow q (after S es) (l ++ es) fs) :
    Emits γ allow (p >>= fun _ => q) S l (es ++ fs) := by
  intro hw
  obtain ⟨hes, hfs⟩ := (walk_append γ S l es fs).mp hw
  have h := (hp hes).seq (hq hfs)
  rwa [after_append, ← List.append_assoc]

theorem Emits.load {f : Screen → Firmware α} {es : List Event}
    (hf : Emits γ allow (f S) S l es) : Emits γ allow (loadCurrentScreen >>= f) S l es := by
  intro hw
  have hload : Triple (loopSystem allow) (guardOf γ) (At S l) loadCurrentScreen
      (fun r w => At S l w ∧ r = S) := by
    refine Triple.perform stable_at (fun r => stable_at.and (Stable.const _)) ?_ ?_
    · intro w _ e he
      exact absurd he (by simp [eventOf])
    · rintro w r u h ⟨hr, rfl⟩
      have hu := at_perform .currentScreen h
      simp only [eventOf, Option.toList_none, List.append_nil] at hu
      exact ⟨hu, hr.trans h.1⟩
  refine hload.bind (fun r => ?_)
  rintro w ⟨h, rfl⟩
  exact hf hw w h

theorem emits_pure (a : α) : Emits γ allow (pure a : Firmware α) S l [] :=
  emits_silent γ (only_pure a)

theorem emits_switchScreen {next : Screen} {draw : Firmware Unit} (hne : S ≠ next)
    (hdraw : render next = some draw) :
    Emits γ allow (displaySwitchScreen next) S l (switched next) := by
  refine (emits_ask γ (.call (.switchScreen next))).seq (Emits.load ?_)
  change Emits γ allow (if S = next then pure () else _) S _ _
  rw [if_neg hne, hdraw]
  exact (emits_silent γ (render_silent hdraw)).seq (emits_ask γ (.setCurrentScreen next))

theorem modeNext_render (S : Screen) : S ≠ modeNext S ∧ ∃ draw, render (modeNext S) = some draw := by
  unfold modeNext
  by_cases h : S = .debugNoRtd
  · subst h
    exact ⟨by decide, _, rfl⟩
  · rw [if_neg h]
    exact ⟨h, _, rfl⟩

theorem emits_toggleWhetherDrive :
    Emits γ allow toggleWhetherDrive S l (whetherDrive S) := by
  obtain ⟨hne, draw, hdraw⟩ := modeNext_render S
  refine (emits_ask γ (.call .toggleWhetherDrive)).seq (Emits.load ?_)
  have hswitch : (if S = .debugNoRtd then displaySwitchScreen .mainNoLaps
      else displaySwitchScreen .debugNoRtd) = displaySwitchScreen (modeNext S) := by
    unfold modeNext
    split_ifs <;> rfl
  change Emits γ allow (if S = .debugNoRtd then _ else _) S _ _
  rw [hswitch]
  exact emits_switchScreen hne hdraw

theorem emits_toggleDuringDrive :
    Emits γ allow toggleDuringDrive S l (duringDrive S) := by
  refine (emits_ask γ (.call .toggleDuringDrive)).seq (Emits.load ?_)
  cases S with
  | mainNoLaps => exact emits_switchScreen (by decide) rfl
  | mainLaps =>
    have hwarn : Emits γ allow (displaySwitchScreen .warn) .mainLaps
        (l ++ [.called .toggleDuringDrive]) (switched .warn) := emits_switchScreen (by decide) rfl
    refine hwarn.seq ((emits_ask γ (.vTaskDelay .main 500)).seq ?_)
    exact emits_switchScreen (by decide) rfl
  | debugRtd => exact emits_switchScreen (by decide) rfl
  | debugNoRtd | warn | other value outside => exact emits_pure _

theorem emits_guardedDuringDrive :
    Emits γ allow (loadCurrentScreen >>= fun s =>
      if s = .debugNoRtd then pure () else toggleDuringDrive) S l (guardedDuringDrive S) := by
  refine Emits.load ?_
  unfold guardedDuringDrive
  split_ifs
  · exact emits_pure _
  · exact emits_toggleDuringDrive

end Emission

section Refinement
variable {allow : Button → World → Prop} {γ : Event → Screen → List Event → Prop}
variable {S : Screen} {l : List Event}

def Adds (S : Screen) (l : List Event) (ess : List (List Event)) (w : World) : Prop :=
  ∃ es ∈ ess, At (after S es) (l ++ es) w

/-- The two tests, in the order of the source: the submode flag is looked at
    only when the mode flag was down. -/
theorem pollButtons_adds (hw : ∀ es ∈ polls S, Walk γ S l es) :
    Triple (loopSystem allow) (guardOf γ) (At S l) pollButtons (fun _ => Adds S l (polls S)) := by
  have hmode := hw _ (List.mem_cons_self ..)
  have hsub := hw _ (List.mem_cons_of_mem _ (List.mem_cons_self ..))
  have hnone := hw _ (List.mem_cons_of_mem _ (List.mem_cons_of_mem _ (List.mem_cons_self ..)))
  refine Triple.bind (emits_ask γ (.togglePressed .mode) ⟨hmode.1, trivial⟩) (fun (pressed : Bool) => ?_)
  cases pressed with
  | true =>
    have hrest : Emits γ allow (clearPressed .mode >>= fun _ => toggleWhetherDrive) S
        (l ++ [.tested .mode]) ([.cleared .mode] ++ whetherDrive S) :=
      (emits_ask γ (.clearPressed .mode)).seq emits_toggleWhetherDrive
    refine (hrest hmode.2).conseq (fun _ h => h) (fun _ w h => ⟨_, List.mem_cons_self .., ?_⟩)
    simpa [after, screenAfter, eventOf, whetherDrive] using h
  | false =>
    refine Triple.bind (emits_ask γ (.togglePressed .submode) ⟨hsub.2.1, trivial⟩)
      (fun (pressed : Bool) => ?_)
    cases pressed with
    | true =>
      have hrest : Emits γ allow (clearPressed .submode >>= fun _ => loadCurrentScreen >>= fun s =>
          if s = .debugNoRtd then pure () else toggleDuringDrive) S
          (l ++ [.tested .mode] ++ [.tested .submode])
          ([.cleared .submode] ++ guardedDuringDrive S) :=
        (emits_ask γ (.clearPressed .submode)).seq emits_guardedDuringDrive
      refine (hrest hsub.2.2).conseq (fun _ h => h)
        (fun _ w h => ⟨_, List.mem_cons_of_mem _ (List.mem_cons_self ..), ?_⟩)
      simpa [after, screenAfter, eventOf, guardedDuringDrive] using h
    | false =>
      refine Triple.pure stable_at (fun w h => ⟨[.tested .mode, .tested .submode], by simp [polls], ?_⟩)
      simpa [after, screenAfter, eventOf] using h

theorem loopBody_adds (hw : ∀ es ∈ passes S, Walk γ S l es) :
    Triple (loopSystem allow) (guardOf γ) (At S l) loopBody
      (fun b w => b = true ∧ Adds S l (passes S) w) := by
  have hsplit : ∀ es ∈ polls S, Walk γ S l es ∧ γ (.slept 100) (after S es) (l ++ es) := by
    intro es hes
    have h := hw _ (List.mem_map_of_mem hes)
    rw [walk_append] at h
    exact ⟨h.1, h.2.1⟩
  refine (pollButtons_adds (fun es hes => (hsplit es hes).1)).seq ?_
  rintro w ⟨es, hes, h⟩
  have hsleep : Emits γ allow (vTaskDelay .main 100) (after S es) (l ++ es) [.slept 100] :=
    emits_ask γ (.vTaskDelay .main 100)
  refine (hsleep ⟨(hsplit es hes).2, trivial⟩ w h).bind (fun _ u hu => ?_)
  refine Triple.pure stable_at (fun v hv => ?_) u hu
  refine ⟨rfl, es ++ [.slept 100], List.mem_map_of_mem hes, ?_⟩
  rw [after_append, ← List.append_assoc]
  exact hv

theorem displaySetup_emits :
    Emits γ allow displaySetup .mainNoLaps [] (switched .debugNoRtd) :=
  (emits_silent γ (writes_silent _)).seq ((emits_silent γ (write_silent _ _)).seq
    ((emits_silent γ (write_silent _ _)).seq
      ((emits_silent γ (arranging_silent (setTextCursor_arranging 0 0))).seq
      ((emits_silent γ (precomputeGlyphs_silent _)).seq
        ((emits_silent γ prerenderDebugRtdLabels_silent).seq
          (emits_switchScreen (by decide) rfl))))))

theorem displayInit_emits (tries : ℕ) (hw : Walk γ .mainNoLaps [] (switched .debugNoRtd)) :
    Triple (loopSystem allow) (guardOf γ) (At .mainNoLaps []) (displayInit tries)
      (fun b w => b = true → At .debugNoRtd (switched .debugNoRtd) w) := by
  refine Triple.bind (emits_silent γ (ra8875Init_silent tries) trivial) (fun result => ?_)
  cases result with
  | none => exact Triple.pure stable_at (fun _ _ hb => Bool.noConfusion hb)
  | some _ =>
    exact (displaySetup_emits hw).seq (Triple.pure stable_at (fun _ h _ => h))

theorem controllerInit_emits (S : Screen) (l : List Event) :
    Emits γ allow controllerInit S l [] :=
  (emits_ask γ (.gpioIsrHandlerAdd .mode)).seq (emits_ask γ (.gpioIsrHandlerAdd .submode))

theorem appInit_emits (tries : ℕ) (hw : Walk γ .mainNoLaps [] (switched .debugNoRtd)) :
    Triple (loopSystem allow) (guardOf γ) (At .mainNoLaps []) (appInit tries)
      (fun b w => b = true → At .debugNoRtd (switched .debugNoRtd) w) := by
  refine (displayInit_emits tries hw).bind (fun ready => ?_)
  cases ready with
  | false => exact Triple.pure stable_at.imp (fun _ _ hb => Bool.noConfusion hb)
  | true =>
    have harm : Emits γ allow controllerInit .debugNoRtd (switched .debugNoRtd) [] :=
      controllerInit_emits _ _
    refine ((harm trivial).conseq (fun _ h => h rfl) (fun _ _ h => h)).seq ?_
    exact Triple.pure stable_at (fun _ h _ => h)

end Refinement

/-- The loop rule of the abstract loop, carried over to `app_main`. -/
theorem app_loop {allow : Button → World → Prop} {γ : Event → Screen → List Event → Prop}
    {φ : Screen → List Event → Prop} {tries : ℕ}
    (hboot : Walk γ .mainNoLaps [] (switched .debugNoRtd))
    (hinit : φ .debugNoRtd (switched .debugNoRtd))
    (hpass : ∀ S l, φ S l → ∀ es ∈ passes S, Walk γ S l es ∧ φ (after S es) (l ++ es)) :
    (∀ w, AppReach allow tries (.ret true) w → φ w.statics.currentScreen (ownEvents w.log)) ∧
    (∀ o k w, AppReach allow tries (.op o k) w → guardOf γ o w) := by
  have hsafe : Safe (loopSystem allow) (guardOf γ)
      (AtHead fun w => φ w.statics.currentScreen (ownEvents w.log)) (appInit tries) .initial := by
    refine ((appInit_emits tries hboot).conseq (fun _ h => h) ?_) _ ⟨rfl, rfl⟩
    intro b w h hb
    obtain ⟨hS, hl⟩ := h hb
    rw [hS, hl]
    exact hinit
  have hbody : Triple (loopSystem allow) (guardOf γ)
      (fun w => φ w.statics.currentScreen (ownEvents w.log)) loopBody
      (AtHead fun w => φ w.statics.currentScreen (ownEvents w.log)) := by
    intro w hw
    refine (loopBody_adds (fun es hes => (hpass _ _ hw es hes).1) w ⟨rfl, rfl⟩).conseq ?_
    rintro b u ⟨_, es, hes, hS, hl⟩ _
    rw [hS, hl]
    exact (hpass _ _ hw es hes).2
  refine ⟨fun w h => ?_, fun o k w h => Reach.guard hsafe hbody h⟩
  exact Reach.head (P := fun w => φ w.statics.currentScreen (ownEvents w.log)) hsafe hbody h

end SteeringDisplay.LoopPasses
