import SteeringDisplay.SparedRows
import SteeringDisplay.DriveAutomaton
import SteeringDisplay.MainRuns

set_option autoImplicit false

/-!
# What the panel shows while `app_main` runs

The task, the two buttons and the panel in one system. Seen without the panel it
is the loop with its interrupt handlers; seen without the buttons it is the panel.
-/
namespace SteeringDisplay.PanelLoop
open ProgramTree ProgramInterference FirmwareInterface PanelDriver DisplayScreens ButtonLoop
open Footprints LoopWorld LoopPasses LoopRuns MainRuns DriveAutomaton PanelMachine PanelHistory

structure Wheel where
  buttons : Buttons
  armed : Button → Bool
  log : List Event
  panel : PanelState

def Wheel.world (s : Wheel) : World := ⟨s.panel.statics, s.buttons, s.armed, s.log⟩

def Wheel.initial (layers : Fin 2 → PixelLayer) : Wheel :=
  ⟨.initial, fun _ => false, [], .powerUp layers⟩

def Wheel.press (s : Wheel) (b : Button) (now : ℤ) : Wheel :=
  { s with
    buttons := controllerIsr b now s.buttons
    log := s.log ++ if Accepts now (s.buttons b) then [.accepted b] else [] }

section Device
variable (engine : TextEngine) (undefinedText : Format → CFloat → List UInt8)

def Wheel.answer : (o : Op) → Wheel → o.Res
  | .togglePressed b, s => (s.buttons b).pressed
  | o, s => PanelState.answer undefinedText o s.panel

def Wheel.perform (s : Wheel) (o : Op) : Wheel where
  buttons := clearFlag s.buttons o
  armed := arm s.armed o
  log := s.log ++ (eventOf o).toList
  panel := s.panel.step engine o

/-- The handler of an armed button may run between any two operations of the task. -/
def wheelSystem : System firmware Wheel where
  env s t := ∃ b now, s.armed b = true ∧ t = s.press b now
  act o s r u := r = s.answer undefinedText o ∧ u = s.perform engine o

def wheel : Handler firmware Wheel := fun o s => (s.answer undefinedText o, s.perform engine o)

theorem wheel_act (o : firmware.Op) (s : Wheel) : (wheelSystem engine undefinedText).act o s
    (wheel engine undefinedText o s).1 (wheel engine undefinedText o s).2 := ⟨rfl, rfl⟩

theorem wheel_conforms : Conforms (wheelSystem engine undefinedText) (wheel engine undefinedText) :=
  fun o s => ⟨s, .refl, wheel_act engine undefinedText o s⟩

def WheelReach (layers : Fin 2 → PixelLayer) (tries : ℕ) : Firmware Bool → Wheel → Prop :=
  Reach (wheelSystem engine undefinedText) (appInit tries) loopBody (.initial layers)

end Device

section Views
variable {engine : TextEngine} {undefinedText : Format → CFloat → List UInt8}

theorem step_statics (s : PanelState) (o : Op) :
    (s.step engine o).statics = s.statics.store o := by
  cases o with
  | writeData value => exact data_statics s value
  | writeRegister reg value => exact data_statics { s with latch := reg } value
  | _ => rfl

theorem world_perform (s : Wheel) (o : Op) : (s.perform engine o).world = s.world.perform o := by
  change World.mk (s.panel.step engine o).statics _ _ _ = _
  rw [step_statics]
  rfl

theorem answers_world (s : Wheel) (o : Op) : Answers o s.world (s.answer undefinedText o) := by
  cases o with
  | togglePressed b | currentFont | inGraphicMode | currentScreen | glyphCache ch => rfl
  | _ => exact trivial

theorem appReach_world {layers : Fin 2 → PixelLayer} {tries : ℕ} {p : Firmware Bool} {s : Wheel}
    (h : WheelReach engine undefinedText layers tries p s) : AppReach anyPress tries p s.world := by
  refine Reach.map (N := loopSystem anyPress) Wheel.world ?_ ?_ h
  · rintro s _ ⟨b, now, harmed, rfl⟩
    exact Press.mk (w := s.world) b now harmed fun _ => trivial
  · rintro o s _ _ ⟨rfl, rfl⟩
    exact ⟨answers_world s o, world_perform s o⟩

theorem wheel_drives (engine : TextEngine) (undefinedText : Format → CFloat → List UInt8) :
    Drives (wheelSystem engine undefinedText) (wheel engine undefinedText) Wheel.world anyPress where
  answers o s := answers_world s o
  performs o s := world_perform s o
  conforms := wheel_conforms engine undefinedText
  presses s b now harmed _ := ⟨s.press b now, ⟨b, now, harmed, rfl⟩, rfl⟩

def Unpressed : firmware.Op → Prop
  | .togglePressed _ => False
  | _ => True

theorem unpressed_of_switching {o : firmware.Op} (h : Switching o) : Unpressed o := by
  cases o <;> first | exact trivial | exact h

theorem unpressed_of_booting {o : firmware.Op} (h : Booting o) : Unpressed o := by
  cases o <;> first | exact trivial | exact h

/-- Seen from the panel a program that looks at no button runs alone. -/
theorem act_panel {o : firmware.Op} {s u : Wheel} {r : firmware.Res o} (ho : Unpressed o)
    (h : (wheelSystem engine undefinedText).act o s r u) :
    r = (panel engine undefinedText o s.panel).1 ∧
      u.panel = (panel engine undefinedText o s.panel).2 := by
  obtain ⟨rfl, rfl⟩ := h
  refine ⟨?_, rfl⟩
  cases o with
  | togglePressed b => exact ho.elim
  | _ => rfl

theorem env_panel {s t : Wheel} (h : (wheelSystem engine undefinedText).env s t) :
    t.panel = s.panel := by
  obtain ⟨b, now, -, rfl⟩ := h
  rfl

end Views

section Loop
variable {engine : TextEngine} {undefinedText : Format → CFloat → List UInt8}
variable {P : PanelState → Prop}

def AtSleep (P : PanelState → Prop) (o : firmware.Op) (s : Wheel) : Prop :=
  ∀ ms, o = .vTaskDelay .main ms → P s.panel

theorem atSleep_switching {o : firmware.Op} (ho : Switching o) (s : Wheel) : AtSleep P o s := by
  rintro ms rfl
  exact absurd rfl ho

theorem stable_panel : Stable (wheelSystem engine undefinedText) fun s => P s.panel := by
  intro s t hs henv
  rw [env_panel henv]
  exact hs

theorem carried_panel (hswitch : ∀ next, Hoare (panel engine undefinedText) P
    (displaySwitchScreen next) fun _ => P) :
    Carried (wheelSystem engine undefinedText) (AtSleep P) fun s => P s.panel where
  stable := stable_panel
  steering o ho := by
    have hsame : ∀ p : PanelState, p.step engine o = p := by
      intro p
      cases o with
      | currentScreen | gpioIsrHandlerAdd b | togglePressed b | clearPressed b | call r
      | vTaskDelay file ms => rfl
      | _ => exact ho.elim
    refine Triple.perform stable_panel (fun _ => stable_panel) (fun s hs _ _ => hs) ?_
    rintro s r _ hs ⟨-, rfl⟩
    change P (s.panel.step engine o)
    rw [hsame]
    exact hs
  switches next := Triple.of_hoare (fun _ _ => env_panel)
    (fun _ _ _ _ ho => act_panel (unpressed_of_switching ho)) (fun _ s ho => atSleep_switching ho s)
    (switchScreen_switching next) (hswitch next)

end Loop

section Runs
variable {engine : TextEngine} {undefinedText : Format → CFloat → List UInt8}
variable {layers : Fin 2 → PixelLayer} {tries : ℕ} {P : PanelState → Prop}

theorem hoare_controllerInit :
    Hoare (panel engine undefinedText) P (controllerInit >>= fun _ => pure true)
      fun ready p => ready = true ∧ P p :=
  fun _ hp => ⟨rfl, hp⟩

theorem safe_appInit (hinit : P (finish (panel engine undefinedText) (displayInit (tries + 1))
    (.powerUp layers))) :
    Safe (wheelSystem engine undefinedText) (AtSleep P) (fun ready s => ready = true ∧ P s.panel)
      (appInit (tries + 1)) (.initial layers) := by
  have hboot : Hoare (panel engine undefinedText) (fun p => p = .powerUp layers)
      (appInit (tries + 1)) fun ready p => ready = true ∧ P p := by
    intro p hp
    unfold appInit
    rw [hp, run_bind, displayInit_ready, ← finish_eq, if_pos rfl]
    exact hoare_controllerInit _ hinit
  have hnoMain : ∀ (o : firmware.Op) (s : Wheel), Booting o → AtSleep P o s := by
    rintro o s ho ms rfl
    exact absurd rfl ho
  exact Triple.of_hoare (fun _ _ => env_panel) (fun _ _ _ _ ho => act_panel (unpressed_of_booting ho))
    hnoMain (appInit_booting (tries + 1)) hboot (.initial layers) rfl

/-- What `Display_Init` leaves and every switch keeps holds of the panel at each loop head
    and whenever the task goes to sleep in main.c. -/
theorem panel_invariant (hinit : P (finish (panel engine undefinedText) (displayInit (tries + 1))
      (.powerUp layers)))
    (hswitch : ∀ next, Hoare (panel engine undefinedText) P (displaySwitchScreen next) fun _ => P) :
    (∀ s, WheelReach engine undefinedText layers (tries + 1) (.ret true) s → P s.panel) ∧
      ∀ ms k s, WheelReach engine undefinedText layers (tries + 1) (.op (.vTaskDelay .main ms) k) s →
        P s.panel := by
  have hboot : Safe (wheelSystem engine undefinedText) (AtSleep P) (AtHead fun s => P s.panel)
      (appInit (tries + 1)) (.initial layers) :=
    (safe_appInit hinit).conseq fun _ _ hs _ => hs.2
  have hbody := (carried_panel hswitch).loopBody.conseq (fun _ hs => hs) fun ready _ hs (_ : ready = true) => hs
  refine ⟨fun s h => ?_, fun ms k s h => ?_⟩
  · exact Reach.head (P := fun s => P s.panel) hboot hbody h
  · exact Reach.guard hboot hbody h ms rfl

theorem shows_displayInit {glyphs : UInt8 → GlyphBuffer} {saved : PixelLayer}
    (hc : PanelAgreement.Onscreen glyphs saved (prerendered engine undefinedText layers tries)) :
    Shows engine undefinedText glyphs saved (prerendered engine undefinedText layers tries)
      (finish (panel engine undefinedText) (displayInit (tries + 1)) (.powerUp layers)) := by
  have hafter := shows_after hc []
  have hnone : ∀ u, finish (panel engine undefinedText)
      (([] : List Screen).forM displaySwitchScreen) u = u := fun _ => rfl
  unfold panelAfter at hafter
  rw [finish_bind, hnone] at hafter
  exact hafter

def warnsAsleep (e : Event) (S : Screen) (_ : List Event) : Prop := e = .slept 500 → S = .warn

theorem warnsAsleep_duringDrive (S : Screen) (l : List Event) :
    Walk warnsAsleep S l (duringDrive S) := by
  cases S <;> simp [duringDrive, switched, Walk, warnsAsleep, screenAfter]

theorem warnsAsleep_pass (S : Screen) (l : List Event) :
    ∀ es ∈ passes S, Walk warnsAsleep S l es := by
  intro es hes
  obtain ⟨poll, hpoll, rfl⟩ := List.mem_map.mp hes
  simp only [polls, List.mem_cons, List.not_mem_nil, or_false] at hpoll
  rw [walk_append]
  refine ⟨?_, by simp [Walk, warnsAsleep]⟩
  rcases hpoll with rfl | rfl | rfl
  · simp [whetherDrive, switched, Walk, warnsAsleep]
  · unfold guardedDuringDrive
    split_ifs
    · simp [Walk, warnsAsleep]
    · exact ⟨by simp [warnsAsleep], by simp [warnsAsleep], by simp [warnsAsleep],
        warnsAsleep_duringDrive S _⟩
  · simp [Walk, warnsAsleep]

end Runs

/-- At each loop head the panel shows the screen of the drive automaton, and while the task
    sleeps it shows the screen it is on. -/
theorem panel_follows_drive (engine : TextEngine) (undefinedText : Format → CFloat → List UInt8)
    (layers : Fin 2 → PixelLayer) (tries : ℕ) :
    (∀ s, WheelReach engine undefinedText layers (tries + 1) (.ret true) s →
      s.panel.layers 0 = picture engine undefinedText (prerendered engine undefinedText layers tries)
        (driveScreen (toggleCounts s.log).1 (toggleCounts s.log).2)) ∧
    ∀ ms k s, WheelReach engine undefinedText layers (tries + 1) (.op (.vTaskDelay .main ms) k) s →
      s.panel.layers 0 = picture engine undefinedText (prerendered engine undefinedText layers tries)
        s.panel.statics.currentScreen ∧ (ms = 500 → s.panel.statics.currentScreen = .warn) := by
  obtain ⟨glyphs, saved, hc⟩ : ∃ glyphs saved, PanelAgreement.Onscreen glyphs saved
      (prerendered engine undefinedText layers tries) := ⟨_, _, onscreen_prerendered layers tries⟩
  obtain ⟨hhead, hsleep⟩ := panel_invariant (shows_displayInit hc) (hoare_switchScreen hc)
  refine ⟨fun s h => ?_, fun ms k s h => ⟨(hsleep ms k s h).shown, ?_⟩⟩
  · have hscreen := (app_onTrack (appReach_world h)).1
    rw [toggleCounts_ownEvents] at hscreen
    have hshown := (hhead s h).shown
    rwa [show s.panel.statics.currentScreen = _ from hscreen] at hshown
  · rintro rfl
    have hboot : Walk warnsAsleep .mainNoLaps [] (switched .debugNoRtd) := by
      simp [switched, Walk, warnsAsleep]
    have hguard := (app_loop (φ := fun _ _ => True) hboot trivial fun S l _ es hes =>
      ⟨warnsAsleep_pass S l es hes, trivial⟩).2 _ k s.world (appReach_world h)
    exact hguard _ rfl rfl

theorem rtd_reached (engine : TextEngine) (undefinedText : Format → CFloat → List UInt8)
    (layers : Fin 2 → PixelLayer) :
    (∃ s, WheelReach engine undefinedText layers 1 (.ret true) s ∧ toggleCounts s.log = (1, 2)) ∧
      ∃ k s, WheelReach engine undefinedText layers 1 (.op (.vTaskDelay .main 500) k) s := by
  have hd := wheel_drives engine undefinedText
  have hready : (run (wheel engine undefinedText) (ra8875Init 1) (.initial layers)).1 =
      some true := rfl
  have hmode := (hd.boot rfl hready).press hd .mode 200001 (by decide) (by simp [anyPress])
  have hsub := (hmode.pass hd).press hd .submode 200001 (by decide) (by simp [anyPress])
  have hagain := (hsub.pass hd).press hd .submode 400002 (by decide) (by simp [anyPress])
  refine ⟨?_, hagain.asks hd (e := .slept 500) rfl (by decide)⟩
  obtain ⟨s, hs, -, -, -, hlog⟩ := hagain.pass hd
  refine ⟨s, hs, ?_⟩
  rw [show s.log = _ from hlog]
  rfl

theorem panel_follows_drive_booted :
    (∃ s, WheelReach SparedRows.blockFont (fun _ _ => []) (fun _ _ _ => black) 1 (.ret true) s ∧
      s.panel.layers 0 = picture SparedRows.blockFont (fun _ _ => [])
        (prerendered SparedRows.blockFont (fun _ _ => []) (fun _ _ _ => black) 0) .debugRtd) ∧
    ∃ k s, WheelReach SparedRows.blockFont (fun _ _ => []) (fun _ _ _ => black) 1
        (.op (.vTaskDelay .main 500) k) s ∧
      s.panel.layers 0 = picture SparedRows.blockFont (fun _ _ => [])
        (prerendered SparedRows.blockFont (fun _ _ => []) (fun _ _ _ => black) 0) .warn := by
  obtain ⟨⟨s, hs, hcounts⟩, k, u, hu⟩ :=
    rtd_reached SparedRows.blockFont (fun _ _ => []) (fun _ _ _ => black)
  have hfollows := panel_follows_drive SparedRows.blockFont (fun _ _ => []) (fun _ _ _ => black) 0
  refine ⟨⟨s, hs, ?_⟩, k, u, hu, ?_⟩
  · have hhead := hfollows.1 s hs
    rw [hcounts] at hhead
    exact hhead
  · obtain ⟨hshown, hwarn⟩ := hfollows.2 500 k u hu
    rw [hwarn rfl] at hshown
    exact hshown

end SteeringDisplay.PanelLoop
