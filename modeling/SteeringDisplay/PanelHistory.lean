import SteeringDisplay.PanelRuns

set_option autoImplicit false

/-!
# What the panel shows after any sequence of switches
-/
namespace SteeringDisplay.PanelHistory
open ProgramTree FirmwareInterface PanelDriver ComicSansFont DisplayScreens
open Footprints PanelMachine PanelAgreement PanelRuns

structure Starting (s : PanelState) : Prop where
  layer : s.regs 0x41 = 0
  completed : s.completed = false
  screen : s.statics.currentScreen = .mainNoLaps

def Preparing : firmware.Op → Prop
  | .writeRegister reg _ => reg ∉ [0x02, 0x41, 0x50]
  | .spiBusInitialize | .spiBusAddDevice | .readRegister _ | .vTaskDelay _ _
  | .setGlyphCache _ _ => True
  | _ => False

section Setup
variable {engine : TextEngine} {undefinedText : Format → CFloat → List UInt8}

theorem command_statics (s : PanelState) (reg value : UInt8) :
    (s.command reg value).statics = s.statics := by
  unfold PanelState.command
  split_ifs <;> rfl

theorem command_regs (s : PanelState) (reg value : UInt8) :
    (s.command reg value).regs = s.regs := by
  unfold PanelState.command
  split_ifs <;> rfl

theorem command_completed {s : PanelState} {reg value : UInt8} (hs : s.completed = false)
    (hreg : reg ≠ 0x50) : (s.command reg value).completed = false := by
  unfold PanelState.command
  split_ifs
  · dsimp only
    rw [hs, Bool.false_and]
  · exact hs
  · exact hs
  · exact hs
  · exact hs

theorem starting_step {s : PanelState} {o : firmware.Op} (ho : Preparing o) (hs : Starting s) :
    Starting (s.step engine o) := by
  cases o with
  | writeRegister reg value =>
    have hne : reg ≠ 0x02 ∧ reg ≠ 0x41 ∧ reg ≠ 0x50 := by simpa [Preparing] using ho
    have hstep : s.step engine (.writeRegister reg value) =
        (PanelState.store { s with latch := reg } reg value).command reg value := if_neg hne.1
    rw [hstep]
    refine ⟨?_, command_completed hs.completed hne.2.2, ?_⟩
    · rw [command_regs, store_regs_of_ne hne.2.1.symm]
      exact hs.layer
    · rw [command_statics]
      exact hs.screen
  | spiBusInitialize | spiBusAddDevice | readRegister reg | vTaskDelay file ms
  | setGlyphCache ch buf => exact ⟨hs.layer, hs.completed, hs.screen⟩
  | _ => exact ho.elim

theorem hoare_preparing {α : Type} {p : Firmware α} (hp : Only Preparing p) :
    Hoare (panel engine undefinedText) Starting p fun _ => Starting :=
  Hoare.of_only hp fun _ _ ho hs => starting_step ho hs

theorem write_preparing {reg : UInt8} (hreg : reg ∉ [0x02, 0x41, 0x50]) (value : UInt8) :
    Only Preparing (ra8875WriteRegister reg value) :=
  (only_perform _).mpr hreg

theorem setTextCursor_preparing (x y : UInt16) : Only Preparing (displaySetTextCursor x y) :=
  (write_preparing (by decide) _).bind fun _ => (write_preparing (by decide) _).bind fun _ =>
    (write_preparing (by decide) _).bind fun _ => write_preparing (by decide) _

theorem resetState_preparing : Only Preparing displayResetState :=
  (write_preparing (by decide) _).bind fun _ => (setTextCursor_preparing 0 0).bind fun _ =>
    (write_preparing (by decide) _).bind fun _ => (write_preparing (by decide) _).bind fun _ =>
      write_preparing (by decide) _

def beforeScreens : Firmware Unit := do
  ra8875Configure lcdTiming
  ra8875Clear
  ra8875SetBacklightBrightness 0xFF
  displaySetTextCursor 0 0
  displayPrecomputeGlyphs

theorem displaySetup_eq : displaySetup = beforeScreens >>= fun _ =>
    displayPrerenderDebugRtdLabels >>= fun _ => displaySwitchScreen .debugNoRtd := by
  unfold displaySetup beforeScreens
  simp only [bind_assoc]

theorem beforeScreens_preparing : Only Preparing beforeScreens := by
  have hconfigure : Only Preparing (ra8875Configure lcdTiming) := by
    have hreg : ∀ w ∈ lcdTiming.registers, w.1 ∉ ([0x02, 0x41, 0x50] : List UInt8) := by decide
    exact Only.forM _ _ fun w hw => write_preparing (hreg w hw) _
  have hglyphs : Only Preparing displayPrecomputeGlyphs := by
    refine Only.forM _ _ fun i _ => ?_
    split
    · exact only_pure ()
    · exact (only_perform _).mpr trivial
  exact hconfigure.bind fun _ => (write_preparing (by decide) _).bind fun _ =>
    (write_preparing (by decide) _).bind fun _ => (setTextCursor_preparing 0 0).bind fun _ =>
      hglyphs

theorem onscreen_firstDrawMode {s : PanelState} (hs : Starting s) :
    Onscreen s.statics.glyphCache (s.layers 1)
      (run (panel engine undefinedText) displayEnableDrawMode s).2 := by
  unfold displayEnableDrawMode
  rw [run_bind]
  change Onscreen _ _ (run _ (if s.statics.inGraphicMode then pure () else _) s).2
  cases hflag : s.statics.inGraphicMode with
  | true => exact ⟨hflag, rfl, hs.layer, hs.completed, rfl⟩
  | false =>
    have hmode : s.step engine (.writeRegister 0x40 0x00) =
        { s.store 0x40 0x00 with latch := 0x40 } := step_plain (by decide) 0x00 s
    change Onscreen _ _ ((s.step engine (.writeRegister 0x40 0x00)).step engine
      (.setInGraphicMode true))
    rw [hmode]
    have hlayer : (s.store 0x40 0x00).regs 0x41 = 0 :=
      (store_regs_of_ne (by decide) _).trans hs.layer
    exact ⟨rfl, rfl, hlayer, hs.completed, rfl⟩

theorem agree_loadingPicture {b : Backdrop} :
    Agrees engine undefinedText (Agree b none [] everywhere) loadingPicture
      (Agree b none [] everywhere) := by
  have hstyle : ∀ r ∈ styleRegisters, r ∈ styleRegisters ++ ([] : List UInt8) := fun r hr => by
    simpa using hr
  have hlabels : Agrees engine undefinedText
      (Agree b (some .comicSans) (styleRegisters ++ []) everywhere)
      (writeTexts debugRtdLabels.1 >>= fun _ => vTaskDelay .display watchdogDelay >>= fun _ =>
        writeTexts debugRtdLabels.2) (Agree b none [] everywhere) :=
    ((agree_writeTexts _).seq ((agree_delay _ _).seq (agree_writeTexts _))).conseq
      (fun _ _ h => h) fun _ _ h =>
        h.forgetFont.mono (fun _ hr => absurd hr List.not_mem_nil) fun _ hy => hy
  exact (agree_drawRect _ _ _ _ _ _).seq ((agree_drawRect _ _ _ _ _ _).seq
    ((agree_delay _ _).seq (agree_enableTextInternal.seq ((agree_internalFontSize _).seq
      ((agree_forget (by decide) (by simp)).seq ((agree_forget (by decide) (by simp)).seq
        ((agree_forget (by decide) (by simp)).seq ((agree_writeTextAt_internal hstyle _ _ _).seq
          (agree_enableTextComicSans.seq hlabels)))))))))

theorem agree_pair {glyphs : UInt8 → GlyphBuffer} {saved : PixelLayer} {s t : PanelState}
    (hs : Onscreen glyphs saved s) (ht : Onscreen glyphs saved t) :
    Agree ⟨glyphs, saved, saved⟩ none [] nowhere s t :=
  ⟨hs, ht, fun _ hf => absurd hf (by simp), fun _ hr => absurd hr List.not_mem_nil,
    fun _ _ hy => hy.elim⟩

theorem agree_self {glyphs : UInt8 → GlyphBuffer} {saved : PixelLayer} {s : PanelState}
    (hs : Onscreen glyphs saved s) : Agree ⟨glyphs, saved, saved⟩ none [] everywhere s s :=
  ⟨hs, hs, fun _ hf => absurd hf (by simp), fun _ hr => absurd hr List.not_mem_nil,
    fun _ _ _ => rfl⟩

theorem onscreen_loadingPicture {glyphs : UInt8 → GlyphBuffer} {saved : PixelLayer}
    {s : PanelState} (hs : Onscreen glyphs saved s) :
    Onscreen glyphs saved (run (panel engine undefinedText) loadingPicture s).2 :=
  (agree_loadingPicture s s (agree_self hs)).2.left

/-- The copy takes the rows above the loading box to the layer that is not shown. -/
theorem onscreen_save {glyphs : UInt8 → GlyphBuffer} {saved : PixelLayer} {s : PanelState}
    (hs : Onscreen glyphs saved s) :
    Onscreen glyphs (copiedBlock (s.layers 0) (s.layers 1) 800 400)
      (run (panel engine undefinedText)
        (ra8875BteMove 0 0 layerDisplay 0 0 layerOffscreen 800 400 0 0xC) s).2 := by
  obtain ⟨hstatics, hcompleted, hregs, hlayers⟩ :=
    run_bteMove engine undefinedText layerDisplay layerOffscreen 800 400 s
  refine ⟨?_, ?_, ?_, hcompleted, ?_⟩
  · rw [hstatics]
    exact hs.graphic
  · rw [hstatics]
    exact hs.glyphs
  · rw [hregs 0x41 (by decide)]
    exact hs.layer
  · rw [hlayers]
    exact Function.update_self ..

def loaded (engine : TextEngine) (undefinedText : Format → CFloat → List UInt8)
    (s : PanelState) : PanelState :=
  finish (panel engine undefinedText)
    (displayResetState >>= fun _ => displayEnableDrawMode >>= fun _ => loadingPicture) s

theorem onscreen_prerender {s : PanelState} (hs : Starting s) :
    Onscreen s.statics.glyphCache
      (copiedBlock ((loaded engine undefinedText s).layers 0)
        ((loaded engine undefinedText s).layers 1) 800 400)
      (finish (panel engine undefinedText) displayPrerenderDebugRtdLabels s) := by
  have hreset : Starting (finish (panel engine undefinedText) displayResetState s) :=
    hoare_preparing resetState_preparing s hs
  have hglyphs : (finish (panel engine undefinedText) displayResetState s).statics.glyphCache =
      s.statics.glyphCache := rfl
  have hmode : Onscreen _ _ (finish (panel engine undefinedText) displayEnableDrawMode
      (finish (panel engine undefinedText) displayResetState s)) := onscreen_firstDrawMode hreset
  rw [hglyphs] at hmode
  unfold loaded
  rw [prerender_eq, finish_bind, finish_bind, finish_bind, finish_bind, finish_bind]
  exact onscreen_save (onscreen_loadingPicture hmode)

theorem run_switchScreen_idle {s : PanelState} {next : Screen}
    (h : s.statics.currentScreen = next ∨ render next = none) :
    run (panel engine undefinedText) (displaySwitchScreen next) s = ((), s) ∧
      trace (panel engine undefinedText) (displaySwitchScreen next) s =
        [.call (.switchScreen next), .currentScreen] := by
  unfold displaySwitchScreen
  rw [run_bind, run_bind, trace_bind, trace_bind]
  change run _ (if s.statics.currentScreen = next then pure () else _) s = _ ∧
    [Op.call (.switchScreen next)] ++ ([Op.currentScreen] ++
      trace (S := firmware) _ (if s.statics.currentScreen = next then pure () else _) s) = _
  by_cases hsame : s.statics.currentScreen = next
  · rw [if_pos hsame]
    exact ⟨rfl, rfl⟩
  · rw [if_neg hsame, h.resolve_left hsame]
    exact ⟨rfl, rfl⟩

theorem finish_switchScreen {s : PanelState} {next : Screen} {draw : Firmware Unit}
    (hother : s.statics.currentScreen ≠ next) (hdraw : render next = some draw) :
    finish (panel engine undefinedText) (displaySwitchScreen next) s =
      (finish (panel engine undefinedText) draw s).step engine (.setCurrentScreen next) := by
  unfold displaySwitchScreen
  rw [finish_bind, finish_bind]
  change finish _ (if s.statics.currentScreen = next then pure () else _) s = _
  rw [if_neg hother, hdraw]
  dsimp only
  rw [finish_bind]
  rfl

variable (engine undefinedText) in
/-- What the screen shows when it is drawn on the panel `c`. -/
def picture (c : PanelState) (S : Screen) : PixelLayer :=
  match render S with
  | some draw => (finish (panel engine undefinedText) draw c).layers shownLayer
  | none => c.layers shownLayer

variable {glyphs : UInt8 → GlyphBuffer} {saved : PixelLayer} {c : PanelState}

theorem onscreen_render {s : PanelState} {S : Screen} {draw : Firmware Unit}
    (hc : Onscreen glyphs saved c) (hs : Onscreen glyphs saved s) (hdraw : render S = some draw) :
    Onscreen glyphs saved (finish (panel engine undefinedText) draw s) ∧
      (finish (panel engine undefinedText) draw s).layers 0 = picture engine undefinedText c S := by
  have hrender : Agrees engine undefinedText (Agree ⟨glyphs, saved, saved⟩ none [] nowhere) draw
      (Agree ⟨glyphs, saved, saved⟩ none [] everywhere) := agree_render rfl hdraw
  have hagree := (hrender s c (agree_pair hs hc)).2
  refine ⟨hagree.left, ?_⟩
  unfold picture
  rw [hdraw]
  exact funext fun x => funext fun y => hagree.pixels x y trivial

variable (engine undefinedText) in
structure Shows (glyphs : UInt8 → GlyphBuffer) (saved : PixelLayer) (c s : PanelState) :
    Prop where
  onscreen : Onscreen glyphs saved s
  shown : s.layers 0 = picture engine undefinedText c s.statics.currentScreen

theorem shows_switchScreen {s : PanelState} {next : Screen} {draw : Firmware Unit}
    (hc : Onscreen glyphs saved c) (hs : Onscreen glyphs saved s)
    (hother : s.statics.currentScreen ≠ next) (hdraw : render next = some draw) :
    Shows engine undefinedText glyphs saved c
      (finish (panel engine undefinedText) (displaySwitchScreen next) s) := by
  rw [finish_switchScreen hother hdraw]
  obtain ⟨hdrawn, hpicture⟩ : Onscreen glyphs saved (finish (panel engine undefinedText) draw s) ∧
    _ := onscreen_render hc hs hdraw
  exact ⟨⟨hdrawn.graphic, hdrawn.glyphs, hdrawn.layer, hdrawn.completed, hdrawn.saved⟩, hpicture⟩

theorem hoare_switchScreen (hc : Onscreen glyphs saved c) (next : Screen) :
    Hoare (panel engine undefinedText) (Shows engine undefinedText glyphs saved c)
      (displaySwitchScreen next) fun _ => Shows engine undefinedText glyphs saved c := by
  intro s hs
  by_cases hidle : s.statics.currentScreen = next ∨ render next = none
  · rw [(run_switchScreen_idle hidle).1]
    exact hs
  · obtain ⟨hother, hknown⟩ := not_or.mp hidle
    obtain ⟨draw, hdraw⟩ := Option.ne_none_iff_exists'.mp hknown
    exact shows_switchScreen hc hs.onscreen hother hdraw

theorem hoare_switches (hc : Onscreen glyphs saved c) (xs : List Screen) :
    Hoare (panel engine undefinedText) (Shows engine undefinedText glyphs saved c)
      (xs.forM displaySwitchScreen) fun _ => Shows engine undefinedText glyphs saved c :=
  Hoare.forM _ _ fun next _ => hoare_switchScreen hc next

theorem starting_powerUp (layers : Fin 2 → PixelLayer) : Starting (.powerUp layers) :=
  ⟨rfl, rfl, rfl⟩

variable (engine undefinedText) in
def prepared (layers : Fin 2 → PixelLayer) (tries : ℕ) : PanelState :=
  finish (panel engine undefinedText) (ra8875Init (tries + 1) >>= fun _ => beforeScreens)
    (.powerUp layers)

variable (engine undefinedText) in
def prerendered (layers : Fin 2 → PixelLayer) (tries : ℕ) : PanelState :=
  finish (panel engine undefinedText) displayPrerenderDebugRtdLabels
    (prepared engine undefinedText layers tries)

theorem displayInit_answers (layers : Fin 2 → PixelLayer) (tries : ℕ) :
    (run (panel engine undefinedText) (ra8875Init (tries + 1)) (.powerUp layers)).1 =
      some true := rfl

theorem displayInit_ready (layers : Fin 2 → PixelLayer) (tries : ℕ) :
    (run (panel engine undefinedText) (displayInit (tries + 1)) (.powerUp layers)).1 = true := by
  unfold displayInit
  rw [run_bind, displayInit_answers]
  dsimp only
  rw [run_bind]
  rfl

theorem finish_displayInit (layers : Fin 2 → PixelLayer) (tries : ℕ) :
    finish (panel engine undefinedText) (displayInit (tries + 1)) (.powerUp layers) =
      finish (panel engine undefinedText) (displaySwitchScreen .debugNoRtd)
        (prerendered engine undefinedText layers tries) := by
  unfold displayInit prerendered prepared
  rw [finish_bind, displayInit_answers]
  dsimp only
  rw [finish_bind, finish_pure, displaySetup_eq, finish_bind, finish_bind, finish_bind]

theorem data_statics (s : PanelState) (value : UInt8) :
    (s.data engine value).statics = s.statics := by
  unfold PanelState.data
  split_ifs
  · rfl
  · exact command_statics _ _ _

theorem currentScreen_silent {α : Type} {p : Firmware α} (hp : Only Silent p) (s : PanelState) :
    (finish (panel engine undefinedText) p s).statics.currentScreen = s.statics.currentScreen := by
  refine run_view_eq (fun s : PanelState => s.statics.currentScreen) hp (fun o s ho => ?_) s
  cases o with
  | writeData value => exact congrArg Statics.currentScreen (data_statics s value)
  | writeRegister reg value =>
    exact congrArg Statics.currentScreen (data_statics { s with latch := reg } value)
  | setCurrentScreen screen => exact ho.elim
  | _ => rfl

theorem starting_prepared (layers : Fin 2 → PixelLayer) (tries : ℕ) :
    Starting (prepared engine undefinedText layers tries) := by
  have hinit : Only Preparing (ra8875Init (tries + 1)) := by
    refine (ra8875Init_waking _).mono fun o ho => ?_
    cases o with
    | writeRegister reg value => rcases ho with rfl | rfl <;> simp [Preparing]
    | spiBusInitialize | spiBusAddDevice | readRegister reg | vTaskDelay file ms => exact trivial
    | _ => exact ho.elim
  have hstart : Hoare (panel engine undefinedText) Starting
      (ra8875Init (tries + 1) >>= fun _ => beforeScreens) fun _ => Starting :=
    (hoare_preparing hinit).seq (hoare_preparing beforeScreens_preparing)
  unfold prepared
  exact hstart _ (starting_powerUp layers)

theorem screen_prerendered (layers : Fin 2 → PixelLayer) (tries : ℕ) :
    (prerendered engine undefinedText layers tries).statics.currentScreen = .mainNoLaps := by
  unfold prerendered
  rw [currentScreen_silent prerenderDebugRtdLabels_silent]
  exact (starting_prepared layers tries).screen

variable (engine undefinedText) in
/-- The panel after `Display_Init` and the switches `xs`. -/
def panelAfter (layers : Fin 2 → PixelLayer) (tries : ℕ) (xs : List Screen) : PanelState :=
  finish (panel engine undefinedText) (displayInit (tries + 1) >>= fun _ =>
    xs.forM displaySwitchScreen) (.powerUp layers)

theorem onscreen_prerendered (layers : Fin 2 → PixelLayer) (tries : ℕ) :
    Onscreen (prepared engine undefinedText layers tries).statics.glyphCache
      (copiedBlock ((loaded engine undefinedText (prepared engine undefinedText layers tries)).layers 0)
        ((loaded engine undefinedText (prepared engine undefinedText layers tries)).layers 1) 800 400)
      (prerendered engine undefinedText layers tries) :=
  onscreen_prerender (starting_prepared layers tries)

theorem shows_after {layers : Fin 2 → PixelLayer} {tries : ℕ}
    (hc : Onscreen glyphs saved (prerendered engine undefinedText layers tries))
    (xs : List Screen) :
    Shows engine undefinedText glyphs saved (prerendered engine undefinedText layers tries)
      (panelAfter engine undefinedText layers tries xs) := by
  have hother : (prerendered engine undefinedText layers tries).statics.currentScreen ≠
      .debugNoRtd := by
    rw [screen_prerendered layers tries]
    exact Screen.noConfusion
  have hfirst : Shows engine undefinedText glyphs saved _
      (finish (panel engine undefinedText) (displaySwitchScreen .debugNoRtd)
        (prerendered engine undefinedText layers tries)) :=
    shows_switchScreen hc hc hother
      (show render .debugNoRtd = some displayRenderStaticDebugScreen from rfl)
  unfold panelAfter
  rw [finish_bind, finish_displayInit]
  exact hoare_switches hc xs _ hfirst

end Setup

/-- What is shown depends on `CURRENT_SCREEN` alone, the layer that is not shown stays as
    `Display_Init` leaves it, and a switch that has nothing to do does nothing. -/
theorem screens_by_current (engine : TextEngine) (undefinedText : Format → CFloat → List UInt8)
    (layers : Fin 2 → PixelLayer) (tries : ℕ) :
    (run (panel engine undefinedText) (displayInit (tries + 1)) (.powerUp layers)).1 = true ∧
    (∀ xs, let s := panelAfter engine undefinedText layers tries xs
      s.layers 0 = picture engine undefinedText (prerendered engine undefinedText layers tries)
          s.statics.currentScreen ∧
        s.layers 1 = (panelAfter engine undefinedText layers tries []).layers 1) ∧
    ∀ xs next, let s := panelAfter engine undefinedText layers tries xs
      (s.statics.currentScreen = next ∨ ∃ value outside, next = .other value outside) →
        run (panel engine undefinedText) (displaySwitchScreen next) s = ((), s) ∧
          trace (panel engine undefinedText) (displaySwitchScreen next) s =
            [.call (.switchScreen next), .currentScreen] := by
  obtain ⟨glyphs, saved, hc⟩ : ∃ glyphs saved,
      Onscreen glyphs saved (prerendered engine undefinedText layers tries) :=
    ⟨_, _, onscreen_prerendered layers tries⟩
  refine ⟨displayInit_ready layers tries, fun xs => ?_, fun xs next => ?_⟩
  · have hshows := shows_after hc xs
    have hfirst := shows_after hc []
    exact ⟨hshows.shown, hshows.onscreen.saved.trans hfirst.onscreen.saved.symm⟩
  · intro s hidle
    refine run_switchScreen_idle (hidle.imp_right ?_)
    rintro ⟨value, outside, rfl⟩
    rfl

end SteeringDisplay.PanelHistory
