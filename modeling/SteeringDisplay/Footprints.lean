import SteeringDisplay.ButtonLoop

set_option autoImplicit false

/-!
# What rendering leaves alone

The routines of the display touch few registers. None of them touches the button
flags or `CURRENT_SCREEN`, and none makes a delay call of main.c.
-/
namespace SteeringDisplay.Footprints
open ProgramTree FirmwareInterface PanelDriver ComicSansFont NumberFormat DisplayScreens ButtonLoop

def cursorRegisters : List UInt8 := [0x2A, 0x2B, 0x2C, 0x2D]
def colorRegisters : List UInt8 := [0x63, 0x64, 0x65]
def cornerRegisters : List UInt8 := [0x91, 0x92, 0x93, 0x94, 0x95, 0x96, 0x97, 0x98]

def paintRegisters : List UInt8 := 0x90 :: (cursorRegisters ++ colorRegisters ++ cornerRegisters)

def drawRegisters : List UInt8 := 0x21 :: 0x22 :: 0x40 :: 0x41 :: paintRegisters

def transferRegisters : List UInt8 :=
  [0x50, 0x51, 0x54, 0x55, 0x56, 0x57, 0x58, 0x59, 0x5A, 0x5B, 0x5C, 0x5D, 0x5E, 0x5F, 0xF1]

def arrangeRegisters : List UInt8 :=
  0x8E :: 0x40 :: (cursorRegisters ++ colorRegisters ++ transferRegisters)

def Plotting : firmware.Op → Prop
  | .writeRegister reg _ => reg ∈ paintRegisters
  | .currentFont | .glyphCache _ => True
  | _ => False

def Painting : firmware.Op → Prop
  | .writeRegister reg _ => reg ∈ paintRegisters
  | .writeCommand reg => reg = 0x02
  | .writeData _ | .undefinedText _ _ | .currentFont | .glyphCache _ => True
  | _ => False

/-- Rectangles and text, with the choice of mode and font before them. The mode flag is
    never lowered, and the layer to write to is always the first one. -/
def Drawing : firmware.Op → Prop
  | .writeRegister reg value => reg ∈ drawRegisters ∧ (reg = 0x41 → value = 0x00)
  | .writeCommand reg => reg = 0x02
  | .vTaskDelay file _ => file = .display
  | .setInGraphicMode b => b = true
  | .writeData _ | .undefinedText _ _ | .currentFont | .glyphCache _ | .inGraphicMode
  | .setCurrentFont _ => True
  | _ => False

/-- Clears, block moves, cursor, colour and mode: all that comes before rectangles and text. -/
def Arranging : firmware.Op → Prop
  | .writeRegister reg _ => reg ∈ arrangeRegisters
  | .readRegister reg => reg = 0xF1
  | .vTaskDelay file ms => file = .bte ∧ ms = 1
  | .setInGraphicMode b => b = true
  | .inGraphicMode => True
  | _ => False

/-- All but what `app_main`, its toggles and `Display_SwitchScreen` perform themselves. -/
def Silent : firmware.Op → Prop
  | .setCurrentScreen _ | .gpioIsrHandlerAdd _ | .togglePressed _ | .clearPressed _ | .call _ => False
  | .vTaskDelay file _ => file ≠ .main
  | _ => True

/-- The font stays selected, and the mode flag is not lowered. -/
def KeepsFont : firmware.Op → Prop
  | .setCurrentFont _ => False
  | .setInGraphicMode b => b = true
  | _ => True

theorem painting_of_plotting {o : firmware.Op} (h : Plotting o) : Painting o := by
  cases o <;> first | exact h | exact trivial | exact h.elim

theorem drawing_of_painting {o : firmware.Op} (h : Painting o) : Drawing o := by
  cases o with
  | writeRegister reg value =>
    have hreg : reg ∈ paintRegisters := h
    refine ⟨List.mem_cons_of_mem _ (List.mem_cons_of_mem _ (List.mem_cons_of_mem _
      (List.mem_cons_of_mem _ h))), ?_⟩
    rintro rfl
    exact absurd hreg (by decide)
  | _ => first | exact h | exact trivial | exact h.elim

theorem keepsFont_of_painting {o : firmware.Op} (h : Painting o) : KeepsFont o := by
  cases o <;> first | exact trivial | exact h.elim

theorem keepsFont_of_arranging {o : firmware.Op} (h : Arranging o) : KeepsFont o := by
  cases o <;> first | exact trivial | exact h

theorem silent_of_drawing {o : firmware.Op} (h : Drawing o) : Silent o := by
  cases o with
  | vTaskDelay file ms =>
    obtain rfl : file = .display := h
    exact SourceFile.noConfusion
  | _ => first | exact trivial | exact h.elim

theorem silent_of_arranging {o : firmware.Op} (h : Arranging o) : Silent o := by
  cases o with
  | vTaskDelay file ms =>
    obtain ⟨rfl, rfl⟩ : file = .bte ∧ ms = 1 := h
    exact SourceFile.noConfusion
  | _ => first | exact trivial | exact h.elim

def Waking : firmware.Op → Prop
  | .spiBusInitialize | .spiBusAddDevice => True
  | .writeRegister reg _ => reg = 0xF0 ∨ reg = 0xF1
  | .readRegister reg => reg = 0
  | .vTaskDelay file _ => file = .core
  | _ => False

theorem silent_of_waking {o : firmware.Op} (h : Waking o) : Silent o := by
  cases o with
  | vTaskDelay file ms =>
    obtain rfl : file = .core := h
    exact SourceFile.noConfusion
  | _ => first | exact trivial | exact h.elim

theorem write_plotting {reg : UInt8} (hreg : reg ∈ paintRegisters) (value : UInt8) :
    Only Plotting (ra8875WriteRegister reg value) :=
  (only_perform _).mpr hreg

theorem foregroundWhite_plotting : Only Plotting displayForegroundWhite :=
  (write_plotting (by decide) _).bind (fun _ => (write_plotting (by decide) _).bind (fun _ =>
    write_plotting (by decide) _))

theorem setTextCursor_plotting (x y : UInt16) : Only Plotting (displaySetTextCursor x y) :=
  (write_plotting (by decide) _).bind (fun _ => (write_plotting (by decide) _).bind (fun _ =>
    (write_plotting (by decide) _).bind (fun _ => write_plotting (by decide) _)))

theorem setDoubleRegister_plotting {reg : UInt8} (hlow : reg ∈ paintRegisters)
    (hhigh : reg + 1 ∈ paintRegisters) (value : UInt16) :
    Only Plotting (setDoubleRegister reg value) :=
  (write_plotting hlow _).bind (fun _ => write_plotting hhigh _)

theorem setCorners_plotting (x1 y1 x2 y2 : UInt16) : Only Plotting (setCorners x1 y1 x2 y2) :=
  (setDoubleRegister_plotting (by decide) (by decide) _).bind (fun _ =>
    (setDoubleRegister_plotting (by decide) (by decide) _).bind (fun _ =>
      (setDoubleRegister_plotting (by decide) (by decide) _).bind (fun _ =>
        setDoubleRegister_plotting (by decide) (by decide) _)))

theorem drawRect_plotting (x1 y1 x2 y2 : UInt16) (color : UInt8) (filled : Bool) :
    Only Plotting (ra8875DrawRect x1 y1 x2 y2 color filled) :=
  (setCorners_plotting x1 y1 x2 y2).bind (fun _ => (write_plotting (by decide) _).bind (fun _ =>
    (write_plotting (by decide) _).bind (fun _ => (write_plotting (by decide) _).bind (fun _ =>
      write_plotting (by decide) _))))

theorem drawRectFast_plotting (x1 y1 x2 y2 : UInt16) :
    Only Plotting (ra8875DrawRectFast x1 y1 x2 y2) :=
  (setCorners_plotting x1 y1 x2 y2).bind (fun _ => write_plotting (by decide) _)

theorem blitColumn_plotting (px1 px2 y : UInt16) (buf : GlyphBuffer) (col row : ℕ) :
    Only Plotting (blitColumn px1 px2 y buf col row) := by
  fun_induction blitColumn px1 px2 y buf col row with
  | case1 row _ _ ih => exact ih
  | case2 row _ _ stop ih => exact (drawRectFast_plotting _ _ _ _).bind (fun _ => ih)
  | case3 row _ => exact trivial

theorem blitGlyph_plotting (x y : UInt16) (buf : GlyphBuffer) :
    Only Plotting (displayBlitGlyph x y buf) :=
  foregroundWhite_plotting.bind (fun _ =>
    Only.forM _ _ (fun _ _ => blitColumn_plotting _ _ _ _ _ _))

theorem drawBorders_plotting (lines : List LineSpec) : Only Plotting (displayDrawBorders lines) :=
  Only.forM _ _ (fun _ _ => drawRect_plotting _ _ _ _ _ _)

theorem blitCharacters_plotting (table : UInt8 → Option Glyph8x16) (x y : UInt16)
    (msg : List UInt8) : Only Plotting (blitCharacters table x y msg) := by
  induction msg generalizing x with
  | nil => exact trivial
  | cons ch msg ih =>
    unfold blitCharacters
    split_ifs
    · exact trivial
    · split
      · exact ih x
      · exact ⟨trivial, fun buf => (blitGlyph_plotting x y buf).bind (fun _ => ih _)⟩

theorem mainBar_plotting (isLaps : Bool) : Only Plotting (mainBar isLaps) := by
  unfold mainBar
  split_ifs <;> exact drawRect_plotting _ _ _ _ _ _

theorem painting {α : Type} {p : Firmware α} (hp : Only Plotting p) : Only Painting p :=
  hp.mono fun _ => painting_of_plotting

theorem write_painting {reg : UInt8} (hreg : reg ∈ paintRegisters) (value : UInt8) :
    Only Painting (ra8875WriteRegister reg value) :=
  painting (write_plotting hreg value)

theorem foregroundWhite_painting : Only Painting displayForegroundWhite :=
  painting foregroundWhite_plotting

theorem setTextCursor_painting (x y : UInt16) : Only Painting (displaySetTextCursor x y) :=
  painting (setTextCursor_plotting x y)

theorem setCorners_painting (x1 y1 x2 y2 : UInt16) : Only Painting (setCorners x1 y1 x2 y2) :=
  painting (setCorners_plotting x1 y1 x2 y2)

theorem drawRect_painting (x1 y1 x2 y2 : UInt16) (color : UInt8) (filled : Bool) :
    Only Painting (ra8875DrawRect x1 y1 x2 y2 color filled) :=
  painting (drawRect_plotting x1 y1 x2 y2 color filled)

theorem drawBorders_painting (lines : List LineSpec) : Only Painting (displayDrawBorders lines) :=
  painting (drawBorders_plotting lines)

theorem mainBar_painting (isLaps : Bool) : Only Painting (mainBar isLaps) :=
  painting (mainBar_plotting isLaps)

theorem sendCharacters_painting (msg : List UInt8) : Only Painting (sendCharacters msg) := by
  induction msg with
  | nil => exact trivial
  | cons ch msg ih =>
    unfold sendCharacters
    split_ifs
    · exact trivial
    · exact ⟨trivial, fun _ => ih⟩

theorem writeTextAt_painting (table : UInt8 → Option Glyph8x16) (x y : UInt16)
    (msg : List UInt8) : Only Painting (writeTextAt table x y msg) := by
  refine ⟨trivial, fun font => ?_⟩
  cases font with
  | internal =>
    exact (setTextCursor_painting x y).bind (fun _ => ⟨rfl, fun _ => sendCharacters_painting msg⟩)
  | comicSans => exact painting (blitCharacters_plotting table x y msg)

theorem snprintf_painting (size : ℕ) (format : Format) (value : CFloat) :
    Only Painting (snprintf size format value) := by
  cases format with
  | d => exact ⟨trivial, fun _ => trivial⟩
  | f precision => exact trivial

theorem writeNumberAt_painting (x y : UInt16) (isWholeNumber : Bool) (value : CFloat)
    (hasManyDigits : Bool) :
    Only Painting (displayWriteNumberAt x y isWholeNumber value hasManyDigits) := by
  unfold displayWriteNumberAt
  split_ifs <;>
    exact (snprintf_painting _ _ _).bind (fun _ => writeTextAt_painting _ _ _ _)

theorem writeTexts_painting (texts : List TextSpec) : Only Painting (writeTexts texts) :=
  Only.forM _ _ (fun _ _ => writeTextAt_painting _ _ _ _)

theorem writeValues_painting (values : List ValueSpec) : Only Painting (writeValues values) := by
  refine Only.forM _ _ (fun v _ => ?_)
  cases v with
  | float x y | manyDigits x y | whole x y => exact writeNumberAt_painting _ _ _ _ _
  | text x y msg => exact writeTextAt_painting _ _ _ _

theorem write_arranging {reg : UInt8} (hreg : reg ∈ arrangeRegisters) (value : UInt8) :
    Only Arranging (ra8875WriteRegister reg value) :=
  (only_perform _).mpr hreg

theorem fourWrites_arranging {r₁ r₂ r₃ r₄ : UInt8}
    (hr : ∀ r ∈ [r₁, r₂, r₃, r₄], r ∈ arrangeRegisters)
    (v₁ v₂ v₃ v₄ : UInt8) : Only Arranging (do
      ra8875WriteRegister r₁ v₁
      ra8875WriteRegister r₂ v₂
      ra8875WriteRegister r₃ v₃
      ra8875WriteRegister r₄ v₄) :=
  (write_arranging (hr _ (by simp)) _).bind (fun _ => (write_arranging (hr _ (by simp)) _).bind
    (fun _ => (write_arranging (hr _ (by simp)) _).bind
      (fun _ => write_arranging (hr _ (by simp)) _)))

theorem setTextCursor_arranging (x y : UInt16) : Only Arranging (displaySetTextCursor x y) :=
  fourWrites_arranging (by decide) _ _ _ _

theorem foregroundWhite_arranging : Only Arranging displayForegroundWhite :=
  (write_arranging (by decide) _).bind (fun _ => (write_arranging (by decide) _).bind (fun _ =>
    write_arranging (by decide) _))

theorem resetState_arranging : Only Arranging displayResetState :=
  (write_arranging (by decide) _).bind (fun _ =>
    (setTextCursor_arranging 0 0).bind (fun _ => foregroundWhite_arranging))

theorem enableDrawMode_arranging : Only Arranging displayEnableDrawMode := by
  refine ⟨trivial, fun graphic => ?_⟩
  cases graphic with
  | true => exact trivial
  | false => exact (write_arranging (by decide) _).bind (fun _ => ⟨rfl, fun _ => trivial⟩)

theorem leaveGraphicMode_arranging : Only Arranging leaveGraphicMode := by
  refine ⟨trivial, fun graphic => ?_⟩
  cases graphic with
  | true => exact write_arranging (by decide) _
  | false => exact trivial

theorem pollInterrupt_arranging (mask : UInt8) (polls : ℕ) :
    Only Arranging (pollInterrupt mask polls) := by
  induction polls with
  | zero => exact trivial
  | succ polls ih =>
    refine ⟨rfl, fun (status : UInt8) => ?_⟩
    change Only Arranging (if status &&& mask ≠ 0 then _ else _)
    split_ifs
    · exact write_arranging (by decide) _
    · exact ⟨⟨rfl, rfl⟩, fun _ => ih⟩

theorem bteMove_arranging (sx sy : UInt16) (sl : UInt8) (dx dy : UInt16) (dl : UInt8)
    (w h : UInt16) (negative rop : UInt8) :
    Only Arranging (ra8875BteMove sx sy sl dx dy dl w h negative rop) :=
  (fourWrites_arranging (by decide) _ _ _ _).bind (fun _ =>
    (fourWrites_arranging (by decide) _ _ _ _).bind (fun _ =>
      (fourWrites_arranging (by decide) _ _ _ _).bind (fun _ =>
        (write_arranging (by decide) _).bind (fun _ => (write_arranging (by decide) _).bind
          (fun _ => pollInterrupt_arranging _ _)))))

theorem drawing {α : Type} {p : Firmware α} (hp : Only Painting p) : Only Drawing p :=
  hp.mono fun _ => drawing_of_painting

theorem delay_drawing (ms : ℕ) : Only Drawing (vTaskDelay .display ms) := (only_perform _).mpr rfl

theorem write_drawing {reg value : UInt8} (hreg : reg ∈ drawRegisters)
    (hlayer : reg = 0x41 → value = 0x00) : Only Drawing (ra8875WriteRegister reg value) :=
  (only_perform _).mpr ⟨hreg, hlayer⟩

theorem internalFontSize_drawing (size : UInt8) : Only Drawing (displayInternalFontSize size) :=
  (write_drawing (by decide) (by simp)).bind (fun _ =>
    (write_drawing (by decide) (fun _ => rfl)).bind (fun _ =>
      write_drawing (by decide) (fun _ => rfl)))

theorem enableDrawMode_drawing : Only Drawing displayEnableDrawMode := by
  refine ⟨trivial, fun graphic => ?_⟩
  cases graphic with
  | true => exact trivial
  | false => exact (write_drawing (by decide) (by simp)).bind (fun _ => ⟨rfl, fun _ => trivial⟩)

theorem leaveGraphicMode_drawing : Only Drawing leaveGraphicMode := by
  refine ⟨trivial, fun graphic => ?_⟩
  cases graphic with
  | true => exact write_drawing (by decide) (by simp)
  | false => exact trivial

theorem enableText_drawing (font : DisplayFont) :
    Only Drawing (displayEnableTextModeAndFont font) := by
  cases font with
  | internal =>
    exact ⟨trivial, fun _ => leaveGraphicMode_drawing.bind (fun _ =>
      (drawing foregroundWhite_painting).bind (fun _ => internalFontSize_drawing _))⟩
  | comicSans => exact ⟨trivial, fun _ => enableDrawMode_drawing⟩

theorem renderMainScreen_drawing (isLaps : Bool) :
    ∃ rest, displayRenderMainScreen isLaps = (displayResetState >>= fun _ => rest) ∧
      Only Drawing rest :=
  ⟨_, rfl, enableDrawMode_drawing.bind (fun _ => (drawing (mainBar_painting isLaps)).bind (fun _ =>
    (drawing (drawBorders_painting _)).bind (fun _ => (delay_drawing _).bind (fun _ =>
      (enableText_drawing _).bind (fun _ => (drawing (writeTexts_painting _)).bind (fun _ =>
        (enableText_drawing _).bind (fun _ => drawing (writeValues_painting _))))))))⟩

theorem renderStaticDebugScreen_drawing :
    ∃ rest, displayRenderStaticDebugScreen = (displayResetState >>= fun _ => rest) ∧
      Only Drawing rest :=
  ⟨_, rfl, enableDrawMode_drawing.bind (fun _ => (drawing (drawBorders_painting _)).bind (fun _ =>
    (enableText_drawing _).bind (fun _ => (drawing (writeTexts_painting _)).bind (fun _ =>
      (delay_drawing _).bind (fun _ => (drawing (writeTexts_painting _)).bind (fun _ =>
        (enableText_drawing _).bind (fun _ => drawing (writeValues_painting _))))))))⟩

theorem warn_drawing :
    ∃ rest, displayWarn = (displayResetState >>= fun _ => rest) ∧ Only Drawing rest :=
  ⟨_, rfl, enableDrawMode_drawing.bind (fun _ => (drawing (drawRect_painting _ _ _ _ _ _)).bind
    (fun _ => (delay_drawing _).bind (fun _ => (enableText_drawing _).bind (fun _ =>
      (internalFontSize_drawing _).bind (fun _ => (drawing foregroundWhite_painting).bind (fun _ =>
        drawing (writeTextAt_painting _ _ _ _)))))))⟩

theorem usePrerenderedDebugRtd_drawing :
    ∃ rest, displayUsePrerenderedDebugRtd = (displayResetState >>= fun _ =>
      ra8875BteMove 0 0 layerOffscreen 0 0 layerDisplay 800 400 0 0xC >>= fun _ => rest) ∧
      Only Drawing rest :=
  ⟨_, rfl, enableDrawMode_drawing.bind (fun _ => (drawing (drawBorders_painting _)).bind (fun _ =>
    (enableText_drawing _).bind (fun _ => drawing (writeValues_painting _))))⟩

/-- `Display_PrerenderDebugRTDLabels` between the draw mode and the copy. -/
def loadingPicture : Firmware Unit := do
  displayDrawRect 200 170 600 240 colorRed true
  displayDrawRect 0 415 800 480 colorYellow true
  vTaskDelay .display defaultDelay
  displayEnableTextModeAndFont .internal
  displayInternalFontSize fontSizeDouble
  ra8875WriteRegister 0x63 0x00
  ra8875WriteRegister 0x64 0x00
  ra8875WriteRegister 0x65 0x03
  displayWriteTextAt 40 430 (cstring "<<< PLEASE WAIT >>>     Loading Cumic Sans... ")
  displayEnableTextModeAndFont .comicSans
  writeTexts debugRtdLabels.1
  vTaskDelay .display watchdogDelay
  writeTexts debugRtdLabels.2

theorem prerender_eq : displayPrerenderDebugRtdLabels = displayResetState >>= fun _ =>
    displayEnableDrawMode >>= fun _ => loadingPicture >>= fun _ =>
      ra8875BteMove 0 0 layerDisplay 0 0 layerOffscreen 800 400 0 0xC := by
  unfold displayPrerenderDebugRtdLabels loadingPicture
  simp only [bind_assoc]

theorem loadingPicture_drawing : Only Drawing loadingPicture :=
  (drawing (drawRect_painting _ _ _ _ _ _)).bind fun _ =>
    (drawing (drawRect_painting _ _ _ _ _ _)).bind fun _ => (delay_drawing _).bind fun _ =>
      (enableText_drawing _).bind fun _ => (internalFontSize_drawing _).bind fun _ =>
        (write_drawing (by decide) (by simp)).bind fun _ =>
          (write_drawing (by decide) (by simp)).bind fun _ =>
            (write_drawing (by decide) (by simp)).bind fun _ =>
              (drawing (writeTextAt_painting _ _ _ _)).bind fun _ =>
                (enableText_drawing _).bind fun _ => (drawing (writeTexts_painting _)).bind fun _ =>
                  (delay_drawing _).bind fun _ => drawing (writeTexts_painting _)

theorem silent {α : Type} {p : Firmware α} (hp : Only Drawing p) : Only Silent p :=
  hp.mono fun _ => silent_of_drawing

theorem write_silent (reg value : UInt8) : Only Silent (ra8875WriteRegister reg value) :=
  (only_perform _).mpr trivial

theorem writes_silent (ws : List (UInt8 × UInt8)) :
    Only Silent (ws.forM fun w => ra8875WriteRegister w.1 w.2) :=
  Only.forM _ _ (fun _ _ => write_silent _ _)

theorem awaitPanel_waking (tries : ℕ) : Only Waking (awaitPanel tries) := by
  induction tries with
  | zero => exact trivial
  | succ tries ih =>
    refine ⟨rfl, fun (id : UInt8) => ?_⟩
    change Only Waking (if id = 0x75 then _ else _)
    split_ifs
    · exact trivial
    · exact Only.bind ((only_perform _).mpr rfl) (fun _ => ih)

theorem ra8875Init_waking (tries : ℕ) : Only Waking (ra8875Init tries) := by
  unfold ra8875Init
  refine Only.bind ((only_perform _).mpr trivial) (fun bus => ?_)
  split_ifs
  · refine Only.bind ((only_perform _).mpr trivial) (fun dev => ?_)
    split_ifs
    · refine (awaitPanel_waking tries).bind (fun ready => ?_)
      split_ifs
      · exact ⟨Or.inl rfl, fun _ => ⟨Or.inr rfl, fun _ => trivial⟩⟩
      · exact trivial
    · exact trivial
  · exact trivial

theorem ra8875Init_silent (tries : ℕ) : Only Silent (ra8875Init tries) :=
  (ra8875Init_waking tries).mono fun _ => silent_of_waking

theorem arranging_silent {α : Type} {p : Firmware α} (hp : Only Arranging p) : Only Silent p :=
  hp.mono fun _ => silent_of_arranging

theorem precomputeGlyphs_caching (table : UInt8 → Option Glyph8x16) :
    Only (fun o => ∃ ch buf, o = Op.setGlyphCache ch buf) (precomputeGlyphs table) := by
  refine Only.forM _ _ (fun i _ => ?_)
  split
  · exact trivial
  · exact ⟨⟨_, _, rfl⟩, fun _ => trivial⟩

theorem precomputeGlyphs_silent (table : UInt8 → Option Glyph8x16) :
    Only Silent (precomputeGlyphs table) := by
  refine (precomputeGlyphs_caching table).mono ?_
  rintro _ ⟨ch, buf, rfl⟩
  exact trivial

theorem prerenderDebugRtdLabels_silent : Only Silent displayPrerenderDebugRtdLabels := by
  rw [prerender_eq]
  exact (arranging_silent resetState_arranging).bind fun _ =>
    (silent enableDrawMode_drawing).bind fun _ => (silent loadingPicture_drawing).bind fun _ =>
      arranging_silent (bteMove_arranging _ _ _ _ _ _ _ _ _ _)

theorem reset_then_silent {p rest : Firmware Unit} (hp : p = (displayResetState >>= fun _ => rest))
    (hrest : Only Silent rest) : Only Silent p := by
  rw [hp]
  exact (arranging_silent resetState_arranging).bind (fun _ => hrest)

theorem render_silent {s : Screen} {draw : Firmware Unit} (h : render s = some draw) :
    Only Silent draw := by
  cases s with
  | mainNoLaps | mainLaps =>
    obtain rfl := Option.some.inj h
    obtain ⟨rest, heq, hrest⟩ := renderMainScreen_drawing _
    exact reset_then_silent heq (silent hrest)
  | debugNoRtd =>
    obtain rfl := Option.some.inj h
    obtain ⟨rest, heq, hrest⟩ := renderStaticDebugScreen_drawing
    exact reset_then_silent heq (silent hrest)
  | debugRtd =>
    obtain rfl := Option.some.inj h
    obtain ⟨rest, heq, hrest⟩ := usePrerenderedDebugRtd_drawing
    exact reset_then_silent heq
      ((arranging_silent (bteMove_arranging _ _ _ _ _ _ _ _ _ _)).bind fun _ => silent hrest)
  | warn =>
    obtain rfl := Option.some.inj h
    obtain ⟨rest, heq, hrest⟩ := warn_drawing
    exact reset_then_silent heq (silent hrest)
  | other value outside => simp [render] at h

/-- What `app_main` does itself: it looks at the flags and clears them, and it sleeps. -/
def Switching : firmware.Op → Prop
  | .gpioIsrHandlerAdd _ | .togglePressed _ | .clearPressed _ => False
  | .vTaskDelay file _ => file ≠ .main
  | _ => True

def Toggling : firmware.Op → Prop
  | .gpioIsrHandlerAdd _ | .togglePressed _ | .clearPressed _ => False
  | _ => True

def Booting : firmware.Op → Prop
  | .togglePressed _ | .clearPressed _ => False
  | .vTaskDelay file _ => file ≠ .main
  | _ => True

theorem switching_of_silent {o : firmware.Op} (h : Silent o) : Switching o := by
  cases o <;> first | exact h | exact trivial

theorem toggling_of_switching {o : firmware.Op} (h : Switching o) : Toggling o := by
  cases o <;> first | exact h | exact trivial

theorem booting_of_switching {o : firmware.Op} (h : Switching o) : Booting o := by
  cases o <;> first | exact h | exact trivial

theorem switch_switching (next : Screen) : Only Switching (loadCurrentScreen >>= fun s =>
    if s = next then pure () else match render next with
      | none => pure ()
      | some draw => draw >>= fun _ => setCurrentScreen next) := by
  refine ⟨trivial, fun (S : Screen) => ?_⟩
  change Only Switching (if S = next then pure () else _)
  split_ifs
  · exact only_pure ()
  · cases hdraw : render next with
    | none => exact only_pure ()
    | some draw =>
      exact ((render_silent hdraw).mono fun _ => switching_of_silent).bind
        (fun _ => ⟨trivial, fun _ => trivial⟩)

theorem switchScreen_switching (next : Screen) : Only Switching (displaySwitchScreen next) :=
  ⟨trivial, fun _ => switch_switching next⟩

theorem toggleWhetherDrive_switching : Only Switching toggleWhetherDrive := by
  refine ⟨trivial, fun _ => ⟨trivial, fun (S : Screen) => ?_⟩⟩
  change Only Switching (if S = .debugNoRtd then _ else _)
  split_ifs <;> exact switchScreen_switching _

theorem toggleDuringDrive_toggling : Only Toggling toggleDuringDrive := by
  refine ⟨trivial, fun _ => ⟨trivial, fun (S : Screen) => ?_⟩⟩
  have hswitch : ∀ next, Only Toggling (displaySwitchScreen next) := fun next =>
    (switchScreen_switching next).mono fun _ => toggling_of_switching
  cases S with
  | mainNoLaps | debugRtd => exact hswitch _
  | mainLaps => exact (hswitch _).bind (fun _ => ⟨trivial, fun _ => hswitch _⟩)
  | debugNoRtd | warn | other value outside => exact only_pure ()

theorem displaySetup_switching : Only Switching displaySetup :=
  ((writes_silent _).mono fun _ => switching_of_silent).bind fun _ =>
    ((write_silent _ _).mono fun _ => switching_of_silent).bind fun _ =>
      ((write_silent _ _).mono fun _ => switching_of_silent).bind fun _ =>
        ((arranging_silent (setTextCursor_arranging 0 0)).mono fun _ => switching_of_silent).bind fun _ =>
          ((precomputeGlyphs_silent _).mono fun _ => switching_of_silent).bind fun _ =>
            (prerenderDebugRtdLabels_silent.mono fun _ => switching_of_silent).bind fun _ =>
              switchScreen_switching _

theorem displayInit_switching (tries : ℕ) : Only Switching (displayInit tries) := by
  refine ((ra8875Init_silent tries).mono fun _ => switching_of_silent).bind (fun result => ?_)
  cases result with
  | none => exact only_pure _
  | some _ => exact displaySetup_switching.bind (fun _ => only_pure _)

theorem appInit_booting (tries : ℕ) : Only Booting (appInit tries) := by
  refine ((displayInit_switching tries).mono fun _ => booting_of_switching).bind (fun ready => ?_)
  cases ready with
  | false => exact only_pure _
  | true => exact ⟨trivial, fun _ => ⟨trivial, fun _ => trivial⟩⟩

end SteeringDisplay.Footprints
