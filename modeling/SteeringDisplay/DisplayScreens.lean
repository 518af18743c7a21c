import SteeringDisplay.PanelDriver
import SteeringDisplay.ComicSansFont
import SteeringDisplay.NumberFormat

set_option autoImplicit false

/-!
# display.c

Each routine keeps the source's order of calls. Characters are C strings: a text
ends at its first zero byte.
-/
namespace SteeringDisplay.DisplayScreens
open ProgramTree FirmwareInterface PanelDriver ComicSansFont NumberFormat

def colorWhite : UInt8 := 255
def colorRed : UInt8 := 5
def colorYellow : UInt8 := 63

def fontSizeDouble : UInt8 := 0x05 ||| 0x40
def fontSizeTriple : UInt8 := 0x0A ||| 0x40
def fontSizeQuadruple : UInt8 := 0x0F ||| 0x40

def layerDisplay : UInt8 := 0
def layerOffscreen : UInt8 := 1

def glyphScale : ℕ := 2
def labelsYOffset : UInt16 := 11
def valuesYOffset : UInt16 := 55
def defaultDelay : ℕ := 20
def watchdogDelay : ℕ := 5

structure LineSpec where
  x1 : UInt16
  y1 : UInt16
  x2 : UInt16
  y2 : UInt16

def mainBordersNoLaps : List LineSpec :=
  [⟨0, 180, 800, 181⟩, ⟨0, 360, 800, 361⟩, ⟨266, 360, 267, 480⟩, ⟨533, 360, 534, 480⟩]

def mainBordersLaps : List LineSpec :=
  [⟨0, 120, 800, 121⟩, ⟨0, 240, 800, 241⟩, ⟨0, 360, 800, 361⟩, ⟨184, 0, 185, 120⟩,
   ⟨266, 360, 267, 480⟩, ⟨615, 0, 616, 120⟩, ⟨533, 360, 534, 480⟩]

def debugBordersRtd : List LineSpec :=
  [⟨0, 120, 800, 121⟩, ⟨0, 240, 800, 241⟩, ⟨0, 360, 800, 361⟩, ⟨200, 0, 201, 480⟩,
   ⟨400, 360, 401, 480⟩, ⟨600, 0, 601, 480⟩, ⟨700, 360, 701, 480⟩]

def debugBordersNoRtd : List LineSpec :=
  [⟨0, 120, 800, 121⟩, ⟨0, 240, 800, 241⟩, ⟨0, 360, 800, 361⟩, ⟨200, 0, 201, 480⟩,
   ⟨400, 0, 401, 480⟩, ⟨600, 0, 601, 480⟩]

def displayForegroundWhite : Firmware Unit := do
  ra8875WriteRegister 0x63 0x07
  ra8875WriteRegister 0x64 0x07
  ra8875WriteRegister 0x65 0x03

def displayInternalFontSize (size : UInt8) : Firmware Unit := do
  ra8875WriteRegister 0x22 size
  ra8875WriteRegister 0x41 0x00
  ra8875WriteRegister 0x21 0x00

/-- The buffer the two inner loops of `Display_PrecomputeGlyphs` fill for one glyph. -/
def precomputeGlyph (g : Glyph8x16) : GlyphBuffer where
  pixels row col :=
    if row < 16 ∧ col < 8 ∧
        (g.bitmap.toList.getD row 0).toNat &&& 1 <<< (7 - col) ≠ 0 then 1 else 0

/-- `Display_PrecomputeGlyphs`, for any pointer table. -/
def precomputeGlyphs (table : UInt8 → Option Glyph8x16) : Firmware Unit :=
  (List.range 256).forM fun i =>
    match table (UInt8.ofNat i) with
    | none => pure ()
    | some g => setGlyphCache (UInt8.ofNat i) (precomputeGlyph g)

def displayPrecomputeGlyphs : Firmware Unit := precomputeGlyphs glyphs

def displaySetTextCursor (x y : UInt16) : Firmware Unit := do
  ra8875WriteRegister 0x2A (x &&& 0xFF).toUInt8
  ra8875WriteRegister 0x2B (highByte x)
  ra8875WriteRegister 0x2C (y &&& 0xFF).toUInt8
  ra8875WriteRegister 0x2D (highByte y)

def displayResetState : Firmware Unit := do
  ra8875Clear
  displaySetTextCursor 0 0
  displayForegroundWhite

/-- The inner loop `while (row < 16 && buf->pixels[row][col]) row++`. -/
def spanEnd (buf : GlyphBuffer) (col row : ℕ) : ℕ :=
  if row < 16 ∧ buf.pixels row col ≠ 0 then spanEnd buf col (row + 1) else row
termination_by 16 - row

theorem le_spanEnd (buf : GlyphBuffer) (col row : ℕ) : row ≤ spanEnd buf col row := by
  fun_induction spanEnd buf col row with
  | case1 row _ ih => omega
  | case2 row _ => omega

theorem lt_spanEnd {buf : GlyphBuffer} {col row : ℕ} (h : row < 16)
    (hp : buf.pixels row col ≠ 0) : row < spanEnd buf col row := by
  rw [spanEnd, if_pos ⟨h, hp⟩]
  exact le_spanEnd buf col (row + 1)

/-- The loop over the rows of one column, from `row` on. -/
def blitColumn (px1 px2 y : UInt16) (buf : GlyphBuffer) (col row : ℕ) : Firmware Unit :=
  if _h : row < 16 then
    if hp : buf.pixels row col = 0 then blitColumn px1 px2 y buf col (row + 1)
    else do
      let stop := spanEnd buf col row
      ra8875DrawRectFast px1 (y + UInt16.ofNat (row * glyphScale)) px2
        (y + UInt16.ofNat ((stop - 1) * glyphScale + glyphScale - 1))
      blitColumn px1 px2 y buf col stop
  else pure ()
termination_by 16 - row
decreasing_by
  · omega
  · have := lt_spanEnd _h hp
    omega

def displayBlitGlyph (x y : UInt16) (buf : GlyphBuffer) : Firmware Unit := do
  displayForegroundWhite
  (List.range 8).forM fun col =>
    let px1 := x + UInt16.ofNat (col * glyphScale)
    blitColumn px1 (px1 + UInt16.ofNat glyphScale - 1) y buf col 0

def displayDrawRect (x1 y1 x2 y2 : UInt16) (color : UInt8) (filled : Bool) : Firmware Unit :=
  ra8875DrawRect x1 y1 x2 y2 color filled

def displayDrawBorders (lines : List LineSpec) : Firmware Unit :=
  lines.forM fun l => displayDrawRect l.x1 l.y1 l.x2 l.y2 colorWhite true

def displayEnableDrawMode : Firmware Unit := do
  if ← loadInGraphicMode then pure ()
  else
    ra8875WriteRegister 0x40 0x00
    setInGraphicMode true

/-- The inner `if` of `Display_EnableTextModeAndFont`. -/
def leaveGraphicMode : Firmware Unit := do
  if ← loadInGraphicMode then ra8875WriteRegister 0x40 0x80
  else pure ()

def displayEnableTextModeAndFont (fontType : DisplayFont) : Firmware Unit := do
  setCurrentFont fontType
  match fontType with
  | .internal =>
    leaveGraphicMode
    displayForegroundWhite
    displayInternalFontSize fontSizeTriple
  | .comicSans => displayEnableDrawMode

/-- The loop of the internal-font branch: one data byte for each character. -/
def sendCharacters : List UInt8 → Firmware Unit
  | [] => pure ()
  | ch :: msg =>
    if ch = 0 then pure ()
    else do
      ra8875WriteData ch
      sendCharacters msg

/-- The loop of the Comic Sans branch, for any pointer table. -/
def blitCharacters (table : UInt8 → Option Glyph8x16) (cursorX y : UInt16) :
    List UInt8 → Firmware Unit
  | [] => pure ()
  | ch :: msg =>
    if ch = 0 then pure ()
    else match table ch with
      | none => blitCharacters table cursorX y msg
      | some _ => do
        displayBlitGlyph cursorX y (← loadGlyphCache ch)
        blitCharacters table (cursorX + glyphAdvanceComicSans ch) y msg

def writeTextAt (table : UInt8 → Option Glyph8x16) (x y : UInt16) (msg : List UInt8) :
    Firmware Unit := do
  match ← loadCurrentFont with
  | .internal =>
    displaySetTextCursor x y
    ra8875WriteCommand 0x02
    sendCharacters msg
  | .comicSans => blitCharacters table x y msg

def displayWriteTextAt (x y : UInt16) (msg : List UInt8) : Firmware Unit :=
  writeTextAt glyphs x y msg

def displayWriteNumberAt (x y : UInt16) (isWholeNumber : Bool) (value : CFloat)
    (hasManyDigits : Bool) : Firmware Unit := do
  if hasManyDigits then
    displayWriteTextAt x y (← snprintf 11 (.f 5) value)
  else
    displayWriteTextAt x y (← snprintf 8 (if isWholeNumber then .d else .f 2) value)

structure TextSpec where
  x : UInt16
  y : UInt16
  msg : String

def writeTexts (texts : List TextSpec) : Firmware Unit :=
  texts.forM fun t => displayWriteTextAt t.x t.y (cstring t.msg)

/-- One `Display_Write...` call of a value section. Every number shown is a default 0. -/
inductive ValueSpec where
  | float (x y : UInt16)
  | manyDigits (x y : UInt16)
  | whole (x y : UInt16)
  | text (x y : UInt16) (msg : String)

def defaultValue : CFloat := .finite 0

def writeValue : ValueSpec → Firmware Unit
  | .float x y => displayWriteNumberAt x y false defaultValue false
  | .manyDigits x y => displayWriteNumberAt x y false defaultValue true
  | .whole x y => displayWriteNumberAt x y true defaultValue false
  | .text x y msg => displayWriteTextAt x y (cstring msg)

def writeValues (values : List ValueSpec) : Firmware Unit := values.forM writeValue

def mainLabels (isLaps : Bool) : List TextSpec :=
  if isLaps then
    [⟨30, 0 + labelsYOffset, "Lap Diff"⟩, ⟨305, 0 + labelsYOffset, "Last Lap Time"⟩,
     ⟨640, 0 + labelsYOffset, "Predicted"⟩, ⟨350, 120 + labelsYOffset, "Pack %"⟩,
     ⟨370, 240 + labelsYOffset, "Lap"⟩, ⟨40, 360 + labelsYOffset, "Torque Limit"⟩,
     ⟨315, 360 + labelsYOffset, "TC Lat Mode"⟩, ⟨590, 360 + labelsYOffset, "TV Balance"⟩]
  else
    [⟨350, 0 + labelsYOffset + 50, "Pack %"⟩,
     ⟨270, 185 + labelsYOffset + 50, "Distance Traveled"⟩,
     ⟨40, 360 + labelsYOffset, "Torque Limit"⟩, ⟨320, 360 + labelsYOffset, "TC Lat Mode"⟩,
     ⟨590, 360 + labelsYOffset, "TV Balance"⟩]

def mainValues (isLaps : Bool) : List ValueSpec :=
  if isLaps then
    [.float 40 (0 + valuesYOffset), .float 350 (0 + valuesYOffset),
     .float 660 (0 + valuesYOffset), .float 350 (120 + valuesYOffset),
     .whole 380 (240 + valuesYOffset), .whole 120 (360 + valuesYOffset),
     .whole 380 (360 + valuesYOffset), .whole 660 (360 + valuesYOffset)]
  else
    [.float 350 (0 + valuesYOffset + 50), .float 350 (180 + valuesYOffset + 50),
     .whole 120 (360 + valuesYOffset), .whole 390 (360 + valuesYOffset),
     .whole 660 (360 + valuesYOffset)]

def mainBar (isLaps : Bool) : Firmware Unit :=
  if isLaps then displayDrawRect 0 170 800 240 colorRed true
  else displayDrawRect 0 90 800 180 colorRed true

def displayRenderMainScreen (isLaps : Bool) : Firmware Unit := do
  displayResetState
  displayEnableDrawMode
  mainBar isLaps
  displayDrawBorders (if isLaps then mainBordersLaps else mainBordersNoLaps)
  vTaskDelay .display defaultDelay
  displayEnableTextModeAndFont .comicSans
  writeTexts (mainLabels isLaps)
  displayEnableTextModeAndFont .internal
  writeValues (mainValues isLaps)

/-- The labels of `Display_RenderStaticDebugScreen` before and after its delay. -/
def staticDebugLabels : List TextSpec × List TextSpec :=
  ([⟨20, 0 + labelsYOffset, "LV Voltage"⟩, ⟨240, 0 + labelsYOffset, "GPS Long"⟩,
    ⟨450, 0 + labelsYOffset, "GPS Lat"⟩, ⟨615, 0 + labelsYOffset, "Pack Voltage"⟩,
    ⟨20, 120 + labelsYOffset, "Motor T Max"⟩, ⟨240, 120 + labelsYOffset, "APP Arb"⟩,
    ⟨400, 120 + labelsYOffset, "Torque Rq Avg"⟩, ⟨650, 120 + labelsYOffset, "Rotor T"⟩],
   [⟨30, 240 + labelsYOffset, "Inv T Max"⟩, ⟨220, 240 + labelsYOffset, "Steer Angle"⟩,
    ⟨410, 240 + labelsYOffset, "F Brake Bias"⟩, ⟨650, 240 + labelsYOffset, "Logging"⟩,
    ⟨20, 360 + labelsYOffset, "Min Cell V"⟩, ⟨220, 360 + labelsYOffset, "Peak Cell T"⟩,
    ⟨405, 360 + labelsYOffset, "F Brake Press"⟩, ⟨620, 360 + labelsYOffset, "Power Limit"⟩])

def staticDebugValues : List ValueSpec :=
  [.float 50 (0 + valuesYOffset), .manyDigits 215 (0 + valuesYOffset),
   .manyDigits 415 (0 + valuesYOffset), .float 650 (0 + valuesYOffset),
   .whole 40 (120 + valuesYOffset), .text 80 (120 + valuesYOffset) "RR",
   .float 250 (120 + valuesYOffset), .float 450 (120 + valuesYOffset),
   .whole 690 (120 + valuesYOffset), .whole 40 (240 + valuesYOffset),
   .text 80 (240 + valuesYOffset) "RR", .float 250 (240 + valuesYOffset),
   .float 450 (240 + valuesYOffset), .whole 690 (240 + valuesYOffset),
   .whole 30 (360 + valuesYOffset), .text 50 (360 + valuesYOffset) ",i=",
   .whole 120 (360 + valuesYOffset), .whole 230 (360 + valuesYOffset),
   .text 250 (360 + valuesYOffset) ",i=", .whole 320 (360 + valuesYOffset),
   .float 450 (360 + valuesYOffset), .whole 690 (360 + valuesYOffset)]

def displayRenderStaticDebugScreen : Firmware Unit := do
  displayResetState
  displayEnableDrawMode
  displayDrawBorders debugBordersNoRtd
  displayEnableTextModeAndFont .comicSans
  writeTexts staticDebugLabels.1
  vTaskDelay .display watchdogDelay
  writeTexts staticDebugLabels.2
  displayEnableTextModeAndFont .internal
  writeValues staticDebugValues

/-- The labels of `Display_PrerenderDebugRTDLabels` before and after its second delay. -/
def debugRtdLabels : List TextSpec × List TextSpec :=
  ([⟨20, 0 + labelsYOffset, "LV Voltage"⟩, ⟨305, 0 + labelsYOffset, "Last Lap Time"⟩,
    ⟨610, 0 + labelsYOffset, "Pack Voltage"⟩, ⟨10, 120 + labelsYOffset, "Motor T Max"⟩,
    ⟨355, 120 + labelsYOffset, "Pack %"⟩, ⟨650, 120 + labelsYOffset, "Rotor T"⟩,
    ⟨30, 240 + labelsYOffset, "Inv T Max"⟩],
   [⟨380, 240 + labelsYOffset, "Lap"⟩, ⟨610, 240 + labelsYOffset, "Torque Limit"⟩,
    ⟨20, 360 + labelsYOffset, "Min Cell V"⟩, ⟨220, 360 + labelsYOffset, "Peak Cell T"⟩,
    ⟨405, 360 + labelsYOffset, "F Brake Press"⟩, ⟨640, 360 + labelsYOffset, "TC"⟩,
    ⟨740, 360 + labelsYOffset, "TV"⟩])

def debugRtdValues : List ValueSpec :=
  [.float 50 (0 + valuesYOffset), .float 355 (0 + valuesYOffset),
   .float 655 (0 + valuesYOffset), .whole 50 (120 + valuesYOffset),
   .text 90 (120 + valuesYOffset) "RR", .float 355 (120 + valuesYOffset),
   .whole 690 (120 + valuesYOffset), .whole 50 (240 + valuesYOffset),
   .text 90 (240 + valuesYOffset) "RR", .whole 390 (240 + valuesYOffset),
   .whole 690 (240 + valuesYOffset), .whole 20 (360 + valuesYOffset),
   .text 40 (360 + valuesYOffset) ",i=", .whole 120 (360 + valuesYOffset),
   .whole 220 (360 + valuesYOffset), .text 240 (360 + valuesYOffset) ",i=",
   .whole 320 (360 + valuesYOffset), .float 455 (360 + valuesYOffset),
   .whole 640 (360 + valuesYOffset), .whole 740 (360 + valuesYOffset)]

def displayPrerenderDebugRtdLabels : Firmware Unit := do
  displayResetState
  displayEnableDrawMode
  displayDrawRect 200 170 600 240 colorRed true
  displayDrawRect 0 415 800 480 colorYellow true
  vTaskDelay .display defaultDelay
  displayEnableTextModeAndFont .internal
  displayInternalFontSize fontSizeDouble
  ra8875WriteRegister 0x63 0x00
  ra8875WriteRegister 0x64 0x00
  ra8875WriteRegister 0x65 0x03
  displayWriteTextAt 40 430 (cstring "<<< PLEASE WAIT >>>     Loading Cumic Sans... ")
  displayEnableTextModeAndFont .comicSans
  writeTexts debugRtdLabels.1
  vTaskDelay .display watchdogDelay
  writeTexts debugRtdLabels.2
  ra8875BteMove 0 0 layerDisplay 0 0 layerOffscreen 800 400 0 0xC

def displayUsePrerenderedDebugRtd : Firmware Unit := do
  displayResetState
  ra8875BteMove 0 0 layerOffscreen 0 0 layerDisplay 800 400 0 0xC
  displayEnableDrawMode
  displayDrawBorders debugBordersRtd
  displayEnableTextModeAndFont .internal
  writeValues debugRtdValues

def displayWarn : Firmware Unit := do
  displayResetState
  displayEnableDrawMode
  displayDrawRect 0 0 800 480 colorRed true
  vTaskDelay .display defaultDelay
  displayEnableTextModeAndFont .internal
  displayInternalFontSize fontSizeQuadruple
  displayForegroundWhite
  displayWriteTextAt 290 200 (cstring "WARNING")

/-- The `switch` of `Display_SwitchScreen`; `none` is its `default`. -/
def render : Screen → Option (Firmware Unit)
  | .mainNoLaps => some (displayRenderMainScreen false)
  | .mainLaps => some (displayRenderMainScreen true)
  | .debugNoRtd => some displayRenderStaticDebugScreen
  | .debugRtd => some displayUsePrerenderedDebugRtd
  | .warn => some displayWarn
  | .other _ _ => none

def displaySwitchScreen (nextScreen : Screen) : Firmware Unit := do
  called (.switchScreen nextScreen)
  if (← loadCurrentScreen) = nextScreen then pure ()
  else match render nextScreen with
    | none => pure ()
    | some draw => do
      draw
      setCurrentScreen nextScreen

def lcdTiming : Timing where
  hsyncNondisp := 26
  hsyncStart := 32
  hsyncPw := 96
  hsyncFinetune := 0
  vsyncNondisp := 32
  vsyncStart := 23
  vsyncPw := 2
  width := 800
  height := 480
  voffset := 0

/-- `Display_Init` after its call of `RA8875_init`. -/
def displaySetup : Firmware Unit := do
  ra8875Configure lcdTiming
  ra8875Clear
  ra8875SetBacklightBrightness 0xFF
  displaySetTextCursor 0 0
  displayPrecomputeGlyphs
  displayPrerenderDebugRtdLabels
  displaySwitchScreen .debugNoRtd

/-- `Display_Init`, which ignores the result of `RA8875_init`; `false` says that
    the panel has not answered yet and the call has not returned. -/
def displayInit (tries : ℕ) : Firmware Bool := do
  match ← ra8875Init tries with
  | none => pure false
  | some _ =>
    displaySetup
    pure true

end SteeringDisplay.DisplayScreens
