import SteeringDisplay.Footprints
import SteeringDisplay.PanelRegisters

set_option autoImplicit false

/-!
# A panel that executes every command at once

The controller as a register file with two layers of 800 by 480 pixels. How a
character looks, and what the C library prints where C leaves it open, are
parameters.
-/
namespace SteeringDisplay.PanelMachine
open ProgramTree FirmwareInterface PanelDriver DisplayScreens Footprints PanelRegisters

def black : Pixel := (0, 0, 0)

abbrev PixelLayer := Fin 800 → Fin 480 → Pixel

abbrev shownLayer : Fin 2 := 0
abbrev hiddenLayer : Fin 2 := 1

structure TextInput where
  cursorX : ℕ
  cursorY : ℕ
  mode : UInt8
  fontSelect : UInt8
  fontSize : UInt8
  writeLayer : UInt8
  color : Pixel

/-- What a character does to the layer it is written to, and where the cursor is then. -/
structure TextEngine where
  put : UInt8 → TextInput → PixelLayer → PixelLayer
  moved : UInt8 → TextInput → UInt16 × UInt16

structure PanelState where
  statics : Statics
  regs : UInt8 → UInt8
  /-- The register that a data byte goes to. -/
  latch : UInt8
  /-- Bit 1 of the register 0xF1. -/
  completed : Bool
  layers : Fin 2 → PixelLayer

namespace PanelState

/-- A row of a block transfer, whose upper register also holds the layer in bit 7. -/
def row (s : PanelState) (low : UInt8) : ℕ :=
  (s.regs low).toNat + 256 * (s.regs (low + 1) &&& 0x7F).toNat

def layerBit (s : PanelState) (reg : UInt8) : Fin 2 := if s.regs reg &&& 0x80 = 0 then 0 else 1

def writeLayer (s : PanelState) : Fin 2 := if s.regs 0x41 &&& 1 = 0 then 0 else 1

def paint (s : PanelState) (f : PixelLayer → PixelLayer) : PanelState :=
  { s with layers := Function.update s.layers s.writeLayer (f (s.layers s.writeLayer)) }

end PanelState

/-- A rectangle with inclusive corners, or its outline, clipped to the panel. -/
def InRect (x1 y1 x2 y2 : ℕ) (filled : Bool) (x : Fin 800) (y : Fin 480) : Prop :=
  (x1 ≤ x ∧ x ≤ x2 ∧ y1 ≤ y ∧ y ≤ y2) ∧
    (filled = true ∨ x = x1 ∨ x = x2 ∨ y = y1 ∨ y = y2)

instance (x1 y1 x2 y2 : ℕ) (filled : Bool) (x : Fin 800) (y : Fin 480) :
    Decidable (InRect x1 y1 x2 y2 filled x y) :=
  inferInstanceAs (Decidable (_ ∧ _))

def drawRectOn (x1 y1 x2 y2 : ℕ) (filled : Bool) (color : Pixel) (l : PixelLayer) : PixelLayer :=
  fun x y => if InRect x1 y1 x2 y2 filled x y then color else l x y

def copied (source target : PixelLayer) (sx sy dx dy w h : ℕ) : PixelLayer := fun x y =>
  if dx ≤ x ∧ x < dx + w ∧ dy ≤ y ∧ y < dy + h then
    if hin : x - dx + sx < 800 ∧ y - dy + sy < 480 then
      source ⟨x - dx + sx, hin.1⟩ ⟨y - dy + sy, hin.2⟩
    else target x y
  else target x y

namespace PanelState

def rectangle (s : PanelState) (value : UInt8) : PanelState :=
  let r := rectangleOf s.regs value
  s.paint (drawRectOn r.x1 r.y1 r.x2 r.y2 r.filled r.color)

def transfer (s : PanelState) : PanelState :=
  { s with
    layers := Function.update s.layers (s.layerBit 0x5B)
      (copied (s.layers (s.layerBit 0x57)) (s.layers (s.layerBit 0x5B)) (reg16 s.regs 0x54) (s.row 0x56)
        (reg16 s.regs 0x58) (s.row 0x5A) (reg16 s.regs 0x5C) (reg16 s.regs 0x5E))
    completed := true }

def command (s : PanelState) (reg value : UInt8) : PanelState :=
  if reg = 0xF1 then { s with completed := s.completed && value &&& intBteCompleted = 0 }
  else if value &&& 0x80 = 0 then s
  else if reg = 0x8E then s.paint fun _ _ _ => black
  else if reg = 0x90 then s.rectangle value
  else if reg = 0x50 then s.transfer
  else s

def store (s : PanelState) (reg value : UInt8) : PanelState :=
  { s with regs := Function.update s.regs reg value }

def textInput (s : PanelState) : TextInput where
  cursorX := reg16 s.regs 0x2A
  cursorY := reg16 s.regs 0x2C
  mode := s.regs 0x40
  fontSelect := s.regs 0x21
  fontSize := s.regs 0x22
  writeLayer := s.regs 0x41
  color := colorOf s.regs

def setCursor (s : PanelState) (cursor : UInt16 × UInt16) : PanelState :=
  (((s.store 0x2A cursor.1.toUInt8).store 0x2B (highByte cursor.1)).store 0x2C
    cursor.2.toUInt8).store 0x2D (highByte cursor.2)

section Device
variable (engine : TextEngine) (undefinedText : Format → CFloat → List UInt8)

def character (s : PanelState) (ch : UInt8) : PanelState :=
  (s.paint (engine.put ch s.textInput)).setCursor (engine.moved ch s.textInput)

/-- A data byte: the memory port 0x02 takes it as a character. -/
def data (s : PanelState) (value : UInt8) : PanelState :=
  if s.latch = 0x02 then s.character engine value
  else (s.store s.latch value).command s.latch value

def answer : (o : Op) → PanelState → o.Res
  | .readRegister reg, s =>
    if reg = 0xF1 then (if s.completed then (0x02 : UInt8) else (0x00 : UInt8))
    else if reg = 0x00 then (0x75 : UInt8)
    else s.regs reg
  | .undefinedText format value, _ => undefinedText format value
  | o, s => o.quietAnswer s.statics

def step (s : PanelState) : Op → PanelState
  | .writeCommand reg | .readRegister reg => { s with latch := reg }
  | .writeData value => s.data engine value
  | .writeRegister reg value => { s with latch := reg }.data engine value
  | o => { s with statics := s.statics.store o }

end Device

/-- The panel after a reset; its display memory holds anything. -/
def powerUp (layers : Fin 2 → PixelLayer) : PanelState where
  statics := .initial
  regs := fun _ => 0
  latch := 0
  completed := false
  layers := layers

end PanelState

def panel (engine : TextEngine) (undefinedText : Format → CFloat → List UInt8) :
    Handler firmware PanelState := fun o s =>
  (PanelState.answer undefinedText o s, s.step engine o)

end SteeringDisplay.PanelMachine
