import SteeringDisplay.FirmwareInterface

set_option autoImplicit false

/-!
# What the panel reads off its registers

Coordinates take two registers, the low byte first. A colour takes three.
-/
namespace SteeringDisplay.PanelRegisters
open FirmwareInterface

def reg16 (regs : UInt8 → UInt8) (low : UInt8) : ℕ :=
  (regs low).toNat + 256 * (regs (low + 1)).toNat

theorem reg16_eq {regs : UInt8 → UInt8} {low : UInt8} {value : UInt16}
    (hlow : regs low = value.toUInt8) (hhigh : regs (low + 1) = highByte value) :
    reg16 regs low = value.toNat := by
  unfold reg16
  rw [hlow, hhigh, bytes_toNat]

/-- Red, green and blue, as the registers hold them. -/
abbrev Pixel := UInt8 × UInt8 × UInt8

def colorOf (regs : UInt8 → UInt8) : Pixel := (regs 0x63 &&& 7, regs 0x64 &&& 7, regs 0x65 &&& 3)

/-- The colour of a byte, as `RA8875_draw_rect` takes it apart. -/
def pixelOf (color : UInt8) : Pixel :=
  (color &&& 0b111, (color >>> 3) &&& 0b111, (color >>> 6) &&& 0b11)

/-- The fields of a colour are cut to their width once more by the panel. -/
theorem pixelOf_masked (color : UInt8) :
    ((color &&& 0b111) &&& 7, ((color >>> 3) &&& 0b111) &&& 7, ((color >>> 6) &&& 0b11) &&& 3) =
      pixelOf color := by
  unfold pixelOf
  rw [UInt8.and_assoc, UInt8.and_assoc, UInt8.and_assoc]
  rfl

structure Rectangle where
  x1 : ℕ
  y1 : ℕ
  x2 : ℕ
  y2 : ℕ
  color : Pixel
  filled : Bool
  deriving DecidableEq

def Rectangle.Covers (r : Rectangle) (p : ℕ × ℕ) : Prop :=
  r.x1 ≤ p.1 ∧ p.1 ≤ r.x2 ∧ r.y1 ≤ p.2 ∧ p.2 ≤ r.y2

def Rectangle.Disjoint (r r' : Rectangle) : Prop := ∀ p, ¬ (r.Covers p ∧ r'.Covers p)

/-- The rectangle that a write to the drawing control register starts. -/
def rectangleOf (regs : UInt8 → UInt8) (value : UInt8) : Rectangle where
  x1 := reg16 regs 0x91
  y1 := reg16 regs 0x93
  x2 := reg16 regs 0x95
  y2 := reg16 regs 0x97
  color := colorOf regs
  filled := value &&& 0x20 ≠ 0

end SteeringDisplay.PanelRegisters
