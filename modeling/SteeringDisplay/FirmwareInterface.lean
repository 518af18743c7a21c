import SteeringDisplay.ProgramTree
import Mathlib.Data.Rat.Floor
import Mathlib.Data.UInt
import Mathlib.Logic.Function.Basic

set_option autoImplicit false

/-!
# What the firmware asks of the outside

One constructor for each elementary effect of the C code: a driver call that
becomes one SPI transaction, a FreeRTOS or GPIO call, a read or an assignment of
a variable with static storage. `call` marks the entry of a routine and has no
effect of its own.
-/
namespace SteeringDisplay.FirmwareInterface
open ProgramTree

-- a question about a list of registers is decided over the list, not over all 256 bytes
instance (priority := 2000) decidableForallMem {α : Type} (p : α → Prop) [DecidablePred p]
    (l : List α) : Decidable (∀ a ∈ l, p a) :=
  List.decidableBAll p l

/-- `Screen_t` of display.h: its enumerators, and the other values its integer type holds. -/
inductive Screen where
  | mainNoLaps
  | mainLaps
  | debugRtd
  | debugNoRtd
  | warn
  | other (value : UInt32) (outside : 4 < value)
  deriving DecidableEq

inductive DisplayFont where
  | internal
  | comicSans
  deriving DecidableEq

/-- `Glyph8x16` of comicsans_font.h: one byte a row, the leftmost pixel in bit 7. -/
structure Glyph8x16 where
  bitmap : Vector UInt8 16

structure GlyphBuffer where
  pixels : ℕ → ℕ → UInt8

/-- A value of the C type `float`. -/
inductive CFloat where
  | finite (q : ℚ)
  | negZero
  | inf (negative : Bool)
  | nan

inductive Format where
  | d
  | f (precision : ℕ)
  deriving DecidableEq

inductive Button where
  | mode
  | submode
  deriving DecidableEq

inductive SourceFile where
  | core
  | bte
  | display
  | main
  deriving DecidableEq

inductive Routine where
  | toggleWhetherDrive
  | toggleDuringDrive
  | switchScreen (next : Screen)
  deriving DecidableEq

inductive Op where
  | spiBusInitialize
  | spiBusAddDevice
  | writeCommand (reg : UInt8)
  | writeData (value : UInt8)
  | writeRegister (reg value : UInt8)
  | readRegister (reg : UInt8)
  /-- `vTaskDelay(pdMS_TO_TICKS(ms))`, called in the named file; core.c divides by
      `portTICK_PERIOD_MS` instead. -/
  | vTaskDelay (file : SourceFile) (ms : ℕ)
  /-- What a conversion prints that is handed an argument of another type: C leaves it open. -/
  | undefinedText (format : Format) (value : CFloat)
  | currentFont
  | inGraphicMode
  | currentScreen
  | glyphCache (ch : UInt8)
  | setCurrentFont (font : DisplayFont)
  | setInGraphicMode (b : Bool)
  | setCurrentScreen (screen : Screen)
  | setGlyphCache (ch : UInt8) (buf : GlyphBuffer)
  | gpioIsrHandlerAdd (b : Button)
  /-- A read of `toggle_mode_pressed` or `toggle_submode_pressed`. -/
  | togglePressed (b : Button)
  /-- The assignment of `false` to that flag. -/
  | clearPressed (b : Button)
  | call (r : Routine)

def Op.Res : Op → Type
  | .spiBusInitialize | .spiBusAddDevice | .inGraphicMode | .togglePressed _ => Bool
  | .readRegister _ => UInt8
  | .undefinedText _ _ => List UInt8
  | .currentFont => DisplayFont
  | .currentScreen => Screen
  | .glyphCache _ => GlyphBuffer
  | _ => Unit

abbrev firmware : Signature := ⟨Op, Op.Res⟩

abbrev Firmware := Prog firmware

abbrev ask (o : Op) : Firmware o.Res := perform (S := firmware) o

abbrev loadCurrentFont : Firmware DisplayFont := ask .currentFont
abbrev loadInGraphicMode : Firmware Bool := ask .inGraphicMode
abbrev loadCurrentScreen : Firmware Screen := ask .currentScreen
abbrev loadGlyphCache (ch : UInt8) : Firmware GlyphBuffer := ask (.glyphCache ch)
abbrev setCurrentFont (font : DisplayFont) : Firmware Unit := ask (.setCurrentFont font)
abbrev setInGraphicMode (b : Bool) : Firmware Unit := ask (.setInGraphicMode b)
abbrev setCurrentScreen (screen : Screen) : Firmware Unit := ask (.setCurrentScreen screen)
abbrev setGlyphCache (ch : UInt8) (buf : GlyphBuffer) : Firmware Unit := ask (.setGlyphCache ch buf)
abbrev called (r : Routine) : Firmware Unit := ask (.call r)

structure Statics where
  currentFont : DisplayFont
  inGraphicMode : Bool
  currentScreen : Screen
  glyphCache : UInt8 → GlyphBuffer

/-- Static storage as the program finds it: every integer is zero, so
    `CURRENT_SCREEN` starts as the enumerator 0. -/
def Statics.initial : Statics where
  currentFont := .internal
  inGraphicMode := false
  currentScreen := .mainNoLaps
  glyphCache := fun _ => ⟨fun _ _ => 0⟩

def Statics.store (s : Statics) : Op → Statics
  | .setCurrentFont font => { s with currentFont := font }
  | .setInGraphicMode b => { s with inGraphicMode := b }
  | .setCurrentScreen screen => { s with currentScreen := screen }
  | .setGlyphCache ch buf => { s with glyphCache := Function.update s.glyphCache ch buf }
  | _ => s

/-- The answers of a panel that is there at once and reads as zero otherwise. -/
def Op.quietAnswer : (o : Op) → Statics → o.Res
  | .currentFont, s => s.currentFont
  | .inGraphicMode, s => s.inGraphicMode
  | .currentScreen, s => s.currentScreen
  | .glyphCache ch, s => s.glyphCache ch
  | .spiBusInitialize, _ | .spiBusAddDevice, _ => true
  | .togglePressed _, _ => false
  | .readRegister reg, _ => if reg = 0 then (0x75 : UInt8) else (0 : UInt8)
  | .undefinedText _ _, _ => ([] : List UInt8)
  | .writeCommand _, _ | .writeData _, _ | .writeRegister _ _, _ | .vTaskDelay _ _, _
  | .setCurrentFont _, _ | .setInGraphicMode _, _ | .setCurrentScreen _, _
  | .setGlyphCache _ _, _ | .gpioIsrHandlerAdd _, _ | .clearPressed _, _ | .call _, _ => ()

def Op.transacts : Op → Bool
  | .writeCommand _ | .writeData _ | .writeRegister _ _ | .readRegister _ => true
  | _ => false

/-- The low byte of an `int`, as a conversion to `uint8_t` keeps it. -/
def lowByte (n : ℤ) : UInt8 := UInt8.ofInt n

/-- `value >> 8` of a `uint16_t`, converted to `uint8_t`. -/
def highByte (v : UInt16) : UInt8 := (v >>> 8).toUInt8

theorem bytes_toNat (value : UInt16) :
    value.toUInt8.toNat + 256 * (highByte value).toNat = value.toNat := by
  have hlt : value.toNat < 65536 := value.toNat_lt
  have hlow : value.toUInt8.toNat = value.toNat % 256 := by simp
  have hhigh : (highByte value).toNat = value.toNat / 256 := by
    unfold highByte
    rw [UInt16.toNat_toUInt8, UInt16.toNat_shiftRight]
    simp only [UInt16.toNat_ofNat, Nat.shiftRight_eq_div_pow, Nat.reducePow, Nat.reduceMod]
    omega
  omega

/-- The bytes of a C string literal, without the terminating NUL. -/
def cstring (s : String) : List UInt8 := s.toList.map (fun c => c.toNat.toUInt8)

end SteeringDisplay.FirmwareInterface
