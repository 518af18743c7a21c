import SteeringDisplay.FirmwareInterface

set_option autoImplicit false

/-!
# The RA8875 driver: io.c, core.c, drawing.c, bte.c, helper.c

The context argument is left out: there is one panel.
-/
namespace SteeringDisplay.PanelDriver
open ProgramTree FirmwareInterface

def spiBusInitialize : Firmware Bool := ask .spiBusInitialize
def spiBusAddDevice : Firmware Bool := ask .spiBusAddDevice
def ra8875WriteCommand (reg : UInt8) : Firmware Unit := ask (.writeCommand reg)
def ra8875WriteData (value : UInt8) : Firmware Unit := ask (.writeData value)
def ra8875WriteRegister (reg value : UInt8) : Firmware Unit := ask (.writeRegister reg value)
def ra8875ReadRegister (reg : UInt8) : Firmware UInt8 := ask (.readRegister reg)
def vTaskDelay (file : SourceFile) (ms : ℕ) : Firmware Unit := ask (.vTaskDelay file ms)

/-! ## core.c -/

/-- `while (RA8875_read_register(ctx, 0) != 0x75)`: the loop has no bound in the
    source; `false` says that `tries` reads did not bring the answer 0x75. -/
def awaitPanel : ℕ → Firmware Bool
  | 0 => pure false
  | tries + 1 => do
    let id ← ra8875ReadRegister 0
    if id = 0x75 then pure true
    else do
      vTaskDelay .core 100
      awaitPanel tries

/-- `some` of the C result (1 as `true`), `none` while the panel has not answered. -/
def ra8875Init (tries : ℕ) : Firmware (Option Bool) := do
  if ← spiBusInitialize then
    if ← spiBusAddDevice then
      if ← awaitPanel tries then
        ra8875WriteRegister 0xF0 0b11
        ra8875WriteRegister 0xF1 0xFF
        pure (some true)
      else pure none
    else pure (some false)
  else pure (some false)

structure Timing where
  hsyncNondisp : UInt8
  hsyncStart : UInt8
  hsyncPw : UInt8
  hsyncFinetune : UInt8
  vsyncNondisp : UInt16
  vsyncStart : UInt16
  vsyncPw : UInt8
  width : UInt16
  height : UInt16
  voffset : UInt16

def Timing.registers (t : Timing) : List (UInt8 × UInt8) :=
  let bottom : UInt16 := t.height - 1 + t.voffset
  let right : UInt16 := t.width - 1
  [(0x01, 0x00 ||| 0x80), (0xC7, 1), (0x8A, 0x80 ||| (0x0A &&& 0xF)),
   (0x88, 0x00 + 23), (0x89, 0x00), (0x10, 0x00), (0x04, 0x80 ||| 0x01), (0x20, (1 : UInt8) <<< 7),
   (0x14, lowByte ((t.width.toNat : ℤ).tdiv 8 - 1)),
   (0x15, 0x00 + t.hsyncFinetune),
   (0x16, lowByte (((t.hsyncNondisp.toNat : ℤ) - t.hsyncFinetune.toNat - 2).tdiv 8)),
   (0x17, lowByte ((t.hsyncStart.toNat : ℤ).tdiv 8 - 1)),
   (0x18, lowByte ((t.hsyncPw.toNat : ℤ).tdiv 8 - 1)),
   (0x19, bottom.toUInt8), (0x1A, highByte bottom),
   (0x1B, (t.vsyncNondisp - 1).toUInt8), (0x1C, highByte t.vsyncNondisp),
   (0x1D, (t.vsyncStart - 1).toUInt8), (0x1E, highByte t.vsyncStart),
   (0x1F, 0x00 + t.vsyncPw - 1),
   (0x30, 0), (0x31, 0), (0x34, right.toUInt8), (0x35, highByte right),
   (0x32, t.voffset.toUInt8), (0x33, t.voffset.toUInt8),
   (0x36, bottom.toUInt8), (0x37, highByte bottom)]

def ra8875Configure (t : Timing) : Firmware Unit :=
  t.registers.forM (fun w => ra8875WriteRegister w.1 w.2)

def ra8875Clear : Firmware Unit := ra8875WriteRegister 0x8E (0x80 ||| 0x00)

def ra8875SetBacklightBrightness (brightness : UInt8) : Firmware Unit :=
  ra8875WriteRegister 0x8B brightness

/-! ## drawing.c -/

def setDoubleRegister (reg : UInt8) (value : UInt16) : Firmware Unit := do
  ra8875WriteRegister reg value.toUInt8
  ra8875WriteRegister (reg + 1) (highByte value)

def setCorners (x1 y1 x2 y2 : UInt16) : Firmware Unit := do
  setDoubleRegister 0x91 x1
  setDoubleRegister 0x93 y1
  setDoubleRegister 0x95 x2
  setDoubleRegister 0x97 y2

def ra8875DrawRect (x1 y1 x2 y2 : UInt16) (color : UInt8) (filled : Bool) : Firmware Unit := do
  setCorners x1 y1 x2 y2
  ra8875WriteRegister 0x63 (color &&& 0b111)
  ra8875WriteRegister 0x64 ((color >>> 3) &&& 0b111)
  ra8875WriteRegister 0x65 ((color >>> 6) &&& 0b11)
  ra8875WriteRegister 0x90 (if filled then 0xB0 else 0x90)

def ra8875DrawRectFast (x1 y1 x2 y2 : UInt16) : Firmware Unit := do
  setCorners x1 y1 x2 y2
  ra8875WriteRegister 0x90 0xB0

/-! ## bte.c -/

def setBteSrc (x y : UInt16) (layer : UInt8) : Firmware Unit := do
  ra8875WriteRegister 0x54 x.toUInt8
  ra8875WriteRegister 0x55 (highByte x)
  ra8875WriteRegister 0x56 y.toUInt8
  ra8875WriteRegister 0x57 (highByte y ||| layer <<< 7)

def setBteDst (x y : UInt16) (layer : UInt8) : Firmware Unit := do
  ra8875WriteRegister 0x58 x.toUInt8
  ra8875WriteRegister 0x59 (highByte x)
  ra8875WriteRegister 0x5A y.toUInt8
  ra8875WriteRegister 0x5B (highByte y ||| layer <<< 7)

def setBteSize (width height : UInt16) : Firmware Unit := do
  ra8875WriteRegister 0x5C width.toUInt8
  ra8875WriteRegister 0x5D (highByte width)
  ra8875WriteRegister 0x5E height.toUInt8
  ra8875WriteRegister 0x5F (highByte height)

def setBteOpcode (opcode rop : UInt8) : Firmware Unit :=
  ra8875WriteRegister 0x51 (opcode ||| rop <<< 4)

def execBte : Firmware Unit := ra8875WriteRegister 0x50 ((1 : UInt8) <<< 7)

/-- The loop of `wait_for_interrupt_polling`, with the polls that are left. -/
def pollInterrupt (mask : UInt8) : ℕ → Firmware Unit
  | 0 => pure ()
  | polls + 1 => do
    let status ← ra8875ReadRegister 0xF1
    if status &&& mask ≠ 0 then ra8875WriteRegister 0xF1 status
    else do
      vTaskDelay .bte 1
      pollInterrupt mask polls

def maxPolls : ℕ := 1000

def waitForInterruptPolling (mask : UInt8) : Firmware Unit := pollInterrupt mask maxPolls

def intBteCompleted : UInt8 := (1 : UInt8) <<< 1

def ra8875BteMove (srcX srcY : UInt16) (srcLayer : UInt8) (dstX dstY : UInt16)
    (dstLayer : UInt8) (width height : UInt16) (negative rop : UInt8) : Firmware Unit := do
  setBteSrc srcX srcY srcLayer
  setBteDst dstX dstY dstLayer
  setBteSize width height
  setBteOpcode (if negative ≠ 0 then 0x3 else 0x2) rop
  execBte
  waitForInterruptPolling intBteCompleted

/-! ## helper.c -/

def ra8875SetWritingLayer (layer : UInt8) : Firmware Unit :=
  ra8875WriteRegister 0x41 (layer &&& 1)

end SteeringDisplay.PanelDriver
