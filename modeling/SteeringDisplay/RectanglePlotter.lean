import SteeringDisplay.WriteLayer
import SteeringDisplay.PanelRegisters
import SteeringDisplay.MaximalRuns

set_option autoImplicit false

/-!
# The rectangles a program starts

A rectangle is read off the registers at the moment the program starts it. Its
corners are inclusive.
-/
namespace SteeringDisplay.RectanglePlotter
open ProgramTree FirmwareInterface PanelDriver ComicSansFont DisplayScreens
open Footprints ModeRegister WriteLayer MaximalRuns PanelRegisters

def startedBy (m : Registers) (reg value : UInt8) : List Rectangle :=
  if reg = 0x90 ∧ value &&& 0x80 ≠ 0 then [rectangleOf m.regs value] else []

def started (m : Registers) : Op → List Rectangle
  | .writeRegister reg value => startedBy m reg value
  | .writeData value => startedBy m m.latch value
  | _ => []

structure Plotter where
  registers : Registers
  drawn : List Rectangle

def Plotter.step (m : Plotter) (o : Op) : Plotter :=
  ⟨m.registers.step o, m.drawn ++ started m.registers o⟩

def rectangles (m : Registers) (ops : List Op) : List Rectangle :=
  (ops.foldl Plotter.step ⟨m, []⟩).drawn

def white : Pixel := (7, 7, 3)

def White (m : Registers) : Prop := colorOf m.regs = white

section Routines
variable {oracle : ℕ → (o : Op) → o.Res} {α β : Type} {P Q R : Registers → Prop}
variable {rs rs' : List Rectangle}

/-- From registers with `P` the program starts the rectangles `rs`, leaves registers with
    `Q`, and changes no variable. -/
def Draws (oracle : ℕ → (o : Op) → o.Res) (P : Registers → Prop) (p : Firmware α)
    (rs : List Rectangle) (Q : Registers → Prop) : Prop :=
  ∀ s : Controller × Plotter, P s.2.registers →
    let t := (run (monitored (controller oracle) Plotter.step) p s).2
    t.2.drawn = s.2.drawn ++ rs ∧ Q t.2.registers ∧ t.1.statics = s.1.statics

theorem rectangles_trace {p : Firmware α} {s : Controller} {m : Registers}
    (hp : (run (monitored (controller oracle) Plotter.step) p (s, ⟨m, []⟩)).2.2.drawn = rs) :
    rectangles m (trace (controller oracle) p s) = rs := by
  rw [run_monitored] at hp
  exact hp

theorem Draws.pure (a : α) : Draws oracle P (pure a : Firmware α) [] P :=
  fun _ hs => ⟨(List.append_nil _).symm, hs, rfl⟩

theorem Draws.seq {p : Firmware α} {q : Firmware β} (hp : Draws oracle P p rs Q)
    (hq : Draws oracle Q q rs' R) : Draws oracle P (p >>= fun _ => q) (rs ++ rs') R := by
  intro s hs
  obtain ⟨hdrawn, hQ, hstatics⟩ := hp s hs
  obtain ⟨hdrawn', hR, hstatics'⟩ := hq _ hQ
  rw [run_bind]
  refine ⟨?_, hR, hstatics'.trans hstatics⟩
  rw [hdrawn', hdrawn, List.append_assoc]

theorem Draws.conseq {p : Firmware α} {P' Q' : Registers → Prop} (hp : Draws oracle P p rs Q)
    (hP : ∀ m, P' m → P m) (hQ : ∀ m, Q m → Q' m) : Draws oracle P' p rs Q' :=
  fun s hs => ⟨(hp s (hP _ hs)).1, hQ _ (hp s (hP _ hs)).2.1, (hp s (hP _ hs)).2.2⟩

theorem Draws.of_registers {p : Firmware α} (hp : ∀ m, P m → Draws oracle (· = m) p rs Q) :
    Draws oracle P p rs Q :=
  fun s hs => hp s.2.registers hs s rfl

theorem Draws.forM {ι : Type} (xs : List ι) (f : ι → Firmware PUnit) (g : ι → List Rectangle)
    (hf : ∀ x ∈ xs, Draws oracle P (f x) (g x) P) :
    Draws oracle P (xs.forM f) (xs.flatMap g) P := by
  induction xs with
  | nil => exact Draws.pure _
  | cons x xs ih =>
    rw [List.flatMap_cons]
    exact (hf x (List.mem_cons_self ..)).seq (ih fun y hy => hf y (List.mem_cons_of_mem _ hy))

theorem draws_write (reg : UInt8) (hreg : reg ≠ 0x90) (value : UInt8) (m : Registers) :
    Draws oracle (· = m) (ra8875WriteRegister reg value) []
      (· = m.step (.writeRegister reg value)) := by
  rintro s rfl
  have hstarted : started s.2.registers (.writeRegister reg value) = [] := if_neg fun h => hreg h.1
  exact ⟨congrArg (s.2.drawn ++ ·) hstarted, rfl, rfl⟩

theorem draws_start (value : UInt8) (hstart : value &&& 0x80 ≠ 0) (m : Registers) :
    Draws oracle (· = m) (ra8875WriteRegister 0x90 value) [rectangleOf m.regs value]
      (· = m.step (.writeRegister 0x90 value)) := by
  rintro s rfl
  have hstarted : started s.2.registers (.writeRegister 0x90 value) =
      [rectangleOf s.2.registers.regs value] := if_pos ⟨rfl, hstart⟩
  exact ⟨congrArg (s.2.drawn ++ ·) hstarted, rfl, rfl⟩

def Registers.writes (m : Registers) (ws : List (UInt8 × UInt8)) : Registers :=
  ws.foldl (fun m w => m.step (.writeRegister w.1 w.2)) m

def withCorners (m : Registers) (x1 y1 x2 y2 : UInt16) : Registers :=
  Registers.writes m
    [(0x91, x1.toUInt8), (0x91 + 1, highByte x1), (0x93, y1.toUInt8), (0x93 + 1, highByte y1),
     (0x95, x2.toUInt8), (0x95 + 1, highByte x2), (0x97, y2.toUInt8), (0x97 + 1, highByte y2)]

def withColor (m : Registers) (red green blue : UInt8) : Registers :=
  Registers.writes m [(0x63, red), (0x64, green), (0x65, blue)]

theorem colorOf_withColor (m : Registers) (red green blue : UInt8) :
    colorOf (withColor m red green blue).regs = (red &&& 7, green &&& 7, blue &&& 3) := rfl

theorem draws_setCorners (m : Registers) (x1 y1 x2 y2 : UInt16) :
    Draws oracle (· = m) (setCorners x1 y1 x2 y2) [] (· = withCorners m x1 y1 x2 y2) := by
  have hdouble : ∀ low : UInt8, low ≠ 0x90 → low + 1 ≠ 0x90 → ∀ (value : UInt16) (m : Registers),
      Draws oracle (· = m) (setDoubleRegister low value) []
        (· = Registers.writes m [(low, value.toUInt8), (low + 1, highByte value)]) :=
    fun low hlow hhigh value m => (draws_write low hlow _ m).seq (draws_write (low + 1) hhigh _ _)
  exact (hdouble 0x91 (by decide) (by decide) x1 m).seq
    ((hdouble 0x93 (by decide) (by decide) y1 _).seq
      ((hdouble 0x95 (by decide) (by decide) x2 _).seq
        (hdouble 0x97 (by decide) (by decide) y2 _)))

theorem draws_setColor (m : Registers) (red green blue : UInt8) :
    Draws oracle (· = m) (do
      ra8875WriteRegister 0x63 red
      ra8875WriteRegister 0x64 green
      ra8875WriteRegister 0x65 blue) [] (· = withColor m red green blue) :=
  (draws_write 0x63 (by decide) _ m).seq ((draws_write 0x64 (by decide) _ _).seq
    (draws_write 0x65 (by decide) _ _))

theorem draws_foregroundWhite : Draws oracle P displayForegroundWhite [] White := by
  refine Draws.of_registers fun m _ => ?_
  refine (draws_setColor m 0x07 0x07 0x03).conseq (fun _ h => h) fun n hn => ?_
  obtain rfl := hn
  exact colorOf_withColor m 0x07 0x07 0x03

theorem rectangleOf_withCorners (m : Registers) (x1 y1 x2 y2 : UInt16) (value : UInt8) :
    rectangleOf (withCorners m x1 y1 x2 y2).regs value =
      ⟨x1.toNat, y1.toNat, x2.toNat, y2.toNat, colorOf m.regs, value &&& 0x20 ≠ 0⟩ := by
  have hx1 : reg16 (withCorners m x1 y1 x2 y2).regs 0x91 = x1.toNat := reg16_eq rfl rfl
  have hy1 : reg16 (withCorners m x1 y1 x2 y2).regs 0x93 = y1.toNat := reg16_eq rfl rfl
  have hx2 : reg16 (withCorners m x1 y1 x2 y2).regs 0x95 = x2.toNat := reg16_eq rfl rfl
  have hy2 : reg16 (withCorners m x1 y1 x2 y2).regs 0x97 = y2.toNat := reg16_eq rfl rfl
  unfold rectangleOf
  rw [hx1, hy1, hx2, hy2]
  rfl

theorem rectangleOf_withColor (m : Registers) (red green blue value : UInt8) :
    rectangleOf (withColor m red green blue).regs value =
      { rectangleOf m.regs value with color := (red &&& 7, green &&& 7, blue &&& 3) } := rfl

theorem draws_drawRectFast (x1 y1 x2 y2 : UInt16) :
    Draws oracle White (ra8875DrawRectFast x1 y1 x2 y2)
      [⟨x1.toNat, y1.toNat, x2.toNat, y2.toNat, white, true⟩] White := by
  refine Draws.of_registers fun m hm => ?_
  have hdraw : Draws oracle (· = m) (ra8875DrawRectFast x1 y1 x2 y2) _ _ :=
    (draws_setCorners m x1 y1 x2 y2).seq (draws_start 0xB0 (by decide) _)
  rw [rectangleOf_withCorners, show colorOf m.regs = white from hm] at hdraw
  refine hdraw.conseq (fun _ h => h) fun n hn => ?_
  obtain rfl := hn
  exact hm

theorem pixelOf_colorWhite : pixelOf colorWhite = white := by decide

theorem draws_drawRect (x1 y1 x2 y2 : UInt16) (color : UInt8) (filled : Bool) :
    Draws oracle P (ra8875DrawRect x1 y1 x2 y2 color filled)
      [⟨x1.toNat, y1.toNat, x2.toNat, y2.toNat, pixelOf color, filled⟩]
      (fun m => colorOf m.regs = pixelOf color) := by
  refine Draws.of_registers fun m _ => ?_
  have hstart : (if filled then (0xB0 : UInt8) else 0x90) &&& 0x80 ≠ 0 := by cases filled <;> decide
  have hfilled : decide ((if filled then (0xB0 : UInt8) else 0x90) &&& 0x20 ≠ 0) = filled := by
    cases filled <;> decide
  have hdraw : Draws oracle (· = m) (ra8875DrawRect x1 y1 x2 y2 color filled) _ _ :=
    (draws_setCorners m x1 y1 x2 y2).seq ((draws_write 0x63 (by decide) _ _).seq
      ((draws_write 0x64 (by decide) _ _).seq ((draws_write 0x65 (by decide) _ _).seq
        (draws_start _ hstart _))))
  have hrect : rectangleOf (withColor (withCorners m x1 y1 x2 y2) (color &&& 0b111)
      ((color >>> 3) &&& 0b111) ((color >>> 6) &&& 0b11)).regs (if filled then 0xB0 else 0x90) =
      ⟨x1.toNat, y1.toNat, x2.toNat, y2.toNat, pixelOf color, filled⟩ := by
    rw [rectangleOf_withColor, rectangleOf_withCorners, pixelOf_masked, hfilled]
  rw [← hrect]
  refine hdraw.conseq (fun _ h => h) fun n hn => ?_
  obtain rfl := hn
  exact pixelOf_masked color

end Routines

end SteeringDisplay.RectanglePlotter
