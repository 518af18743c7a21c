import SteeringDisplay.LoopRuns
import SteeringDisplay.PanelRegisters

set_option autoImplicit false

/-!
# Commands that are still executing

The panel executes its commands on its own. Time is counted in bus accesses, and a
delay lasts at least as long as so many of them. Each command ends at a time of its
own choosing, but before a deadline.
-/
namespace SteeringDisplay.CommandPanel
open ProgramTree ProgramInterference FirmwareInterface PanelDriver DisplayScreens ButtonLoop
open Footprints LoopWorld LoopRuns PanelRegisters

structure Corners where
  x1 : UInt16
  y1 : UInt16
  x2 : UInt16
  y2 : UInt16
  deriving DecidableEq

def cornersOf (regs : UInt8 → UInt8) : Corners where
  x1 := .ofNat (reg16 regs 0x91)
  y1 := .ofNat (reg16 regs 0x93)
  x2 := .ofNat (reg16 regs 0x95)
  y2 := .ofNat (reg16 regs 0x97)

inductive Command where
  | clear
  | rectangle (corners : Corners)
  | transfer
  deriving DecidableEq

/-- A command in progress, and how many more bus accesses it may outlast. -/
structure Execution where
  command : Command
  left : ℕ

structure Panel where
  regs : UInt8 → UInt8
  executing : List Execution
  /-- Bit 1 of the register 0xF1. -/
  completed : Bool
  started : ℕ

def Panel.powerUp : Panel := ⟨fun _ => 0, [], false, 0⟩

/-- The command that a write starts. -/
def commandOf (regs : UInt8 → UInt8) (reg value : UInt8) : Option Command :=
  if value &&& 0x80 = 0 then none
  else if reg = 0x8E then some .clear
  else if reg = 0x90 then some (.rectangle (cornersOf regs))
  else if reg = 0x50 then some .transfer
  else none

/-- The operations that must not come while a command is in progress. -/
def NeedsIdle : Op → Prop
  | .writeRegister reg value =>
    reg = 0x40 ∨ value &&& 0x80 ≠ 0 ∧ (reg = 0x8E ∨ reg = 0x90 ∨ reg = 0x50)
  | .writeData _ => True
  | _ => False

/-- The panel when the time of `t` bus accesses has passed: what is due has finished. -/
def Panel.elapse (p : Panel) (t : ℕ) : Panel :=
  { p with
    executing := (p.executing.filter fun e => t ≤ e.left).map fun e => ⟨e.command, e.left - t⟩
    completed := p.completed || p.executing.any fun e => e.left < t ∧ e.command = .transfer }

section Device
variable (pause : SourceFile → ℕ → ℕ) (dur : Command → ℕ → ℕ)

def Panel.start (p : Panel) (c : Command) : Panel :=
  { p with
    executing := p.executing ++ [⟨c, dur c p.started⟩]
    started := p.started + 1 }

def Panel.write (p : Panel) (reg value : UInt8) : Panel :=
  let q := { p.elapse 1 with regs := Function.update p.regs reg value }
  match commandOf p.regs reg value with
  | some c => q.start dur c
  | none => if reg = 0xF1 ∧ value &&& intBteCompleted ≠ 0 then { q with completed := false } else q

def Panel.perform (p : Panel) : Op → Panel
  | .writeRegister reg value => p.write dur reg value
  | .writeCommand _ | .writeData _ | .readRegister _ => p.elapse 1
  | .vTaskDelay file ms => p.elapse (pause file ms)
  | _ => p

/-- What the panel answers: the status register shows whether a transfer has completed. -/
def Reports : (o : Op) → Panel → o.Res → Prop
  | .readRegister reg, p, (r : UInt8) =>
    reg = 0xF1 → (r &&& intBteCompleted ≠ 0 ↔ (p.elapse 1).completed = true)
  | _, _, _ => True

/-- The task and the panel, and whether display.c has started a rectangle and not made its
    `DEFAULT_DELAY` since. -/
structure Plant where
  world : World
  panel : Panel
  undelayed : Bool

def Plant.initial : Plant := ⟨.initial, .powerUp, false⟩

def undelayedAfter (b : Bool) : Op → Bool
  | .writeRegister reg value => b || decide (reg = 0x90 ∧ value &&& 0x80 ≠ 0)
  | .vTaskDelay file ms => b && !decide (file = .display ∧ ms = defaultDelay)
  | _ => b

def Plant.perform (s : Plant) (o : Op) : Plant where
  world := s.world.perform o
  panel := s.panel.perform pause dur o
  undelayed := undelayedAfter s.undelayed o

/-- Between two operations a button may be pressed, and a command may finish early. -/
inductive Meanwhile : Plant → Plant → Prop
  | press {s : Plant} {w : World} (h : Press anyPress s.world w) : Meanwhile s { s with world := w }
  | finish {s : Plant} {l r : List Execution} {e : Execution}
      (h : s.panel.executing = l ++ e :: r) :
      Meanwhile s { s with panel := { s.panel with
        executing := l ++ r
        completed := s.panel.completed || decide (e.command = .transfer) } }

def plantSystem : System firmware Plant where
  env := Meanwhile
  act o s r u := Answers o s.world r ∧ Reports o s.panel r ∧ u = s.perform pause dur o

/-- The runs of `app_main` where the command number `n`, if it is a `c`, ends before
    `dur c n + 1` more bus accesses. -/
def PlantReach (tries : ℕ) : Firmware Bool → Plant → Prop :=
  Reach (plantSystem pause dur) (appInit tries) loopBody .initial

end Device

/-- A run of pixels in a column of a glyph: two pixels wide and at most 32 high. -/
def Corners.IsSpan (r : Corners) : Prop := r.x2 = r.x1 + 1 ∧ (r.y2 - r.y1).toNat < 32

instance (r : Corners) : Decidable r.IsSpan := inferInstanceAs (Decidable (_ ∧ _))

/-- The boxes that text is written on, with `DEFAULT_DELAY` in between. -/
def textBoxes : List Corners := [⟨0, 415, 800, 480⟩, ⟨0, 0, 800, 480⟩]

/-- A main screen has `DEFAULT_DELAY` between this border and its labels. -/
def lastMainBorder : Corners := ⟨533, 360, 534, 480⟩

/-- The time that the code leaves to a rectangle: to a span of a glyph the eight writes of
    the next corners, to a bar or border those of a colour besides, and its delays. -/
def slack (pause : SourceFile → ℕ → ℕ) (r : Corners) : ℕ :=
  if r ∈ textBoxes then pause .display defaultDelay
  else if r = lastMainBorder then pause .display defaultDelay + 11
  else if r.IsSpan then 8
  else 11

/-- Every command ends in the time that the code leaves to it. -/
structure InTime (pause : SourceFile → ℕ → ℕ) (dur : Command → ℕ → ℕ) : Prop where
  /-- `Display_Init` writes five registers between its clear and the next one. -/
  firstClear : dur .clear 0 ≤ 5
  /-- The second clear is followed by seven registers and then the mode register. -/
  secondClear : dur .clear 1 ≤ 7
  /-- A screen writes seven registers, and eleven more for its first rectangle. -/
  clears : ∀ n, dur .clear (n + 2) ≤ 18
  rectangles : ∀ r n, dur (.rectangle r) n ≤ slack pause r
  /-- The time of the polls of `wait_for_interrupt_polling`, up to the last. -/
  transfers : ∀ n, dur .transfer n ≤ (maxPolls - 1) * (1 + pause .bte 1)

/-- No transfer is in progress, everything ends within `n` accesses, and what may last
    beyond `m` is a rectangle that display.c has not waited for. -/
structure EndWithin (n m : ℕ) (s : Plant) : Prop where
  idle : s.panel.completed = false
  left : ∀ e ∈ s.panel.executing, e.command ≠ .transfer ∧ e.left ≤ n
  undelayed : ∀ e ∈ s.panel.executing, m < e.left → s.undelayed = true ∧ ∃ r, e.command = .rectangle r

def Transferring (n : ℕ) (s : Plant) : Prop :=
  s.panel.completed = true ∧ s.panel.executing = [] ∨
    s.panel.completed = false ∧ ∃ left ≤ n, s.panel.executing = [⟨.transfer, left⟩]

def Completed (s : Plant) : Prop := s.panel.completed = true ∧ s.panel.executing = []

section Assertions
variable {pause : SourceFile → ℕ → ℕ} {dur : Command → ℕ → ℕ} {n m : ℕ} {s : Plant}

theorem EndWithin.mono {n' m' : ℕ} (h : EndWithin n m s) (hn : n ≤ n') (hm : m ≤ m') :
    EndWithin n' m' s :=
  ⟨h.idle, fun e he => ⟨(h.left e he).1, (h.left e he).2.trans hn⟩,
    fun e he hlt => h.undelayed e he (Nat.lt_of_le_of_lt hm hlt)⟩

theorem stable_endWithin : Stable (plantSystem pause dur) (EndWithin n m) := by
  rintro s _ h (⟨_⟩ | ⟨hsplit⟩)
  · exact ⟨h.idle, h.left, h.undelayed⟩
  · rename_i l r e
    have hmem : ∀ e' ∈ l ++ r, e' ∈ s.panel.executing := by
      intro e' he'
      rw [hsplit]
      rcases List.mem_append.mp he' with hl | hr
      · exact List.mem_append_left _ hl
      · exact List.mem_append_right _ (List.mem_cons_of_mem _ hr)
    have he := (h.left e (by simp [hsplit])).1
    refine ⟨?_, fun e' he' => h.left e' (hmem e' he'), fun e' he' => h.undelayed e' (hmem e' he')⟩
    change (s.panel.completed || decide (e.command = .transfer)) = false
    rw [h.idle, decide_eq_false he]
    rfl

theorem stable_completed (pause : SourceFile → ℕ → ℕ) (dur : Command → ℕ → ℕ) :
    Stable (plantSystem pause dur) Completed := by
  rintro s _ ⟨hcompleted, hnone⟩ (⟨_⟩ | ⟨hsplit⟩)
  · exact ⟨hcompleted, hnone⟩
  · rw [hnone] at hsplit
    exact absurd hsplit (by simp)

theorem stable_transferring : Stable (plantSystem pause dur) (Transferring n) := by
  rintro s _ (h | ⟨hcompleted, left, hleft, hone⟩) (⟨hpress⟩ | ⟨hsplit⟩)
  · exact Or.inl h
  · exact Or.inl (stable_completed pause dur s _ h (.finish hsplit))
  · exact Or.inr ⟨hcompleted, left, hleft, hone⟩
  · rename_i l r e
    rw [hone] at hsplit
    obtain ⟨rfl, rfl, rfl⟩ : l = [] ∧ e = ⟨.transfer, left⟩ ∧ r = [] := by
      cases l with
      | nil => simp_all
      | cons a l => simp at hsplit
    exact Or.inl ⟨Bool.or_true _, rfl⟩

theorem mem_elapse {p : Panel} {t : ℕ} {e : Execution} (he : e ∈ (p.elapse t).executing) :
    ∃ e' ∈ p.executing, e.command = e'.command ∧ e.left + t = e'.left := by
  obtain ⟨e', he', rfl⟩ := List.mem_map.mp he
  obtain ⟨hmem, hle⟩ := List.mem_filter.mp he'
  exact ⟨e', hmem, rfl, Nat.sub_add_cancel (of_decide_eq_true hle)⟩

theorem EndWithin.not_completed (h : EndWithin n m s) (t : ℕ) : (s.panel.elapse t).completed = false := by
  change (s.panel.completed || _) = false
  rw [h.idle, Bool.false_or, List.any_eq_false]
  intro e he
  simp [(h.left e he).1]

theorem EndWithin.elapse {u : Plant} {t : ℕ} (h : EndWithin n m s) (hcompleted : u.panel.completed = false)
    (hexecuting : u.panel.executing = (s.panel.elapse t).executing)
    (hundelayed : s.undelayed = true → u.undelayed = true) : EndWithin (n - t) (m - t) u := by
  refine ⟨hcompleted, fun e he => ?_, fun e he hlt => ?_⟩
  · rw [hexecuting] at he
    obtain ⟨e', he', hcommand, hleft⟩ := mem_elapse he
    have hbound := h.left e' he'
    exact ⟨hcommand ▸ hbound.1, by omega⟩
  · rw [hexecuting] at he
    obtain ⟨e', he', hcommand, hleft⟩ := mem_elapse he
    obtain ⟨hslip, r, hr⟩ := h.undelayed e' he' (by omega)
    exact ⟨hundelayed hslip, r, hcommand.trans hr⟩

theorem EndWithin.none_left {t : ℕ} (h : EndWithin n m s) (hn : n < t) :
    (s.panel.elapse t).executing = [] := by
  refine List.eq_nil_iff_forall_not_mem.mpr fun e he => ?_
  obtain ⟨e', he', -, hleft⟩ := mem_elapse he
  have hbound := (h.left e' he').2
  omega

theorem write_executing {p : Panel} {reg value : UInt8}
    (hplain : commandOf p.regs reg value = none) :
    (p.write dur reg value).executing = (p.elapse 1).executing := by
  unfold Panel.write
  rw [hplain]
  dsimp only
  split_ifs <;> rfl

theorem write_completed {p : Panel} {reg value : UInt8}
    (hplain : commandOf p.regs reg value = none) (hcompleted : (p.elapse 1).completed = false) :
    (p.write dur reg value).completed = false := by
  unfold Panel.write
  rw [hplain]
  dsimp only
  split_ifs
  · rfl
  · exact hcompleted

theorem commandOf_none {reg : UInt8} (hclear : reg ≠ 0x8E) (hrect : reg ≠ 0x90)
    (htransfer : reg ≠ 0x50) (regs : UInt8 → UInt8) (value : UInt8) :
    commandOf regs reg value = none := by
  unfold commandOf
  rw [if_neg hclear, if_neg hrect, if_neg htransfer, ite_self]

/-- The operation is not a start of a command, and does not undo a delay. -/
def Ordinary : firmware.Op → Prop
  | .writeRegister reg _ => reg ≠ 0x8E ∧ reg ≠ 0x90 ∧ reg ≠ 0x50
  | .vTaskDelay file ms => ¬ (file = .display ∧ ms = defaultDelay)
  | _ => True

def OnBus : firmware.Op → Prop
  | .writeCommand _ | .writeData _ | .writeRegister _ _ | .readRegister _ => True
  | _ => False

theorem perform_executing {o : firmware.Op} (ho : Ordinary o) (hbus : OnBus o) (s : Plant) :
    (s.perform pause dur o).panel.executing = (s.panel.elapse 1).executing := by
  cases o with
  | writeRegister reg value => exact write_executing (commandOf_none ho.1 ho.2.1 ho.2.2 _ value)
  | writeCommand reg | writeData value | readRegister reg => rfl
  | _ => exact hbus.elim

theorem endWithin_access {o : firmware.Op} (ho : Ordinary o) (hbus : OnBus o) (h : EndWithin n m s) :
    EndWithin (n - 1) (m - 1) (s.perform pause dur o) := by
  cases o with
  | writeRegister reg value =>
    have hcompleted : (s.panel.write dur reg value).completed = false :=
      write_completed (commandOf_none ho.1 ho.2.1 ho.2.2 _ _) (h.not_completed 1)
    exact h.elapse hcompleted (perform_executing ho hbus s)
      fun hs => Bool.or_eq_true_iff.mpr (Or.inl hs)
  | writeCommand reg | writeData value | readRegister reg =>
    exact h.elapse (h.not_completed 1) rfl id
  | _ => exact hbus.elim

theorem endWithin_ordinary {o : firmware.Op} (ho : Ordinary o) (h : EndWithin n m s) :
    EndWithin n m (s.perform pause dur o) := by
  cases o with
  | writeRegister reg value | writeCommand reg | writeData value | readRegister reg =>
    exact (endWithin_access ho trivial h).mono (Nat.sub_le n 1) (Nat.sub_le m 1)
  | vTaskDelay file ms =>
    have hkept : s.undelayed = true → (s.undelayed && !decide (file = .display ∧ ms = defaultDelay)) = true := by
      intro hs
      rw [hs, decide_eq_false ho]
      rfl
    exact (h.elapse (h.not_completed (pause file ms)) rfl hkept).mono (Nat.sub_le ..) (Nat.sub_le ..)
  | _ => exact ⟨h.idle, h.left, h.undelayed⟩

theorem endWithin_delay (h : EndWithin n m s) :
    EndWithin (n - pause .display defaultDelay) (n - pause .display defaultDelay)
      (s.perform pause dur (.vTaskDelay .display defaultDelay)) := by
  have hall : ∀ e ∈ (s.panel.elapse (pause .display defaultDelay)).executing,
      e.command ≠ .transfer ∧ e.left ≤ n - pause .display defaultDelay := by
    intro e he
    obtain ⟨e', he', hcommand, hleft⟩ := mem_elapse he
    have hbound := h.left e' he'
    exact ⟨hcommand ▸ hbound.1, by omega⟩
  exact ⟨h.not_completed _, hall, fun e he hlt => absurd (hall e he).2 (Nat.not_le_of_lt hlt)⟩

theorem perform_start (pause : SourceFile → ℕ → ℕ) (dur : Command → ℕ → ℕ) {reg value : UInt8}
    {c : Command} (hstart : commandOf s.panel.regs reg value = some c) (h : EndWithin 0 m s) :
    (s.perform pause dur (.writeRegister reg value)).panel.executing =
        [⟨c, dur c s.panel.started⟩] ∧
      (s.perform pause dur (.writeRegister reg value)).panel.completed = false ∧
      (s.perform pause dur (.writeRegister reg value)).panel.started = s.panel.started + 1 := by
  have hwrite : (s.perform pause dur (.writeRegister reg value)).panel =
      Panel.start dur { s.panel.elapse 1 with
        regs := Function.update s.panel.regs reg value } c := by
    change s.panel.write dur reg value = _
    unfold Panel.write
    rw [hstart]
  rw [hwrite]
  refine ⟨?_, h.not_completed 1, rfl⟩
  change (s.panel.elapse 1).executing ++ _ = _
  rw [h.none_left (by decide)]
  rfl

theorem endWithin_start {reg value : UInt8} {c : Command} {d : ℕ}
    (hstart : commandOf s.panel.regs reg value = some c) (htransfer : c ≠ .transfer)
    (hd : dur c s.panel.started ≤ d) (h : EndWithin 0 m s) :
    EndWithin d d (s.perform pause dur (.writeRegister reg value)) := by
  obtain ⟨hone, hcompleted, -⟩ := perform_start pause dur hstart h
  have hall : ∀ e ∈ (s.perform pause dur (.writeRegister reg value)).panel.executing,
      e.command ≠ .transfer ∧ e.left ≤ d := by
    intro e he
    rw [hone, List.mem_singleton] at he
    subst he
    exact ⟨htransfer, hd⟩
  exact ⟨hcompleted, hall, fun e he hlt => absurd (hall e he).2 (Nat.not_le_of_lt hlt)⟩

theorem endWithin_rectangle {value : UInt8} {d : ℕ} (hbit : value &&& 0x80 ≠ 0)
    (hd : dur (.rectangle (cornersOf s.panel.regs)) s.panel.started ≤ d) (h : EndWithin 0 m s) :
    EndWithin d 0 (s.perform pause dur (.writeRegister 0x90 value)) := by
  have hstart : commandOf s.panel.regs 0x90 value = some (.rectangle (cornersOf s.panel.regs)) := by
    unfold commandOf
    rw [if_neg hbit]
    rfl
  have hend : EndWithin d d (s.perform pause dur (.writeRegister 0x90 value)) :=
    endWithin_start hstart Command.noConfusion hd h
  obtain ⟨hone, -, -⟩ := perform_start pause dur hstart h
  refine ⟨hend.idle, hend.left, fun e he _ => ⟨?_, cornersOf s.panel.regs, ?_⟩⟩
  · change (s.undelayed || decide ((0x90 : UInt8) = 0x90 ∧ value &&& 0x80 ≠ 0)) = true
    rw [decide_eq_true ⟨rfl, hbit⟩, Bool.or_true]
  · rw [hone, List.mem_singleton] at he
    rw [he]

theorem transferring_elapse (t : ℕ) (h : Transferring n s) :
    ((s.panel.elapse t).completed = true ∧ (s.panel.elapse t).executing = []) ∨
      ((s.panel.elapse t).completed = false ∧ t ≤ n ∧
        ∃ left ≤ n - t, (s.panel.elapse t).executing = [⟨.transfer, left⟩]) := by
  rcases h with ⟨hcompleted, hnone⟩ | ⟨hcompleted, left, hleft, hone⟩
  · refine Or.inl ?_
    unfold Panel.elapse
    rw [hcompleted, hnone]
    exact ⟨rfl, rfl⟩
  · unfold Panel.elapse
    rw [hcompleted, hone]
    by_cases ht : t ≤ left
    · exact Or.inr ⟨by simp [ht], ht.trans hleft, left - t, by omega, by simp [ht]⟩
    · exact Or.inl ⟨by simp [Nat.lt_of_not_le ht], by simp [ht]⟩

end Assertions

end SteeringDisplay.CommandPanel
