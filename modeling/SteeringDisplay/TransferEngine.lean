import SteeringDisplay.PanelDriver

set_option autoImplicit false

/-!
# Block transfers and the wait for their completion

The panel moves blocks on its own. It reports a completion in bit 1 of its
interrupt status, which stays set until a 1 is written to it.
-/
namespace SteeringDisplay.TransferEngine
open ProgramTree FirmwareInterface PanelDriver

structure Engine where
  /-- The transfers in progress: the number of each, and the status reads that will
      still come back before it completes. -/
  inFlight : List (ℕ × ℕ)
  launched : ℕ
  completed : Bool
  otherBits : UInt8
  reads : ℕ

def Engine.status (e : Engine) : UInt8 :=
  (e.otherBits &&& 0xFD) ||| (if e.completed then 0x02 else 0x00)

section Device
variable (duration : ℕ → ℕ) (stray : ℕ → UInt8)

def Engine.launch (e : Engine) : Engine :=
  { e with
    inFlight := e.inFlight ++ [(e.launched, duration e.launched)]
    launched := e.launched + 1 }

def Engine.acknowledge (e : Engine) (value : UInt8) : Engine :=
  { e with
    completed := e.completed && value &&& 0x02 = 0
    otherBits := e.otherBits &&& ~~~value }

/-- One status read: what is due completes, the rest comes closer by one read. -/
def Engine.poll (e : Engine) : Engine where
  inFlight := (e.inFlight.filter fun t => t.2 ≠ 0).map fun t => (t.1, t.2 - 1)
  launched := e.launched
  completed := e.completed || e.inFlight.any fun t => t.2 = 0
  otherBits := e.otherBits ||| stray e.reads
  reads := e.reads + 1

/-- The engine: the transfer number `n` completes in the status read that comes after
    `duration n` others, and any other status bits may come up. -/
def engine : Handler firmware Engine
  | .readRegister reg, e =>
    if reg = 0xF1 then ((e.poll stray).status, e.poll stray)
    else ((Op.readRegister reg).quietAnswer .initial, e)
  | .writeRegister reg value, e =>
    if reg = 0xF1 then ((), e.acknowledge value)
    else if reg = 0x50 ∧ value &&& 0x80 ≠ 0 then ((), e.launch duration)
    else ((), e)
  | o, e => (o.quietAnswer .initial, e)

end Device

section Wait
variable {duration : ℕ → ℕ} {stray : ℕ → UInt8}

theorem engine_write {reg value : UInt8} (hstatus : reg ≠ 0xF1) (hstart : reg ≠ 0x50) (e : Engine) :
    engine duration stray (.writeRegister reg value) e = ((), e) := by
  unfold engine
  dsimp only
  rw [if_neg hstatus, if_neg (fun h => hstart h.1)]
  rfl

theorem engine_start (e : Engine) :
    engine duration stray (.writeRegister 0x50 0x80) e = ((), e.launch duration) := rfl

theorem mask_completed (others bit : UInt8) :
    ((others &&& 0xFD) ||| bit) &&& 0x02 = bit &&& 0x02 := by
  apply UInt8.eq_of_toBitVec_eq
  have hmask : (0xFD#8 &&& 0x02#8) = 0#8 := rfl
  simp only [UInt8.toBitVec_and, UInt8.toBitVec_or, UInt8.toBitVec_ofNat]
  rw [BitVec.and_or_distrib_right, BitVec.and_assoc, hmask, BitVec.and_zero, BitVec.zero_or]

theorem status_completed (e : Engine) :
    e.status &&& intBteCompleted ≠ 0 ↔ e.completed = true := by
  have hbit : e.status &&& intBteCompleted = (if e.completed then 0x02 else 0x00) &&& 0x02 :=
    mask_completed _ _
  rw [hbit]
  split_ifs with h
  · exact iff_of_true (by decide) h
  · exact iff_of_false (by decide) h

def Engine.Quiet (e : Engine) : Prop := e.inFlight = [] ∧ e.completed = false

def Engine.Moving (number left : ℕ) (e : Engine) : Prop :=
  e.inFlight = [(number, left)] ∧ e.completed = false

theorem Engine.Moving.poll (stray : ℕ → UInt8) {number left : ℕ} {e : Engine} (h : e.Moving number (left + 1)) :
    (e.poll stray).Moving number left := by
  obtain ⟨hflight, hcompleted⟩ := h
  unfold Engine.Moving Engine.poll
  rw [hflight, hcompleted]
  exact ⟨rfl, rfl⟩

theorem Engine.Moving.poll_due (stray : ℕ → UInt8) {number : ℕ} {e : Engine} (h : e.Moving number 0) :
    (e.poll stray).inFlight = [] ∧ (e.poll stray).completed = true := by
  obtain ⟨hflight, hcompleted⟩ := h
  unfold Engine.poll
  rw [hflight, hcompleted]
  exact ⟨rfl, rfl⟩

theorem acknowledge_quiet {e : Engine} (hflight : e.inFlight = []) (hcompleted : e.completed = true) :
    (e.acknowledge e.status).Quiet := by
  refine ⟨hflight, ?_⟩
  change (e.completed && decide (e.status &&& 0x02 = 0)) = false
  have hset : ¬ e.status &&& 0x02 = 0 := (status_completed e).mpr hcompleted
  rw [decide_eq_false hset, Bool.and_false]

theorem run_pollInterrupt_succ (polls : ℕ) (e : Engine) :
    run (engine duration stray) (pollInterrupt intBteCompleted (polls + 1)) e =
      if (e.poll stray).completed then ((), (e.poll stray).acknowledge (e.poll stray).status)
      else run (engine duration stray) (pollInterrupt intBteCompleted polls) (e.poll stray) := by
  have hread : run (engine duration stray) (pollInterrupt intBteCompleted (polls + 1)) e =
      run (engine duration stray) (if (e.poll stray).status &&& intBteCompleted ≠ 0
        then ra8875WriteRegister 0xF1 (e.poll stray).status
        else vTaskDelay .bte 1 >>= fun _ => pollInterrupt intBteCompleted polls)
        (e.poll stray) := rfl
  rw [hread]
  by_cases hcompleted : (e.poll stray).completed = true
  · rw [if_pos ((status_completed _).mpr hcompleted), if_pos hcompleted]
    rfl
  · rw [if_neg (fun h => hcompleted ((status_completed _).mp h)), if_neg hcompleted]
    rfl

/-- The wait sees the completion if it comes within the polls, and gives up otherwise. -/
theorem run_pollInterrupt (polls number left : ℕ) {e : Engine} (h : e.Moving number left) :
    (left < polls →
      (run (engine duration stray) (pollInterrupt intBteCompleted polls) e).2.Quiet) ∧
    (polls ≤ left →
      (run (engine duration stray) (pollInterrupt intBteCompleted polls) e).2.Moving number
        (left - polls)) := by
  induction polls generalizing left e with
  | zero => exact ⟨fun hlt => absurd hlt (Nat.not_lt_zero _), fun _ => h⟩
  | succ polls ih =>
    rw [run_pollInterrupt_succ]
    cases left with
    | zero =>
      obtain ⟨hflight, hcompleted⟩ := h.poll_due stray
      rw [if_pos hcompleted]
      exact ⟨fun _ => acknowledge_quiet hflight hcompleted, fun hle => absurd hle (by omega)⟩
    | succ left =>
      have hmoving := h.poll stray
      rw [if_neg (by rw [hmoving.2]; decide)]
      obtain ⟨hquiet, hlate⟩ := ih left hmoving
      refine ⟨fun hlt => hquiet (by omega), fun hle => ?_⟩
      rw [Nat.add_sub_add_right]
      exact hlate (by omega)

theorem launched_pollInterrupt (polls : ℕ) (e : Engine) :
    (run (engine duration stray) (pollInterrupt intBteCompleted polls) e).2.launched =
      e.launched := by
  induction polls generalizing e with
  | zero => rfl
  | succ polls ih =>
    rw [run_pollInterrupt_succ]
    split_ifs
    · rfl
    · exact ih (e.poll stray)

end Wait

structure BlockMove where
  srcX : UInt16
  srcY : UInt16
  srcLayer : UInt8
  dstX : UInt16
  dstY : UInt16
  dstLayer : UInt8
  width : UInt16
  height : UInt16
  negative : UInt8
  rop : UInt8

def BlockMove.exec (m : BlockMove) : Firmware Unit :=
  ra8875BteMove m.srcX m.srcY m.srcLayer m.dstX m.dstY m.dstLayer m.width m.height m.negative m.rop

section Calls
variable {duration : ℕ → ℕ} {stray : ℕ → UInt8}

theorem run_write {reg value : UInt8} (hstatus : reg ≠ 0xF1) (hstart : reg ≠ 0x50) (e : Engine) :
    run (engine duration stray) (ra8875WriteRegister reg value) e = ((), e) :=
  (run_perform (engine duration stray) (.writeRegister reg value) e).trans
    (engine_write hstatus hstart e)

theorem run_execBte (e : Engine) :
    run (engine duration stray) execBte e = ((), e.launch duration) :=
  (run_perform (engine duration stray) (.writeRegister 0x50 0x80) e).trans (engine_start e)

theorem run_exec (m : BlockMove) (e : Engine) :
    run (engine duration stray) m.exec e =
      run (engine duration stray) (waitForInterruptPolling intBteCompleted)
        (e.launch duration) := by
  unfold BlockMove.exec ra8875BteMove setBteSrc setBteDst setBteSize setBteOpcode
  simp (disch := decide) only [run_bind, run_write, run_execBte]

theorem run_exec_quiet (duration : ℕ → ℕ) (stray : ℕ → UInt8) (m : BlockMove) {e : Engine} (h : e.Quiet) :
    (run (engine duration stray) m.exec e).2.launched = e.launched + 1 ∧
      (duration e.launched < maxPolls → (run (engine duration stray) m.exec e).2.Quiet) ∧
      (maxPolls ≤ duration e.launched → (run (engine duration stray) m.exec e).2.Moving
        e.launched (duration e.launched - maxPolls)) := by
  have hmoving : (e.launch duration).Moving e.launched (duration e.launched) := by
    refine ⟨?_, h.2⟩
    change e.inFlight ++ _ = _
    rw [h.1]
    rfl
  rw [run_exec]
  exact ⟨launched_pollInterrupt maxPolls _, run_pollInterrupt maxPolls _ _ hmoving⟩

/-- When each of the calls returns, the transfer that it launched has completed. -/
def AllFinish (duration : ℕ → ℕ) (stray : ℕ → UInt8) : List BlockMove → Engine → Prop
  | [], _ => True
  | m :: moves, e =>
    e.launched ∉ (run (engine duration stray) m.exec e).2.inFlight.map Prod.fst ∧
      AllFinish duration stray moves (run (engine duration stray) m.exec e).2

theorem allFinish_iff (moves : List BlockMove) {e : Engine} (h : e.Quiet) :
    AllFinish duration stray moves e ↔
      ∀ n < moves.length, duration (e.launched + n) < maxPolls := by
  induction moves generalizing e with
  | nil => exact iff_of_true trivial (fun n hn => absurd hn (Nat.not_lt_zero n))
  | cons m moves ih =>
    obtain ⟨hlaunched, hquiet, hlate⟩ := run_exec_quiet duration stray m h
    by_cases hdur : duration e.launched < maxPolls
    · have hnext := ih (hquiet hdur)
      rw [hlaunched] at hnext
      have hnone : e.launched ∉ (run (engine duration stray) m.exec e).2.inFlight.map Prod.fst := by
        rw [(hquiet hdur).1]
        exact List.not_mem_nil
      constructor
      · intro hall n hn
        cases n with
        | zero => exact hdur
        | succ n =>
          have hn' := hnext.mp hall.2 n (by simpa using hn)
          rwa [Nat.add_assoc, Nat.add_comm 1 n] at hn'
      · intro hall
        refine ⟨hnone, hnext.mpr (fun n hn => ?_)⟩
        have hn' := hall (n + 1) (by simpa using hn)
        rwa [Nat.add_assoc, Nat.add_comm 1 n]
    · refine iff_of_false (fun hall => hall.1 ?_) (fun hall => hdur (hall 0 (by simp)))
      rw [(hlate (Nat.le_of_not_lt hdur)).1]
      simp

def Engine.powerUp (completed : Bool) (otherBits : UInt8) : Engine := ⟨[], 0, completed, otherBits, 0⟩

theorem run_ra8875Init (completed : Bool) (otherBits : UInt8) :
    (run (engine duration stray) (ra8875Init 1) (.powerUp completed otherBits)).1 = some true ∧
      (run (engine duration stray) (ra8875Init 1) (.powerUp completed otherBits)).2 =
        (Engine.powerUp completed otherBits).acknowledge 0xFF :=
  ⟨rfl, rfl⟩

theorem powerUp_quiet (completed : Bool) (otherBits : UInt8) :
    ((Engine.powerUp completed otherBits).acknowledge 0xFF).Quiet :=
  ⟨rfl, Bool.and_false completed⟩

end Calls

/-- Every call waits for its own transfer exactly when each transfer completes
    before `maxPolls` status reads have come back without it. -/
theorem block_moves_finish (duration : ℕ → ℕ) (stray : ℕ → UInt8) (completed : Bool)
    (otherBits : UInt8) (moves : List BlockMove) :
    AllFinish duration stray moves
        (run (engine duration stray) (ra8875Init 1) (.powerUp completed otherBits)).2 ↔
      ∀ n < moves.length, duration n < maxPolls := by
  have hlaunched : ((Engine.powerUp completed otherBits).acknowledge 0xFF).launched = 0 := rfl
  rw [(run_ra8875Init completed otherBits).2, allFinish_iff moves (powerUp_quiet _ _), hlaunched]
  simp only [Nat.zero_add]

def saveLabels : BlockMove := ⟨0, 0, 0, 0, 0, 1, 800, 400, 0, 0xC⟩

theorem late_transfer_unfinished :
    ¬ AllFinish (fun _ => 1000) (fun _ => 0) [saveLabels]
      (run (engine (fun _ => 1000) (fun _ => 0)) (ra8875Init 1) (.powerUp false 0)).2 := by
  rw [(run_ra8875Init false 0).2, allFinish_iff _ (powerUp_quiet _ _)]
  intro hall
  exact absurd (hall 0 (by decide)) (by decide)

end SteeringDisplay.TransferEngine
