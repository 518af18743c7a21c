import SteeringDisplay.PanelLoop

set_option autoImplicit false

/-!
# core.c: the timing that the registers stand for

The comments of `RA8875_configure` say how the panel reads each register. Read back so,
the registers hold the arguments only within limits.
-/
namespace SteeringDisplay.ScanTiming
open ProgramTree FirmwareInterface PanelDriver DisplayScreens Footprints PanelMachine
open PanelAgreement PanelHistory PanelLoop

@[ext]
structure PanelTiming where
  width : ℤ
  dataEnableLow : Bool
  finetune : ℤ
  hsyncNondisp : ℤ
  hsyncStart : ℤ
  hsyncPulseHigh : Bool
  hsyncPulse : ℤ
  lines : ℤ
  vsyncNondisp : ℤ
  vsyncStart : ℤ
  vsyncPulseHigh : Bool
  vsyncPulse : ℤ
  left : ℤ
  right : ℤ
  top : ℤ
  bottom : ℤ
  deriving DecidableEq

def pair (regs : UInt8 → UInt8) (low : UInt8) : ℤ :=
  (regs low).toNat + 256 * (regs (low + 1)).toNat

/-- What the registers stand for. Bit 7 of HNDFTR, HPWR and VPWR is a polarity. -/
def readTiming (regs : UInt8 → UInt8) : PanelTiming where
  width := ((regs 0x14).toNat + 1) * 8
  dataEnableLow := 128 ≤ (regs 0x15).toNat
  finetune := (regs 0x15).toNat % 128
  hsyncNondisp := (regs 0x16).toNat * 8 + (regs 0x15).toNat % 128 + 2
  hsyncStart := ((regs 0x17).toNat + 1) * 8
  hsyncPulseHigh := 128 ≤ (regs 0x18).toNat
  hsyncPulse := ((regs 0x18).toNat % 128 + 1) * 8
  lines := pair regs 0x19 + 1
  vsyncNondisp := pair regs 0x1B + 1
  vsyncStart := pair regs 0x1D + 1
  vsyncPulseHigh := 128 ≤ (regs 0x1F).toNat
  vsyncPulse := (regs 0x1F).toNat % 128 + 1
  left := pair regs 0x30
  right := pair regs 0x34
  top := pair regs 0x32
  bottom := pair regs 0x36

/-- What the arguments ask for; the code chooses the polarities. -/
def asked (t : Timing) : PanelTiming where
  width := t.width.toNat
  dataEnableLow := false
  finetune := t.hsyncFinetune.toNat
  hsyncNondisp := t.hsyncNondisp.toNat
  hsyncStart := t.hsyncStart.toNat
  hsyncPulseHigh := false
  hsyncPulse := t.hsyncPw.toNat
  lines := t.height.toNat + t.voffset.toNat
  vsyncNondisp := t.vsyncNondisp.toNat
  vsyncStart := t.vsyncStart.toNat
  vsyncPulseHigh := false
  vsyncPulse := t.vsyncPw.toNat
  left := 0
  right := t.width.toNat - 1
  top := t.voffset.toNat
  bottom := t.height.toNat - 1 + t.voffset.toNat

/-- The arguments that the registers can hold as `RA8875_configure` fills them. The high
    bytes of the vertical times are not those of the number written, and the window's top
    has the low byte of the offset in both of its registers. -/
structure Expressible (t : Timing) : Prop where
  width : 8 ≤ t.width.toNat ∧ t.width.toNat ≤ 2048 ∧ 8 ∣ t.width.toNat
  finetune : t.hsyncFinetune.toNat < 128
  hsyncNondisp : t.hsyncFinetune.toNat + 2 ≤ t.hsyncNondisp.toNat ∧
    8 ∣ t.hsyncNondisp.toNat - (t.hsyncFinetune.toNat + 2)
  hsyncStart : 8 ≤ t.hsyncStart.toNat ∧ 8 ∣ t.hsyncStart.toNat
  hsyncPw : 8 ≤ t.hsyncPw.toNat ∧ 8 ∣ t.hsyncPw.toNat
  lines : 1 ≤ t.height.toNat + t.voffset.toNat ∧ t.height.toNat + t.voffset.toNat ≤ 65536
  vsyncNondisp : ¬ 256 ∣ t.vsyncNondisp.toNat
  vsyncStart : ¬ 256 ∣ t.vsyncStart.toNat
  vsyncPw : 1 ≤ t.vsyncPw.toNat ∧ t.vsyncPw.toNat ≤ 128
  voffset : t.voffset.toNat / 256 = t.voffset.toNat % 256

theorem toNat_lowByte (n : ℤ) : ((lowByte n).toNat : ℤ) = n % 256 := by
  unfold lowByte UInt8.ofInt
  rw [UInt8.toNat_ofNat']
  omega

theorem toNat_pred (v : UInt16) : (v - 1).toNat = (v.toNat + 65535) % 65536 := by
  rw [UInt16.toNat_sub, UInt16.toNat_one]
  omega

theorem eights_iff (n : ℕ) :
    (((lowByte ((n : ℤ).tdiv 8 - 1)).toNat : ℤ) + 1) * 8 = n ↔ 8 ≤ n ∧ n ≤ 2048 ∧ 8 ∣ n := by
  rw [toNat_lowByte, Int.tdiv_eq_ediv_of_nonneg (Int.natCast_nonneg n)]
  omega

theorem pulse_eights_iff {n : ℕ} (hn : n < 256) :
    ((lowByte ((n : ℤ).tdiv 8 - 1)).toNat < 128 ∧
      (((lowByte ((n : ℤ).tdiv 8 - 1)).toNat : ℤ) % 128 + 1) * 8 = n) ↔ 8 ≤ n ∧ 8 ∣ n := by
  have hbyte := toNat_lowByte ((n : ℤ).tdiv 8 - 1)
  rw [Int.tdiv_eq_ediv_of_nonneg (Int.natCast_nonneg n)] at hbyte ⊢
  omega

theorem nondisp_iff {n fine : ℕ} (hn : n < 256) (hfine : fine < 128) :
    ((lowByte (((n : ℤ) - fine - 2).tdiv 8)).toNat : ℤ) * 8 + fine + 2 = n ↔
      fine + 2 ≤ n ∧ 8 ∣ n - (fine + 2) := by
  rw [toNat_lowByte]
  rcases Int.le_total 0 ((n : ℤ) - fine - 2) with hpos | hneg
  · rw [Int.tdiv_eq_ediv_of_nonneg hpos]
    omega
  · have hdiv : ((n : ℤ) - fine - 2).tdiv 8 = -((fine + 2 - n : ℤ) / 8) := by
      rw [← Int.tdiv_eq_ediv_of_nonneg (by omega), ← Int.neg_tdiv]
      congr 1
      omega
    rw [hdiv]
    omega

theorem vertical_iff (v : UInt16) :
    ((v - 1).toUInt8.toNat : ℤ) + 256 * (highByte v).toNat + 1 = v.toNat ↔ ¬ 256 ∣ v.toNat := by
  have hpred : (v - 1).toUInt8.toNat = (v - 1).toNat % 256 := UInt16.toNat_toUInt8 (v - 1)
  have hlow : v.toUInt8.toNat = v.toNat % 256 := by simp
  have hbytes := bytes_toNat v
  have hlt := v.toNat_lt
  rw [hpred, toNat_pred]
  omega

theorem word_toNat (v : UInt16) :
    (v.toUInt8.toNat : ℤ) + 256 * (highByte v).toNat = v.toNat := by
  exact_mod_cast bytes_toNat v

theorem offset_iff (v : UInt16) :
    (v.toUInt8.toNat : ℤ) + 256 * v.toUInt8.toNat = v.toNat ↔ v.toNat / 256 = v.toNat % 256 := by
  have hlow : v.toUInt8.toNat = v.toNat % 256 := by simp
  rw [hlow]
  omega

theorem toNat_bottom (height voffset : UInt16) :
    (height - 1 + voffset).toNat = (height.toNat + voffset.toNat + 65535) % 65536 := by
  rw [UInt16.toNat_add, toNat_pred]
  omega

theorem toNat_pulse (v : UInt8) : (0x00 + v - 1).toNat = (v.toNat + 255) % 256 := by
  rw [UInt8.toNat_sub, UInt8.toNat_add, UInt8.toNat_zero, UInt8.toNat_one]
  omega

theorem foldl_update_of_notMem {α β : Type} [DecidableEq α] {l : List (α × β)} {a : α}
    (ha : a ∉ l.map Prod.fst) (f : α → β) :
    l.foldl (fun g w => Function.update g w.1 w.2) f a = f a := by
  induction l generalizing f with
  | nil => rfl
  | cons w l ih =>
    rw [List.map_cons, List.mem_cons, not_or] at ha
    rw [List.foldl_cons, ih ha.2, Function.update_of_ne ha.1]

theorem foldl_update_of_mem {α β : Type} [DecidableEq α] {l : List (α × β)} {w : α × β}
    (hnodup : (l.map Prod.fst).Nodup) (hw : w ∈ l) (f : α → β) :
    l.foldl (fun g w => Function.update g w.1 w.2) f w.1 = w.2 := by
  induction l generalizing f with
  | nil => exact absurd hw List.not_mem_nil
  | cons v l ih =>
    rw [List.map_cons, List.nodup_cons] at hnodup
    rw [List.foldl_cons]
    rcases List.mem_cons.mp hw with rfl | hw
    · rw [foldl_update_of_notMem hnodup.1, Function.update_self]
    · exact ih hnodup.2 hw _

section Configure
variable {engine : TextEngine} {undefinedText : Format → CFloat → List UInt8}

theorem finish_writes {ws : List (UInt8 × UInt8)} (hws : ∀ w ∈ ws, Plain w.1) (s : PanelState) :
    ∃ latch, finish (panel engine undefinedText) (ws.forM fun w => ra8875WriteRegister w.1 w.2) s =
      { s with latch := latch, regs := ws.foldl (fun g w => Function.update g w.1 w.2) s.regs } := by
  induction ws generalizing s with
  | nil => exact ⟨s.latch, rfl⟩
  | cons w ws ih =>
    have hwrite : finish (panel engine undefinedText) (ra8875WriteRegister w.1 w.2) s =
        { s with latch := w.1, regs := Function.update s.regs w.1 w.2 } :=
      step_plain (hws w (by simp)) w.2 s
    obtain ⟨latch, hrest⟩ := ih (fun v hv => hws v (by simp [hv]))
      { s with latch := w.1, regs := Function.update s.regs w.1 w.2 }
    refine ⟨latch, ?_⟩
    change finish (panel engine undefinedText) (ra8875WriteRegister w.1 w.2 >>= fun _ =>
      ws.forM fun w => ra8875WriteRegister w.1 w.2) s = _
    rw [finish_bind, hwrite, hrest]
    rfl

theorem registers_nodup (t : Timing) : (t.registers.map Prod.fst).Nodup := by
  change List.Nodup [(0x01 : UInt8), 0xC7, 0x8A, 0x88, 0x89, 0x10, 0x04, 0x20, 0x14, 0x15, 0x16,
    0x17, 0x18, 0x19, 0x1A, 0x1B, 0x1C, 0x1D, 0x1E, 0x1F, 0x30, 0x31, 0x34, 0x35, 0x32, 0x33,
    0x36, 0x37]
  decide

theorem registers_plain (t : Timing) : ∀ w ∈ t.registers, Plain w.1 := by
  intro w hw
  have hreg : w.1 ∈ t.registers.map Prod.fst := List.mem_map_of_mem hw
  have hplain : ∀ reg ∈ t.registers.map Prod.fst, Plain reg := by
    change ∀ reg ∈ ([0x01, 0xC7, 0x8A, 0x88, 0x89, 0x10, 0x04, 0x20, 0x14, 0x15, 0x16,
      0x17, 0x18, 0x19, 0x1A, 0x1B, 0x1C, 0x1D, 0x1E, 0x1F, 0x30, 0x31, 0x34, 0x35, 0x32, 0x33,
      0x36, 0x37] : List UInt8), Plain reg
    decide
  exact hplain w.1 hreg

/-- What each register holds after the call, and what the call leaves alone. -/
theorem finish_configure (t : Timing) (s : PanelState) :
    (∀ w ∈ t.registers,
      (finish (panel engine undefinedText) (ra8875Configure t) s).regs w.1 = w.2) ∧
    (∀ reg ∉ t.registers.map Prod.fst,
      (finish (panel engine undefinedText) (ra8875Configure t) s).regs reg = s.regs reg) ∧
    (finish (panel engine undefinedText) (ra8875Configure t) s).layers = s.layers ∧
    (finish (panel engine undefinedText) (ra8875Configure t) s).completed = s.completed := by
  obtain ⟨latch, hfinish⟩ : ∃ latch, finish (panel engine undefinedText) (ra8875Configure t) s = _ :=
    finish_writes (registers_plain t) s
  rw [hfinish]
  exact ⟨fun w hw => foldl_update_of_mem (registers_nodup t) hw s.regs,
    fun reg hreg => foldl_update_of_notMem hreg s.regs, rfl, rfl⟩

end Configure

section ReadBack
variable {t : Timing} {regs : UInt8 → UInt8} (hregs : ∀ w ∈ t.registers, regs w.1 = w.2)
include hregs

theorem readTiming_width : (readTiming regs).width = (asked t).width ↔
    8 ≤ t.width.toNat ∧ t.width.toNat ≤ 2048 ∧ 8 ∣ t.width.toNat := by
  have hreg : regs 0x14 = lowByte ((t.width.toNat : ℤ).tdiv 8 - 1) :=
    hregs (0x14, lowByte ((t.width.toNat : ℤ).tdiv 8 - 1)) (by simp [Timing.registers])
  change (((regs 0x14).toNat : ℤ) + 1) * 8 = t.width.toNat ↔ _
  rw [hreg]
  exact eights_iff t.width.toNat

theorem finetune_register : (regs 0x15).toNat = t.hsyncFinetune.toNat := by
  have hreg : regs 0x15 = 0x00 + t.hsyncFinetune :=
    hregs (0x15, 0x00 + t.hsyncFinetune) (by simp [Timing.registers])
  rw [hreg, UInt8.zero_add]

theorem readTiming_finetune : ((readTiming regs).dataEnableLow = (asked t).dataEnableLow ∧
    (readTiming regs).finetune = (asked t).finetune) ↔ t.hsyncFinetune.toNat < 128 := by
  have hfine := finetune_register hregs
  change decide (128 ≤ (regs 0x15).toNat) = false ∧
    ((regs 0x15).toNat : ℤ) % 128 = t.hsyncFinetune.toNat ↔ _
  rw [decide_eq_false_iff_not]
  omega

theorem readTiming_hsyncNondisp (hfine : t.hsyncFinetune.toNat < 128) :
    (readTiming regs).hsyncNondisp = (asked t).hsyncNondisp ↔
      t.hsyncFinetune.toNat + 2 ≤ t.hsyncNondisp.toNat ∧
        8 ∣ t.hsyncNondisp.toNat - (t.hsyncFinetune.toNat + 2) := by
  have hreg : regs 0x16 =
      lowByte (((t.hsyncNondisp.toNat : ℤ) - t.hsyncFinetune.toNat - 2).tdiv 8) :=
    hregs (0x16, lowByte (((t.hsyncNondisp.toNat : ℤ) - t.hsyncFinetune.toNat - 2).tdiv 8))
      (by simp [Timing.registers])
  have hnondisp := nondisp_iff t.hsyncNondisp.toNat_lt hfine
  have htuned := finetune_register hregs
  rw [← hreg] at hnondisp
  change ((regs 0x16).toNat : ℤ) * 8 + ((regs 0x15).toNat : ℤ) % 128 + 2 = _ ↔ _
  rw [htuned, Int.emod_eq_of_lt (by omega) (by omega)]
  exact hnondisp

theorem readTiming_hsyncStart : (readTiming regs).hsyncStart = (asked t).hsyncStart ↔
    8 ≤ t.hsyncStart.toNat ∧ 8 ∣ t.hsyncStart.toNat := by
  have hreg : regs 0x17 = lowByte ((t.hsyncStart.toNat : ℤ).tdiv 8 - 1) :=
    hregs (0x17, lowByte ((t.hsyncStart.toNat : ℤ).tdiv 8 - 1)) (by simp [Timing.registers])
  have hlt := t.hsyncStart.toNat_lt
  change (((regs 0x17).toNat : ℤ) + 1) * 8 = t.hsyncStart.toNat ↔ _
  rw [hreg, eights_iff]
  omega

theorem readTiming_hsyncPulse : ((readTiming regs).hsyncPulseHigh = (asked t).hsyncPulseHigh ∧
    (readTiming regs).hsyncPulse = (asked t).hsyncPulse) ↔
      8 ≤ t.hsyncPw.toNat ∧ 8 ∣ t.hsyncPw.toNat := by
  have hreg : regs 0x18 = lowByte ((t.hsyncPw.toNat : ℤ).tdiv 8 - 1) :=
    hregs (0x18, lowByte ((t.hsyncPw.toNat : ℤ).tdiv 8 - 1)) (by simp [Timing.registers])
  change decide (128 ≤ (regs 0x18).toNat) = false ∧
    (((regs 0x18).toNat : ℤ) % 128 + 1) * 8 = t.hsyncPw.toNat ↔ _
  rw [decide_eq_false_iff_not, Nat.not_le, hreg]
  exact pulse_eights_iff t.hsyncPw.toNat_lt

theorem bottom_pair {low : UInt8} (hlow : (low, (t.height - 1 + t.voffset).toUInt8) ∈ t.registers)
    (hhigh : (low + 1, highByte (t.height - 1 + t.voffset)) ∈ t.registers) :
    pair regs low = (t.height.toNat + t.voffset.toNat + 65535) % 65536 := by
  have hword := word_toNat (t.height - 1 + t.voffset)
  rw [toNat_bottom] at hword
  unfold pair
  rw [hregs _ hlow, hregs _ hhigh]
  exact_mod_cast hword

theorem readTiming_lines : (readTiming regs).lines = (asked t).lines ↔
    1 ≤ t.height.toNat + t.voffset.toNat ∧ t.height.toNat + t.voffset.toNat ≤ 65536 := by
  have hpair : pair regs 0x19 = _ := bottom_pair hregs (by simp [Timing.registers])
    (by simp [Timing.registers])
  have hheight := t.height.toNat_lt
  have hoffset := t.voffset.toNat_lt
  change pair regs 0x19 + 1 = (t.height.toNat : ℤ) + t.voffset.toNat ↔ _
  rw [hpair]
  omega

theorem readTiming_vsyncNondisp : (readTiming regs).vsyncNondisp = (asked t).vsyncNondisp ↔
    ¬ 256 ∣ t.vsyncNondisp.toNat := by
  have hlow : regs 0x1B = (t.vsyncNondisp - 1).toUInt8 :=
    hregs (0x1B, (t.vsyncNondisp - 1).toUInt8) (by simp [Timing.registers])
  have hhigh : regs 0x1C = highByte t.vsyncNondisp :=
    hregs (0x1C, highByte t.vsyncNondisp) (by simp [Timing.registers])
  change ((regs 0x1B).toNat : ℤ) + 256 * (regs 0x1C).toNat + 1 = _ ↔ _
  rw [hlow, hhigh]
  exact vertical_iff t.vsyncNondisp

theorem readTiming_vsyncStart : (readTiming regs).vsyncStart = (asked t).vsyncStart ↔
    ¬ 256 ∣ t.vsyncStart.toNat := by
  have hlow : regs 0x1D = (t.vsyncStart - 1).toUInt8 :=
    hregs (0x1D, (t.vsyncStart - 1).toUInt8) (by simp [Timing.registers])
  have hhigh : regs 0x1E = highByte t.vsyncStart :=
    hregs (0x1E, highByte t.vsyncStart) (by simp [Timing.registers])
  change ((regs 0x1D).toNat : ℤ) + 256 * (regs 0x1E).toNat + 1 = _ ↔ _
  rw [hlow, hhigh]
  exact vertical_iff t.vsyncStart

theorem readTiming_vsyncPulse : ((readTiming regs).vsyncPulseHigh = (asked t).vsyncPulseHigh ∧
    (readTiming regs).vsyncPulse = (asked t).vsyncPulse) ↔
      1 ≤ t.vsyncPw.toNat ∧ t.vsyncPw.toNat ≤ 128 := by
  have hreg : regs 0x1F = 0x00 + t.vsyncPw - 1 :=
    hregs (0x1F, 0x00 + t.vsyncPw - 1) (by simp [Timing.registers])
  have hpulse := toNat_pulse t.vsyncPw
  have hlt := t.vsyncPw.toNat_lt
  rw [← hreg] at hpulse
  change decide (128 ≤ (regs 0x1F).toNat) = false ∧
    ((regs 0x1F).toNat : ℤ) % 128 + 1 = t.vsyncPw.toNat ↔ _
  rw [decide_eq_false_iff_not]
  omega

theorem readTiming_left : (readTiming regs).left = (asked t).left := by
  have hlow : regs 0x30 = 0 := hregs (0x30, 0) (by simp [Timing.registers])
  have hhigh : regs 0x31 = 0 := hregs (0x31, 0) (by simp [Timing.registers])
  change ((regs 0x30).toNat : ℤ) + 256 * (regs 0x31).toNat = 0
  rw [hlow, hhigh]
  rfl

theorem readTiming_right (hwidth : 1 ≤ t.width.toNat) :
    (readTiming regs).right = (asked t).right := by
  have hlow : regs 0x34 = (t.width - 1).toUInt8 :=
    hregs (0x34, (t.width - 1).toUInt8) (by simp [Timing.registers])
  have hhigh : regs 0x35 = highByte (t.width - 1) :=
    hregs (0x35, highByte (t.width - 1)) (by simp [Timing.registers])
  have hlt := t.width.toNat_lt
  change ((regs 0x34).toNat : ℤ) + 256 * (regs 0x35).toNat = (t.width.toNat : ℤ) - 1
  rw [hlow, hhigh, word_toNat, toNat_pred]
  omega

theorem readTiming_top : (readTiming regs).top = (asked t).top ↔
    t.voffset.toNat / 256 = t.voffset.toNat % 256 := by
  have hlow : regs 0x32 = t.voffset.toUInt8 :=
    hregs (0x32, t.voffset.toUInt8) (by simp [Timing.registers])
  have hhigh : regs 0x33 = t.voffset.toUInt8 :=
    hregs (0x33, t.voffset.toUInt8) (by simp [Timing.registers])
  change ((regs 0x32).toNat : ℤ) + 256 * (regs 0x33).toNat = _ ↔ _
  rw [hlow, hhigh]
  exact offset_iff t.voffset

theorem readTiming_bottom (hlines : 1 ≤ t.height.toNat + t.voffset.toNat ∧
    t.height.toNat + t.voffset.toNat ≤ 65536) :
    (readTiming regs).bottom = (asked t).bottom := by
  have hpair : pair regs 0x36 = _ := bottom_pair hregs (by simp [Timing.registers])
    (by simp [Timing.registers])
  change pair regs 0x36 = (t.height.toNat : ℤ) - 1 + t.voffset.toNat
  rw [hpair]
  omega

theorem readTiming_iff : readTiming regs = asked t ↔ Expressible t := by
  rw [PanelTiming.ext_iff]
  constructor
  · rintro ⟨width, enable, fine, nondisp, start, polarity, pulse, lines, vnondisp, vstart,
      vpolarity, vpulse, -, -, top, -⟩
    have hfine := (readTiming_finetune hregs).mp ⟨enable, fine⟩
    exact ⟨(readTiming_width hregs).mp width, hfine,
      (readTiming_hsyncNondisp hregs hfine).mp nondisp, (readTiming_hsyncStart hregs).mp start,
      (readTiming_hsyncPulse hregs).mp ⟨polarity, pulse⟩, (readTiming_lines hregs).mp lines,
      (readTiming_vsyncNondisp hregs).mp vnondisp, (readTiming_vsyncStart hregs).mp vstart,
      (readTiming_vsyncPulse hregs).mp ⟨vpolarity, vpulse⟩, (readTiming_top hregs).mp top⟩
  · intro h
    have hfine := (readTiming_finetune hregs).mpr h.finetune
    have hpulse := (readTiming_hsyncPulse hregs).mpr h.hsyncPw
    have hvpulse := (readTiming_vsyncPulse hregs).mpr h.vsyncPw
    exact ⟨(readTiming_width hregs).mpr h.width, hfine.1, hfine.2,
      (readTiming_hsyncNondisp hregs h.finetune).mpr h.hsyncNondisp,
      (readTiming_hsyncStart hregs).mpr h.hsyncStart, hpulse.1, hpulse.2,
      (readTiming_lines hregs).mpr h.lines, (readTiming_vsyncNondisp hregs).mpr h.vsyncNondisp,
      (readTiming_vsyncStart hregs).mpr h.vsyncStart, hvpulse.1, hvpulse.2, readTiming_left hregs,
      readTiming_right hregs (Nat.le_trans (by decide) h.width.1),
      (readTiming_top hregs).mpr h.voffset, readTiming_bottom hregs h.lines⟩

end ReadBack

/-- `RA8875_configure` leaves the timing that its arguments ask for exactly when they are
    within the limits; it changes no other register and no pixel. -/
theorem configure_round_trip (engine : TextEngine)
    (undefinedText : Format → CFloat → List UInt8) (t : Timing) (s : PanelState) :
    let u := finish (panel engine undefinedText) (ra8875Configure t) s
    (readTiming u.regs = asked t ↔ Expressible t) ∧ u.layers = s.layers ∧ u.completed = s.completed ∧
      ∀ reg ∉ t.registers.map Prod.fst, u.regs reg = s.regs reg := by
  intro u
  obtain ⟨hregs, hothers, hlayers, hcompleted⟩ :
    (∀ w ∈ t.registers, u.regs w.1 = w.2) ∧ _ := finish_configure t s
  exact ⟨readTiming_iff hregs, hlayers, hcompleted, hothers⟩

theorem lcdTiming_expressible : Expressible lcdTiming := by
  constructor <;> decide

def Avoids (L : List UInt8) : firmware.Op → Prop
  | .writeRegister reg _ | .writeCommand reg | .readRegister reg => reg ∉ L
  | _ => True

/-- The panel holds what was written, and no data byte goes there. -/
structure Held (written : List (UInt8 × UInt8)) (s : PanelState) : Prop where
  regs : ∀ w ∈ written, s.regs w.1 = w.2
  latch : s.latch ∉ written.map Prod.fst

section Runs
variable {engine : TextEngine} {undefinedText : Format → CFloat → List UInt8}
variable {written : List (UInt8 × UInt8)} {L : List UInt8}

theorem Held.store {s : PanelState} (hs : Held written s) {reg : UInt8}
    (hreg : reg ∉ written.map Prod.fst) (value : UInt8) : Held written (s.store reg value) := by
  refine ⟨fun w hw => ?_, hs.latch⟩
  have hne : w.1 ≠ reg := fun h => hreg (h ▸ List.mem_map_of_mem hw)
  rw [store_regs_of_ne hne]
  exact hs.regs w hw

theorem Held.command {s : PanelState} (hs : Held written s) (reg value : UInt8) :
    Held written (s.command reg value) := by
  have hlatch : (s.command reg value).latch = s.latch := by
    unfold PanelState.command
    split_ifs <;> rfl
  refine ⟨fun w hw => ?_, ?_⟩
  · rw [command_regs]
    exact hs.regs w hw
  · rw [hlatch]
    exact hs.latch

section Step
variable (hcursor : ∀ reg ∈ cursorRegisters, reg ∉ written.map Prod.fst)
include hcursor

theorem Held.data {s : PanelState} (hs : Held written s) (value : UInt8) :
    Held written (s.data engine value) := by
  unfold PanelState.data
  split_ifs
  · have hpaint : Held written (s.paint (engine.put value s.textInput)) := ⟨hs.regs, hs.latch⟩
    exact (((hpaint.store (hcursor _ (by decide)) _).store (hcursor _ (by decide)) _).store
      (hcursor _ (by decide)) _).store (hcursor _ (by decide)) _
  · exact (hs.store hs.latch value).command _ _

theorem held_write {s : PanelState} (hs : ∀ w ∈ written, s.regs w.1 = w.2) {reg : UInt8}
    (hreg : reg ∉ written.map Prod.fst) (value : UInt8) :
    Held written (s.step engine (.writeRegister reg value)) := by
  have hlatched : Held written { s with latch := reg } := ⟨hs, hreg⟩
  exact hlatched.data hcursor value

theorem held_step {o : firmware.Op} (ho : Avoids (written.map Prod.fst) o) {s : PanelState}
    (hs : Held written s) : Held written (s.step engine o) := by
  cases o with
  | writeRegister reg value => exact held_write hcursor hs.regs ho value
  | writeData value => exact hs.data hcursor value
  | writeCommand reg | readRegister reg => exact ⟨hs.regs, ho⟩
  | _ => exact ⟨hs.regs, hs.latch⟩

theorem hoare_held {α : Type} {p : Firmware α} (hp : Only (Avoids (written.map Prod.fst)) p) :
    Hoare (panel engine undefinedText) (Held written) p fun _ => Held written :=
  Hoare.of_only hp fun _ _ ho hs => held_step hcursor ho hs

end Step

def screenRegisters : List UInt8 := 0x02 :: (arrangeRegisters ++ drawRegisters)

variable (hL : ∀ reg ∈ screenRegisters, reg ∉ L)
include hL

theorem avoids_drawing {α : Type} {p : Firmware α} (hp : Only Drawing p) : Only (Avoids L) p := by
  refine hp.mono fun o ho => ?_
  cases o with
  | writeRegister reg value =>
    exact hL reg (List.mem_cons_of_mem _ (List.mem_append_right _ ho.1))
  | writeCommand reg =>
    obtain rfl : reg = 0x02 := ho
    exact hL 0x02 (by decide)
  | readRegister reg => exact ho.elim
  | _ => exact trivial

theorem avoids_arranging {α : Type} {p : Firmware α} (hp : Only Arranging p) :
    Only (Avoids L) p := by
  refine hp.mono fun o ho => ?_
  cases o with
  | writeRegister reg value =>
    exact hL reg (List.mem_cons_of_mem _ (List.mem_append_left _ ho))
  | readRegister reg =>
    obtain rfl : reg = 0xF1 := ho
    exact hL 0xF1 (by decide)
  | writeCommand reg => exact ho.elim
  | _ => exact trivial

theorem avoids_render {S : Screen} {draw : Firmware Unit} (h : render S = some draw) :
    Only (Avoids L) draw := by
  have hplain : ∀ {p rest : Firmware Unit}, p = (displayResetState >>= fun _ => rest) →
      Only Drawing rest → Only (Avoids L) p := by
    rintro _ rest rfl hrest
    exact (avoids_arranging hL resetState_arranging).bind fun _ => avoids_drawing hL hrest
  cases S with
  | mainNoLaps | mainLaps =>
    obtain rfl := Option.some.inj h
    obtain ⟨rest, heq, hrest⟩ := renderMainScreen_drawing _
    exact hplain heq hrest
  | debugNoRtd =>
    obtain rfl := Option.some.inj h
    obtain ⟨rest, heq, hrest⟩ := renderStaticDebugScreen_drawing
    exact hplain heq hrest
  | debugRtd =>
    obtain rfl := Option.some.inj h
    obtain ⟨rest, heq, hrest⟩ := usePrerenderedDebugRtd_drawing
    rw [heq]
    exact (avoids_arranging hL resetState_arranging).bind fun _ =>
      (avoids_arranging hL (bteMove_arranging _ _ _ _ _ _ _ _ _ _)).bind
        fun _ => avoids_drawing hL hrest
  | warn =>
    obtain rfl := Option.some.inj h
    obtain ⟨rest, heq, hrest⟩ := warn_drawing
    exact hplain heq hrest
  | other value outside => simp [render] at h

theorem avoids_switchScreen (next : Screen) : Only (Avoids L) (displaySwitchScreen next) := by
  refine ⟨trivial, fun _ => ⟨trivial, fun (S : Screen) => ?_⟩⟩
  change Only (Avoids L) (if S = next then pure () else _)
  split_ifs
  · exact trivial
  · cases hdraw : render next with
    | none => exact trivial
    | some draw => exact (avoids_render hL hdraw).bind fun _ => ⟨trivial, fun _ => trivial⟩

theorem avoids_prerender : Only (Avoids L) displayPrerenderDebugRtdLabels := by
  rw [prerender_eq]
  exact (avoids_arranging hL resetState_arranging).bind fun _ =>
    (avoids_drawing hL enableDrawMode_drawing).bind fun _ =>
      (avoids_drawing hL loadingPicture_drawing).bind fun _ =>
        avoids_arranging hL (bteMove_arranging _ _ _ _ _ _ _ _ _ _)

end Runs

def timingRegisters : List UInt8 := lcdTiming.registers.map Prod.fst

theorem screen_notMem_timing : ∀ reg ∈ screenRegisters, reg ∉ timingRegisters := by decide

theorem cursor_notMem_timing : ∀ reg ∈ cursorRegisters, reg ∉ timingRegisters := by decide

section Timekeeping
variable {engine : TextEngine} {undefinedText : Format → CFloat → List UInt8}

def Configured (s : PanelState) : Prop := Held lcdTiming.registers s

theorem hoare_configured {α : Type} {p : Firmware α} (hp : Only (Avoids timingRegisters) p) :
    Hoare (panel engine undefinedText) Configured p fun _ => Configured :=
  hoare_held cursor_notMem_timing hp

theorem Configured.timing {s : PanelState} (h : Configured s) :
    readTiming s.regs = asked lcdTiming :=
  (readTiming_iff h.regs).mpr lcdTiming_expressible

theorem configured_cleared (s : PanelState) :
    Configured (finish (panel engine undefinedText)
      (ra8875Configure lcdTiming >>= fun _ => ra8875Clear) s) := by
  have hregs : ∀ w ∈ lcdTiming.registers,
      (finish (panel engine undefinedText) (ra8875Configure lcdTiming) s).regs w.1 = w.2 :=
    (finish_configure lcdTiming s).1
  have hclear : (0x8E : UInt8) ∉ timingRegisters := by decide
  rw [finish_bind]
  generalize finish (panel engine undefinedText) (ra8875Configure lcdTiming) s = u at hregs
  have hheld : Held lcdTiming.registers (u.step engine (.writeRegister 0x8E (0x80 ||| 0x00))) :=
    held_write cursor_notMem_timing hregs hclear _
  exact hheld

theorem configured_prerendered (layers : Fin 2 → PixelLayer) (tries : ℕ) :
    Configured (prerendered engine undefinedText layers tries) := by
  have hglyphs : Only (Avoids timingRegisters) displayPrecomputeGlyphs := by
    refine Only.forM _ _ fun i _ => ?_
    split
    · exact only_pure ()
    · exact (only_perform _).mpr trivial
  have hbrightness : (0x8B : UInt8) ∉ timingRegisters := by decide
  have hrest : Only (Avoids timingRegisters) (ra8875SetBacklightBrightness 0xFF >>= fun _ =>
      displaySetTextCursor 0 0 >>= fun _ => displayPrecomputeGlyphs) :=
    Only.bind ((only_perform _).mpr hbrightness) fun _ =>
      (avoids_arranging screen_notMem_timing (setTextCursor_arranging 0 0)).bind fun _ => hglyphs
  have hsplit : beforeScreens = (ra8875Configure lcdTiming >>= fun _ => ra8875Clear) >>= fun _ =>
      ra8875SetBacklightBrightness 0xFF >>= fun _ => displaySetTextCursor 0 0 >>= fun _ =>
        displayPrecomputeGlyphs := by
    unfold beforeScreens
    rw [bind_assoc]
  have hprepared : Configured (prepared engine undefinedText layers tries) := by
    unfold prepared
    rw [finish_bind, hsplit, finish_bind]
    exact (hoare_configured hrest).finish (configured_cleared _)
  unfold prerendered
  exact (hoare_configured (avoids_prerender screen_notMem_timing)).finish hprepared

theorem hoare_switchScreen_configured (next : Screen) :
    Hoare (panel engine undefinedText) Configured (displaySwitchScreen next) fun _ => Configured :=
  hoare_configured (avoids_switchScreen screen_notMem_timing next)

end Timekeeping

/-- At each loop head and whenever the task goes to sleep in main.c the panel is driven with
    the timing of display.c, and its active window is the whole panel: the registers hold
    what `RA8875_configure` wrote, and nothing that draws a screen names one of them. -/
theorem timing_kept (engine : TextEngine) (undefinedText : Format → CFloat → List UInt8)
    (layers : Fin 2 → PixelLayer) (tries : ℕ) :
    (∀ s, WheelReach engine undefinedText layers (tries + 1) (.ret true) s →
      readTiming s.panel.regs = asked lcdTiming ∧ Held lcdTiming.registers s.panel) ∧
    (∀ ms k s, WheelReach engine undefinedText layers (tries + 1) (.op (.vTaskDelay .main ms) k) s →
      readTiming s.panel.regs = asked lcdTiming ∧ Held lcdTiming.registers s.panel) ∧
    (∀ next, Only (Avoids timingRegisters) (displaySwitchScreen next)) ∧
    Only (Avoids timingRegisters) displayPrerenderDebugRtdLabels := by
  have hinit : Configured (finish (panel engine undefinedText) (displayInit (tries + 1))
      (.powerUp layers)) := by
    rw [finish_displayInit]
    exact (hoare_switchScreen_configured .debugNoRtd).finish (configured_prerendered layers tries)
  obtain ⟨hhead, hsleep⟩ := panel_invariant hinit hoare_switchScreen_configured
  exact ⟨fun s h => ⟨(hhead s h).timing, hhead s h⟩,
    fun ms k s h => ⟨(hsleep ms k s h).timing, hsleep ms k s h⟩,
    avoids_switchScreen screen_notMem_timing, avoids_prerender screen_notMem_timing⟩

theorem timing_kept_booted :
    (∃ s, WheelReach SparedRows.blockFont (fun _ _ => []) (fun _ _ _ => black) 1 (.ret true) s ∧
      DriveAutomaton.toggleCounts s.log = (1, 2) ∧ readTiming s.panel.regs = asked lcdTiming ∧
        Held lcdTiming.registers s.panel) ∧
    ∃ k s, WheelReach SparedRows.blockFont (fun _ _ => []) (fun _ _ _ => black) 1
        (.op (.vTaskDelay .main 500) k) s ∧
      readTiming s.panel.regs = asked lcdTiming ∧ Held lcdTiming.registers s.panel := by
  obtain ⟨⟨s, hs, hcounts⟩, k, u, hu⟩ :=
    rtd_reached SparedRows.blockFont (fun _ _ => []) (fun _ _ _ => black)
  have hkept := timing_kept SparedRows.blockFont (fun _ _ => []) (fun _ _ _ => black) 0
  exact ⟨⟨s, hs, hcounts, hkept.1 s hs⟩, k, u, hu, hkept.2.1 500 k u hu⟩

end SteeringDisplay.ScanTiming
