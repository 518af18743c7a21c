import SteeringDisplay.DecimalText
import SteeringDisplay.ModeRegister
import Mathlib.Data.List.TakeWhile

set_option autoImplicit false

/-!
# The characters a number sends

What `Display_WriteNumberAt` sends in the internal font.
-/
namespace SteeringDisplay.NumberDisplay
open ProgramTree FirmwareInterface PanelDriver NumberFormat DisplayScreens
open DecimalText ModeRegister

def transactions (ops : List Op) : List Op := ops.filter Op.transacts

def cursorWrites (x y : UInt16) : List Op :=
  [.writeRegister 0x2A (x &&& 0xFF).toUInt8, .writeRegister 0x2B (highByte x),
   .writeRegister 0x2C (y &&& 0xFF).toUInt8, .writeRegister 0x2D (highByte y)]

def textWrites (x y : UInt16) (text : List UInt8) : List Op :=
  cursorWrites x y ++ .writeCommand 0x02 :: text.map .writeData

section Traces
variable {oracle : ℕ → (o : Op) → o.Res} {s : Controller}

theorem trace_sendCharacters (text : List UInt8) (s : Controller) :
    trace (controller oracle) (sendCharacters text) s =
      (text.takeWhile (· ≠ 0)).map .writeData := by
  induction text generalizing s with
  | nil => rfl
  | cons ch text ih =>
    unfold sendCharacters
    split_ifs with hzero
    · rw [List.takeWhile_cons_of_neg (by simp [hzero])]
      rfl
    · rw [List.takeWhile_cons_of_pos (by simp [hzero]), trace_bind, ih]
      rfl

theorem transactions_writeTextAt (hs : s.statics.currentFont = .internal) (x y : UInt16)
    (text : List UInt8) :
    transactions (trace (controller oracle) (displayWriteTextAt x y text) s) =
      textWrites x y (text.takeWhile (· ≠ 0)) := by
  have hcursor : ∀ t, trace (controller oracle) (displaySetTextCursor x y) t = cursorWrites x y :=
    fun _ => rfl
  have hsent : ∀ bytes : List UInt8,
      transactions (bytes.map .writeData) = bytes.map .writeData := by
    intro bytes
    refine List.filter_eq_self.mpr fun o ho => ?_
    obtain ⟨b, _, rfl⟩ := List.mem_map.mp ho
    rfl
  unfold displayWriteTextAt writeTextAt
  rw [trace_loadCurrentFont hs]
  dsimp only
  rw [trace_bind, hcursor, trace_bind, trace_sendCharacters]
  change transactions (cursorWrites x y ++ .writeCommand 0x02 :: _) = _
  unfold transactions textWrites
  rw [List.filter_append, List.filter_cons_of_pos rfl]
  exact congrArg (cursorWrites x y ++ .writeCommand 0x02 :: ·) (hsent _)

theorem textWrites_injective {x y : UInt16} {a b : List UInt8}
    (h : textWrites x y a = textWrites x y b) : a = b := by
  have hmap := (List.cons_eq_cons.mp (List.append_cancel_left h)).2
  exact List.map_injective_iff.mpr (fun _ _ hab => Op.writeData.inj hab) hmap

end Traces

def intText (n : ℤ) : List UInt8 := signText (decide (n < 0)) ++ natText n.natAbs

/-- What the C library prints at this moment where `%d` is given the `double` of `n`. -/
def printed (oracle : ℕ → (o : Op) → o.Res) (s : Controller) (n : ℤ) : List UInt8 :=
  oracle s.steps (.undefinedText .d (.finite n))

section Whole
variable {oracle : ℕ → (o : Op) → o.Res} {s : Controller}

theorem transactions_whole (hs : s.statics.currentFont = .internal) (x y : UInt16) (n : ℤ) :
    transactions (trace (controller oracle) (displayWriteNumberAt x y true (.finite n) false) s) =
      textWrites x y (((printed oracle s n).take 7).takeWhile (· ≠ 0)) := by
  have hnumber : displayWriteNumberAt x y true (.finite n) false =
      (snprintf 8 .d (.finite n) >>= fun text => displayWriteTextAt x y text) := rfl
  have hprint : run (controller oracle) (snprintf 8 .d (.finite n)) s =
      ((printed oracle s n).take 7, (controller oracle (.undefinedText .d (.finite n)) s).2) := rfl
  have hopen : trace (controller oracle) (snprintf 8 .d (.finite n)) s =
      [.undefinedText .d (.finite n)] := rfl
  have hfont : (controller oracle (.undefinedText .d (.finite n)) s).2.statics.currentFont =
      .internal := hs
  rw [hnumber, trace_bind, hprint, hopen]
  exact transactions_writeTextAt hfont x y _

/-- The characters depend on what the C library prints for an argument of the wrong type. -/
theorem whole_numbers_undefined (hs : s.statics.currentFont = .internal) (x y : UInt16) (n : ℤ) :
    (∀ oracle, transactions (trace (controller oracle)
        (displayWriteNumberAt x y true (.finite n) false) s) = textWrites x y (intText n) ↔
      ((printed oracle s n).take 7).takeWhile (· ≠ 0) = intText n) ∧
      ¬ ∀ oracle, transactions (trace (controller oracle)
        (displayWriteNumberAt x y true (.finite n) false) s) = textWrites x y (intText n) := by
  have hiff : ∀ oracle, transactions (trace (controller oracle)
      (displayWriteNumberAt x y true (.finite n) false) s) = textWrites x y (intText n) ↔
      ((printed oracle s n).take 7).takeWhile (· ≠ 0) = intText n := by
    intro oracle
    rw [transactions_whole hs]
    exact ⟨textWrites_injective, congrArg _⟩
  refine ⟨hiff, fun h => ?_⟩
  -- A library that prints nothing here keeps to the contract as well as any other.
  have hempty := (hiff fun _ o => o.quietAnswer .initial).mp (h _)
  have hshown : intText n ≠ [] := List.append_ne_nil_of_right_ne_nil _ (natText_ne_nil _)
  exact hshown hempty.symm

end Whole

theorem whole_numbers_undefined_one :
    ¬ ∀ oracle, transactions (trace (controller oracle)
      (displayWriteNumberAt 0 0 true (.finite (1 : ℤ)) false) .powerUp) =
        textWrites 0 0 (intText 1) :=
  (whole_numbers_undefined rfl 0 0 1).2

theorem one_not_shown :
    transactions (trace (controller fun _ o => o.quietAnswer .initial)
      (displayWriteNumberAt 0 0 true (.finite (1 : ℤ)) false) .powerUp) ≠
        textWrites 0 0 (intText 1) := by
  intro h
  have hnone : textWrites 0 0 [] = textWrites 0 0 (intText 1) :=
    (transactions_whole rfl 0 0 1).symm.trans h
  have hone : intText 1 = [49] := by
    unfold intText
    rw [show (1 : ℤ).natAbs = 1 from rfl, natText_small (by decide)]
    rfl
  have hempty := textWrites_injective hnone
  rw [hone] at hempty
  exact List.cons_ne_nil _ _ hempty.symm

def decimals (hasManyDigits : Bool) : ℕ := if hasManyDigits then 5 else 2

/-- The largest values that the comments on the buffers name, 999.99999 and 999.99. -/
def largest (hasManyDigits : Bool) : ℚ :=
  if hasManyDigits then 99999999 / 100000 else 99999 / 100

def numberText (hasManyDigits : Bool) (q : ℚ) : List UInt8 :=
  fixedText (decimals hasManyDigits) (.finite q)

theorem decimals_ne_zero (hasManyDigits : Bool) : decimals hasManyDigits ≠ 0 := by
  cases hasManyDigits <;> decide

theorem digits_ne_zero {text : List UInt8} (h : Digits text) : ∀ b ∈ text, b ≠ 0 := by
  rintro b hb rfl
  exact absurd (h 0 hb).1 (by decide)

theorem fixedText_ne_zero (precision : ℕ) (q : ℚ) :
    ∀ b ∈ fixedText precision (.finite q), b ≠ 0 := by
  have hsign : ∀ negative, ∀ b ∈ signText negative, b ≠ 0 := by decide
  intro b hb
  unfold fixedText scaledText at hb
  rcases List.mem_append.mp hb with hb | hb
  · exact hsign _ b hb
  rcases List.mem_append.mp hb with hb | hb
  · exact digits_ne_zero (natText_digits _) b hb
  · split_ifs at hb
    · exact absurd hb List.not_mem_nil
    · rcases List.mem_cons.mp hb with rfl | hb
      · decide
      · exact digits_ne_zero (fractionText_digits _ _) b hb

theorem takeWhile_fixedText (precision : ℕ) (q : ℚ) :
    (fixedText precision (.finite q)).takeWhile (· ≠ 0) = fixedText precision (.finite q) :=
  List.takeWhile_eq_self_iff.mpr fun b hb => by simpa using fixedText_ne_zero precision q b hb

theorem fixedText_length {precision : ℕ} {q : ℚ} (bound : ℕ) (hbound : bound < 10 ^ (precision + 3))
    (hq : |q| * 10 ^ precision ≤ bound) :
    (fixedText precision (.finite q)).length ≤ 5 + precision := by
  have hscaled : (roundHalfEven (|q| * 10 ^ precision)).toNat ≤ bound := by
    have hround : roundHalfEven (|q| * 10 ^ precision) ≤ (bound : ℤ) :=
      roundHalfEven_le (by exact_mod_cast hq)
    omega
  have hwhole : (roundHalfEven (|q| * 10 ^ precision)).toNat / 10 ^ precision < 10 ^ 3 := by
    rw [Nat.div_lt_iff_lt_mul (by positivity), ← Nat.pow_add, Nat.add_comm 3]
    omega
  have hdigits := natText_length (by decide) hwhole
  have hsign : ∀ negative, (signText negative).length ≤ 1 := by decide
  have hsign' := hsign (decide (q < 0))
  unfold fixedText scaledText
  rw [List.length_append, List.length_append]
  split_ifs
  · rw [List.length_nil]
    omega
  · rw [List.length_cons, fractionText_length]
    omega

theorem readFixed_near {precision : ℕ} (hprecision : precision ≠ 0) (q : ℚ) :
    |readFixed (fixedText precision (.finite q)) - q| ≤ 1 / 2 / 10 ^ precision := by
  have hpow : (0 : ℚ) < 10 ^ precision := by positivity
  have hnonneg : 0 ≤ roundHalfEven (|q| * 10 ^ precision) :=
    le_roundHalfEven (by push_cast; positivity)
  have hcast : (((roundHalfEven (|q| * 10 ^ precision)).toNat : ℕ) : ℚ) =
      roundHalfEven (|q| * 10 ^ precision) := by
    exact_mod_cast Int.toNat_of_nonneg hnonneg
  have hnear := roundHalfEven_near (|q| * 10 ^ precision)
  have hmagnitude : abs (((roundHalfEven (|q| * 10 ^ precision)).toNat : ℚ) / 10 ^ precision - |q|) ≤
      1 / 2 / 10 ^ precision := by
    have hscale : ((roundHalfEven (|q| * 10 ^ precision)).toNat : ℚ) / 10 ^ precision - |q| =
        (roundHalfEven (|q| * 10 ^ precision) - |q| * 10 ^ precision) / 10 ^ precision := by
      rw [hcast]
      field_simp
    rw [hscale, abs_div, abs_of_pos hpow]
    exact div_le_div_of_nonneg_right hnear hpow.le
  unfold fixedText
  rw [readFixed_scaledText hprecision]
  by_cases hneg : q < 0
  · rw [decide_eq_true hneg, if_pos rfl]
    rw [abs_of_neg hneg, ← abs_neg] at hmagnitude
    rw [abs_of_neg hneg]
    calc _ = |-(((roundHalfEven (-q * 10 ^ precision)).toNat : ℚ) / 10 ^ precision - -q)| := by
            congr 1
            ring
      _ ≤ _ := hmagnitude
  · rw [decide_eq_false hneg, if_neg (by simp)]
    rw [abs_of_nonneg (not_lt.mp hneg)] at hmagnitude ⊢
    exact hmagnitude

/-- The value `isWholeNumber` is looked at only where `hasManyDigits` is not set. -/
theorem displayWriteNumberAt_fraction (x y : UInt16) {isWholeNumber hasManyDigits : Bool} {q : ℚ}
    (hformat : isWholeNumber = true → hasManyDigits = true) (hq : |q| ≤ largest hasManyDigits) :
    displayWriteNumberAt x y isWholeNumber (.finite q) hasManyDigits =
      displayWriteTextAt x y (numberText hasManyDigits q) := by
  cases hasManyDigits with
  | true =>
    have hscaled : |q| * 10 ^ 5 ≤ (99999999 : ℕ) := by
      change |q| ≤ 99999999 / 100000 at hq
      push_cast
      linarith
    have hlength : (fixedText 5 (.finite q)).length ≤ 10 := fixedText_length _ (by decide) hscaled
    change displayWriteTextAt x y ((fixedText 5 (.finite q)).take 10) = _
    rw [List.take_of_length_le hlength]
    rfl
  | false =>
    obtain rfl : isWholeNumber = false := by
      cases isWholeNumber with
      | true => exact (hformat rfl).symm
      | false => rfl
    have hscaled : |q| * 10 ^ 2 ≤ (99999 : ℕ) := by
      change |q| ≤ 99999 / 100 at hq
      push_cast
      linarith
    have hlength : (fixedText 2 (.finite q)).length ≤ 7 := fixedText_length _ (by decide) hscaled
    change displayWriteTextAt x y ((fixedText 2 (.finite q)).take 7) = _
    rw [List.take_of_length_le hlength]
    rfl

theorem transactions_fraction {oracle : ℕ → (o : Op) → o.Res} {s : Controller}
    (hs : s.statics.currentFont = .internal) (x y : UInt16) {isWholeNumber hasManyDigits : Bool}
    {q : ℚ} (hformat : isWholeNumber = true → hasManyDigits = true)
    (hq : |q| ≤ largest hasManyDigits) :
    transactions (trace (controller oracle)
      (displayWriteNumberAt x y isWholeNumber (.finite q) hasManyDigits) s) =
        textWrites x y (numberText hasManyDigits q) := by
  rw [displayWriteNumberAt_fraction x y hformat hq, transactions_writeTextAt hs]
  exact congrArg (textWrites x y) (takeWhile_fixedText _ q)

theorem fractional_values_complete (x y : UInt16) (isWholeNumber hasManyDigits : Bool) (q : ℚ)
    (hformat : isWholeNumber = true → hasManyDigits = true) (hq : |q| ≤ largest hasManyDigits) :
    displayWriteNumberAt x y isWholeNumber (.finite q) hasManyDigits =
        displayWriteTextAt x y (numberText hasManyDigits q) ∧
      (∀ oracle s, s.statics.currentFont = .internal →
        transactions (trace (controller oracle)
          (displayWriteNumberAt x y isWholeNumber (.finite q) hasManyDigits) s) =
            textWrites x y (numberText hasManyDigits q)) ∧
      |readFixed (numberText hasManyDigits q) - q| ≤ 1 / 2 / 10 ^ decimals hasManyDigits :=
  ⟨displayWriteNumberAt_fraction x y hformat hq,
    fun _ _ hs => transactions_fraction hs x y hformat hq,
    readFixed_near (decimals_ne_zero hasManyDigits) q⟩

theorem fractional_values_complete_lowest :
    |readFixed (numberText false (-99999 / 100)) - -99999 / 100| ≤ 1 / 2 / 10 ^ decimals false :=
  (fractional_values_complete 0 0 false false (-99999 / 100) id (by
    change |(-99999 / 100 : ℚ)| ≤ 99999 / 100
    norm_num [abs_le])).2.2

end SteeringDisplay.NumberDisplay
