import SteeringDisplay.NumberDisplay
import Mathlib.Data.Int.Log

set_option autoImplicit false

/-!
# Coordinates with five decimals

A coordinate of `k` hundred-thousandths of a degree is rounded twice, to a `float`
and to five decimals.
-/
namespace SteeringDisplay.CoordinateDisplay
open ProgramTree FirmwareInterface NumberFormat DisplayScreens
open DecimalText ModeRegister NumberDisplay

def unitOf (q : ℚ) : ℚ := 2 ^ (Int.log 2 |q| - 23)

/-- The nearest number with a 24-bit significand. -/
def toFloat (q : ℚ) : ℚ :=
  let magnitude := roundHalfEven (|q| / unitOf q) * unitOf q
  if q < 0 then -magnitude else magnitude

def degrees (k : ℤ) : ℚ := k / 100000

def coordinateText (k : ℤ) : List UInt8 := signText (decide (k < 0)) ++ scaledText 5 k.natAbs

/-- From 128 degrees on the spacing of the significands is 2048 / 3125 of the last decimal. -/
def Survives (k : ℤ) : Prop :=
  k.natAbs < 12800000 ∨ 2048 * k.natAbs % 3125 < 1024 ∨ 2101 < 2048 * k.natAbs % 3125 ∨
    (2048 * k.natAbs % 3125 = 1024 ∨ 2048 * k.natAbs % 3125 = 2101) ∧ k.natAbs % 2 = 0

instance (k : ℤ) : Decidable (Survives k) := inferInstanceAs (Decidable (_ ∨ _))

theorem unitOf_pos (q : ℚ) : 0 < unitOf q := zpow_pos (by decide) _

theorem significand_nonneg (q : ℚ) : 0 ≤ roundHalfEven (|q| / unitOf q) :=
  le_roundHalfEven (by
    have hpos := unitOf_pos q
    push_cast
    positivity)

theorem abs_toFloat (q : ℚ) : |toFloat q| = roundHalfEven (|q| / unitOf q) * unitOf q := by
  have hcast : (0 : ℚ) ≤ roundHalfEven (|q| / unitOf q) := by exact_mod_cast significand_nonneg q
  have hmagnitude := abs_of_nonneg (mul_nonneg hcast (unitOf_pos q).le)
  unfold toFloat
  dsimp only
  split_ifs
  · rw [abs_neg, hmagnitude]
  · exact hmagnitude

theorem toFloat_near (q : ℚ) : abs (|toFloat q| - |q|) ≤ unitOf q / 2 := by
  have hpos := unitOf_pos q
  have hscale : |toFloat q| - |q| =
      (roundHalfEven (|q| / unitOf q) - |q| / unitOf q) * unitOf q := by
    rw [abs_toFloat]
    field_simp
  have hnear := roundHalfEven_near (|q| / unitOf q)
  rw [hscale, abs_mul, abs_of_pos hpos]
  calc _ ≤ 1 / 2 * unitOf q := mul_le_mul_of_nonneg_right hnear hpos.le
    _ = _ := by ring

theorem toFloat_neg_iff (q : ℚ) : toFloat q < 0 ↔ q < 0 := by
  have hpos := unitOf_pos q
  have hcast : (0 : ℚ) ≤ roundHalfEven (|q| / unitOf q) := by exact_mod_cast significand_nonneg q
  unfold toFloat
  dsimp only
  split_ifs with hneg
  · have hle : (2 : ℚ) ^ Int.log 2 |q| ≤ |q| :=
      Int.zpow_log_le_self (by decide) (abs_pos.mpr hneg.ne)
    have hunit : unitOf q ≤ |q| :=
      (zpow_le_zpow_right₀ (by norm_num) (by omega)).trans hle
    have hone : 1 ≤ roundHalfEven (|q| / unitOf q) :=
      le_roundHalfEven (by rw [Int.cast_one, le_div_iff₀ hpos, one_mul]; exact hunit)
    have hone' : (1 : ℚ) ≤ roundHalfEven (|q| / unitOf q) := by exact_mod_cast hone
    have hmagnitude : 0 < roundHalfEven (|q| / unitOf q) * unitOf q := by positivity
    exact iff_of_true (by linarith) hneg
  · exact iff_of_false (not_lt.mpr (mul_nonneg hcast hpos.le)) hneg

theorem unitOf_le {q : ℚ} (h : |q| < 128) : unitOf q ≤ 1 / 131072 := by
  have hlog : Int.log 2 |q| ≤ 6 := by
    rcases (abs_nonneg q).eq_or_lt with hzero | hpos
    · rw [← hzero, Int.log_zero_right]
      decide
    · have hlt : Int.log 2 |q| < 7 := (Int.lt_zpow_iff_log_lt (by decide) hpos).mp (by
        norm_num
        exact h)
      omega
  calc unitOf q ≤ (2 : ℚ) ^ (-17 : ℤ) := zpow_le_zpow_right₀ (by norm_num) (by omega)
    _ = 1 / 131072 := by norm_num

theorem unitOf_eq {q : ℚ} (hlow : 128 ≤ |q|) (hhigh : |q| < 256) : unitOf q = 1 / 65536 := by
  have hpos : 0 < |q| := by linarith
  have hlt : Int.log 2 |q| < 8 := (Int.lt_zpow_iff_log_lt (by decide) hpos).mp (by
    norm_num
    exact hhigh)
  have hge : 7 ≤ Int.log 2 |q| := (Int.zpow_le_iff_le_log (by decide) hpos).mp (by
    norm_num
    exact hlow)
  have hlog : Int.log 2 |q| = 7 := by omega
  unfold unitOf
  rw [hlog]
  norm_num

theorem abs_degrees (k : ℤ) : |degrees k| = (k.natAbs : ℚ) / 100000 := by
  unfold degrees
  rw [abs_div, Nat.cast_natAbs, Int.cast_abs]
  norm_num

def shownDecimals (k : ℤ) : ℤ := roundHalfEven (|toFloat (degrees k)| * 10 ^ 5)

theorem shown_of_small {k : ℤ} (hk : k.natAbs < 12800000) : shownDecimals k = k.natAbs := by
  have hdegrees := abs_degrees k
  have hk' : (k.natAbs : ℚ) < 12800000 := by exact_mod_cast hk
  have hunit : unitOf (degrees k) ≤ 1 / 131072 := by
    apply unitOf_le
    rw [hdegrees, div_lt_iff₀ (by norm_num)]
    linarith
  have hnear := abs_le.mp (toFloat_near (degrees k))
  unfold shownDecimals
  refine (roundHalfEven_eq_iff _ _).mpr (Or.inl ?_)
  rw [hdegrees] at hnear
  rw [abs_lt, Int.cast_natCast]
  constructor <;> linarith

theorem nearest_multiple {n : ℕ} {j d : ℤ} (hd : 3125 * j - 2048 * (n : ℤ) = d)
    (hup : 2 * d ≤ 3125) (hdown : -3125 ≤ 2 * d) :
    (-1024 < d ∧ d < 1024 ∨ (d = 1024 ∨ d = -1024) ∧ (n : ℤ) % 2 = 0) ↔
      2048 * n % 3125 < 1024 ∨ 2101 < 2048 * n % 3125 ∨
        (2048 * n % 3125 = 1024 ∨ 2048 * n % 3125 = 2101) ∧ n % 2 = 0 := by
  -- `j` is the quotient of `2048 * n` by 3125 or the integer after it.
  have hdivision := Nat.div_add_mod (2048 * n) 3125
  have hlt := Nat.mod_lt (2048 * n) (show 3125 > 0 by decide)
  generalize 2048 * n / 3125 = t at hdivision
  generalize 2048 * n % 3125 = r at hdivision hlt ⊢
  have hrest : d = 3125 * (j - t) - r := by omega
  generalize j - (t : ℤ) = e at hrest
  have hquotient : e = 0 ∨ e = 1 := by omega
  have hparity : (n : ℤ) % 2 = 0 ↔ n % 2 = 0 := by omega
  rw [hparity]
  clear hd hdivision hparity
  rcases hquotient with rfl | rfl
  · omega
  · omega

theorem shown_of_large {k : ℤ} (hlow : 12800000 ≤ k.natAbs) (hhigh : k.natAbs ≤ 18000000) :
    shownDecimals k = k.natAbs ↔
      2048 * k.natAbs % 3125 < 1024 ∨ 2101 < 2048 * k.natAbs % 3125 ∨
        (2048 * k.natAbs % 3125 = 1024 ∨ 2048 * k.natAbs % 3125 = 2101) ∧ k.natAbs % 2 = 0 := by
  have hdegrees := abs_degrees k
  have hlow' : (12800000 : ℚ) ≤ k.natAbs := by exact_mod_cast hlow
  have hhigh' : (k.natAbs : ℚ) ≤ 18000000 := by exact_mod_cast hhigh
  have hunit : unitOf (degrees k) = 1 / 65536 := by
    apply unitOf_eq
    · rw [hdegrees, le_div_iff₀ (by norm_num)]
      linarith
    · rw [hdegrees, div_lt_iff₀ (by norm_num)]
      linarith
  have hnear := abs_le.mp (roundHalfEven_near (|degrees k| / unitOf (degrees k)))
  unfold shownDecimals
  rw [abs_toFloat, roundHalfEven_eq_iff]
  generalize roundHalfEven (|degrees k| / unitOf (degrees k)) = j at hnear ⊢
  rw [hunit, hdegrees] at hnear
  rw [hunit, Int.cast_natCast]
  generalize k.natAbs = n at hnear ⊢
  -- The distance of the two texts in units of 1 / 2048 of the last decimal.
  have hdistance : (j : ℚ) * (1 / 65536) * 10 ^ 5 - n = ((3125 * j - 2048 * n : ℤ) : ℚ) / 2048 := by
    push_cast
    ring
  have hup : ((3125 * j - 2048 * n : ℤ) : ℚ) ≤ 3125 / 2 := by
    push_cast
    linarith
  have hdown : (-3125 / 2 : ℚ) ≤ ((3125 * j - 2048 * n : ℤ) : ℚ) := by
    push_cast
    linarith
  rw [hdistance, abs_div, abs_of_pos (show (0 : ℚ) < 2048 by norm_num)]
  generalize hd : 3125 * j - 2048 * (n : ℤ) = d at hup hdown ⊢
  have hup' : 2 * d ≤ 3125 := by
    have hcast : ((2 * d : ℤ) : ℚ) ≤ (3125 : ℤ) := by
      push_cast
      linarith
    exact_mod_cast hcast
  have hdown' : -3125 ≤ 2 * d := by
    have hcast : ((-3125 : ℤ) : ℚ) ≤ (2 * d : ℤ) := by
      push_cast
      linarith
    exact_mod_cast hcast
  have hless : |(d : ℚ)| / 2048 < 1 / 2 ↔ -1024 < d ∧ d < 1024 := by
    rw [div_lt_iff₀ (by norm_num), ← Int.cast_abs, ← abs_lt]
    norm_num
    exact_mod_cast Iff.rfl
  have hequal : |(d : ℚ)| / 2048 = 1 / 2 ↔ d = 1024 ∨ d = -1024 := by
    rw [div_eq_iff (by norm_num), ← Int.cast_abs, ← abs_eq (by norm_num)]
    norm_num
    exact_mod_cast Iff.rfl
  rw [hless, hequal]
  exact nearest_multiple hd hup' hdown'

theorem shownDecimals_eq_iff {k : ℤ} (hk : k.natAbs ≤ 18000000) :
    shownDecimals k = k.natAbs ↔ Survives k := by
  unfold Survives
  rcases Nat.lt_or_ge k.natAbs 12800000 with hlow | hlow
  · exact iff_of_true (shown_of_small hlow) (Or.inl hlow)
  · have hnot : ¬ k.natAbs < 12800000 := Nat.not_lt.mpr hlow
    exact (shown_of_large hlow hk).trans (or_iff_right hnot).symm

theorem numberText_degrees (k : ℤ) :
    numberText true (toFloat (degrees k)) =
      signText (decide (k < 0)) ++ scaledText 5 (shownDecimals k).toNat := by
  have hsign : (toFloat (degrees k) < 0) ↔ k < 0 := by
    rw [toFloat_neg_iff]
    unfold degrees
    rw [div_lt_iff₀ (by norm_num), zero_mul]
    exact_mod_cast Iff.rfl
  change signText (decide (toFloat (degrees k) < 0)) ++ scaledText 5 (shownDecimals k).toNat = _
  rw [decide_eq_decide.mpr hsign]

theorem shownDecimals_nonneg (k : ℤ) : 0 ≤ shownDecimals k :=
  le_roundHalfEven (by
    push_cast
    positivity)

theorem scaledText_injective {a b : ℕ} (h : scaledText 5 a = scaledText 5 b) : a = b := by
  have ha : readFixed (signText false ++ scaledText 5 a) = _ :=
    readFixed_scaledText (by decide) false a
  have hb : readFixed (signText false ++ scaledText 5 b) = _ :=
    readFixed_scaledText (by decide) false b
  rw [h, hb] at ha
  simp only [Bool.false_eq_true, if_false] at ha
  have hcast : (b : ℚ) = a := (div_left_inj' (by norm_num)).mp ha
  exact_mod_cast hcast.symm

theorem coordinateText_eq_iff {k : ℤ} (hk : k.natAbs ≤ 18000000) :
    numberText true (toFloat (degrees k)) = coordinateText k ↔ Survives k := by
  rw [← shownDecimals_eq_iff hk, numberText_degrees]
  have hnonneg := shownDecimals_nonneg k
  constructor
  · intro h
    have hscaled := scaledText_injective (List.append_cancel_left h)
    omega
  · intro h
    unfold coordinateText
    rw [h, Int.toNat_natCast]

theorem readFixed_coordinateText (k : ℤ) : readFixed (coordinateText k) = degrees k := by
  have hnat : (k.natAbs : ℚ) = |(k : ℚ)| := by
    rw [Nat.cast_natAbs, Int.cast_abs]
  unfold coordinateText degrees
  rw [readFixed_scaledText (by decide), hnat]
  by_cases hneg : k < 0
  · have hneg' : (k : ℚ) < 0 := by exact_mod_cast hneg
    rw [decide_eq_true hneg, if_pos rfl, abs_of_neg hneg']
    ring
  · have hpos : (0 : ℚ) ≤ k := by exact_mod_cast not_lt.mp hneg
    rw [decide_eq_false hneg, if_neg (by decide), abs_of_nonneg hpos]
    norm_num

theorem coordinateText_injective {k k' : ℤ} (h : coordinateText k = coordinateText k') : k = k' := by
  have hread := congrArg readFixed h
  rw [readFixed_coordinateText, readFixed_coordinateText] at hread
  have hcast : (k : ℚ) = k' := (div_left_inj' (by norm_num)).mp hread
  exact_mod_cast hcast

theorem toFloat_within {k : ℤ} (hk : k.natAbs ≤ 18000000) :
    |toFloat (degrees k)| ≤ largest true := by
  have hdegrees := abs_degrees k
  have hk' : (k.natAbs : ℚ) ≤ 18000000 := by exact_mod_cast hk
  have hbound : |degrees k| ≤ 180 := by
    rw [hdegrees, div_le_iff₀ (by norm_num)]
    linarith
  have hunit : unitOf (degrees k) ≤ 1 := by
    rcases lt_or_ge |degrees k| 128 with hsmall | hlarge
    · exact (unitOf_le hsmall).trans (by norm_num)
    · rw [unitOf_eq hlarge (by linarith)]
      norm_num
  have hnear := abs_le.mp (toFloat_near (degrees k))
  change _ ≤ (99999999 / 100000 : ℚ)
  linarith

section Sent
variable (oracle : ℕ → (o : Op) → o.Res) (s : Controller) (x y : UInt16)

def sentFor (k : ℤ) : List Op :=
  transactions (trace (controller oracle)
    (displayWriteNumberAt x y false (.finite (toFloat (degrees k))) true) s)

end Sent

section Coordinates
variable {oracle : ℕ → (o : Op) → o.Res} {s : Controller} {x y : UInt16} {k k' : ℤ}

theorem sentFor_eq_iff (hs : s.statics.currentFont = .internal) (hk : k.natAbs ≤ 18000000) :
    sentFor oracle s x y k = textWrites x y (coordinateText k) ↔ Survives k := by
  unfold sentFor
  rw [transactions_fraction hs x y (absurd · Bool.false_ne_true) (toFloat_within hk), ← coordinateText_eq_iff hk]
  exact ⟨textWrites_injective, congrArg _⟩

/-- A coordinate of less than 128 degrees is shown as it is; a larger one where the nearest
    significand is close enough. -/
theorem coordinates_survive (hs : s.statics.currentFont = .internal) (hk : k.natAbs ≤ 18000000)
    (hk' : k'.natAbs ≤ 18000000) :
    (sentFor oracle s x y k = textWrites x y (coordinateText k) ↔ Survives k) ∧
      (Survives k → Survives k' → k ≠ k' → sentFor oracle s x y k ≠ sentFor oracle s x y k') := by
  refine ⟨sentFor_eq_iff hs hk, fun h h' hne hsame => hne ?_⟩
  have hsent : sentFor oracle s x y k = textWrites x y (coordinateText k) :=
    (sentFor_eq_iff hs hk).mpr h
  have hsent' : sentFor oracle s x y k' = textWrites x y (coordinateText k') :=
    (sentFor_eq_iff hs hk').mpr h'
  rw [hsent, hsent'] at hsame
  exact coordinateText_injective (textWrites_injective hsame)

end Coordinates

theorem coordinates_survive_neighbours :
    (sentFor (fun _ o => o.quietAnswer .initial) .powerUp 0 0 854172 =
        textWrites 0 0 (coordinateText 854172) ↔ Survives 854172) ∧
      (Survives 854172 → Survives 854173 → (854172 : ℤ) ≠ 854173 →
        sentFor (fun _ o => o.quietAnswer .initial) .powerUp 0 0 854172 ≠
          sentFor (fun _ o => o.quietAnswer .initial) .powerUp 0 0 854173) :=
  coordinates_survive rfl (by decide) (by decide)

theorem coordinate_lost :
    sentFor (fun _ o => o.quietAnswer .initial) .powerUp 0 0 12800001 ≠
      textWrites 0 0 (coordinateText 12800001) := by
  intro h
  exact absurd ((sentFor_eq_iff rfl (by decide)).mp h) (by decide)

end SteeringDisplay.CoordinateDisplay
