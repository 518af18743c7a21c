import SteeringDisplay.NumberFormat
import Mathlib.Data.Nat.Digits.Lemmas
import Mathlib.Tactic.Linarith
import Mathlib.Tactic.FieldSimp
import Mathlib.Tactic.Positivity
import Mathlib.Tactic.Ring

set_option autoImplicit false

/-!
# Decimal text and its value

What the texts of `NumberFormat` read back as, and how long they are.
-/
namespace SteeringDisplay.DecimalText
open FirmwareInterface NumberFormat

theorem roundHalfEven_cases (q : ℚ) :
    (roundHalfEven q = ⌊q⌋ ∧ q - ⌊q⌋ ≤ 1 / 2 ∧ (q - ⌊q⌋ = 1 / 2 → ⌊q⌋ % 2 = 0)) ∨
      (roundHalfEven q = ⌊q⌋ + 1 ∧ 1 / 2 ≤ q - ⌊q⌋ ∧ (q - ⌊q⌋ = 1 / 2 → ⌊q⌋ % 2 = 1)) := by
  have hfloor : q.floor = ⌊q⌋ := rfl
  unfold roundHalfEven
  rw [hfloor]
  dsimp only
  split_ifs with hlow hhigh heven
  · exact Or.inl ⟨rfl, hlow.le, fun h => absurd h hlow.ne⟩
  · exact Or.inr ⟨rfl, hhigh.le, fun h => absurd h hhigh.ne'⟩
  · exact Or.inl ⟨rfl, not_lt.mp hhigh, fun _ => heven⟩
  · exact Or.inr ⟨rfl, not_lt.mp hlow, fun _ => by omega⟩

theorem roundHalfEven_near (q : ℚ) : |(roundHalfEven q : ℚ) - q| ≤ 1 / 2 := by
  have hlow := Int.floor_le q
  have hhigh := Int.lt_floor_add_one q
  rcases roundHalfEven_cases q with ⟨h, hle, _⟩ | ⟨h, hle, _⟩
  · rw [h, abs_le]
    constructor <;> linarith
  · rw [h, abs_le]
    push_cast
    constructor <;> linarith

theorem roundHalfEven_tie (q : ℚ) :
    |q - roundHalfEven q| < 1 / 2 ∨ |q - roundHalfEven q| = 1 / 2 ∧ roundHalfEven q % 2 = 0 := by
  have hlow := Int.floor_le q
  have hhigh := Int.lt_floor_add_one q
  rcases roundHalfEven_cases q with ⟨h, hle, htie⟩ | ⟨h, hle, htie⟩
  · have habs : |q - ⌊q⌋| = q - ⌊q⌋ := abs_of_nonneg (by linarith)
    rw [h, habs]
    rcases hle.lt_or_eq with hlt | heq
    · exact Or.inl hlt
    · exact Or.inr ⟨heq, htie heq⟩
  · have habs : |q - (⌊q⌋ + 1 : ℤ)| = 1 - (q - ⌊q⌋) := by
      push_cast
      rw [abs_of_nonpos (by linarith)]
      ring
    rw [h, habs]
    rcases hle.lt_or_eq with hlt | heq
    · exact Or.inl (by linarith)
    · have hodd := htie heq.symm
      exact Or.inr ⟨by linarith, by omega⟩

theorem roundHalfEven_eq_iff (q : ℚ) (n : ℤ) :
    roundHalfEven q = n ↔ |q - n| < 1 / 2 ∨ |q - n| = 1 / 2 ∧ n % 2 = 0 := by
  constructor
  · rintro rfl
    exact roundHalfEven_tie q
  · intro hn
    have hle : |q - n| ≤ 1 / 2 := hn.elim le_of_lt fun h => h.1.le
    have hnear := abs_le.mp hle
    have hround := abs_le.mp (roundHalfEven_near q)
    have hup : (roundHalfEven q : ℚ) ≤ n + 1 := by linarith
    have hdown : (n : ℚ) ≤ roundHalfEven q + 1 := by linarith
    have hup' : roundHalfEven q ≤ n + 1 := by exact_mod_cast hup
    have hdown' : n ≤ roundHalfEven q + 1 := by exact_mod_cast hdown
    rcases hn with hlt | ⟨_, heven⟩
    · have hstrict := abs_lt.mp hlt
      have hup'' : (roundHalfEven q : ℚ) < n + 1 := by linarith
      have hdown'' : (n : ℚ) < roundHalfEven q + 1 := by linarith
      have hup3 : roundHalfEven q < n + 1 := by exact_mod_cast hup''
      have hdown3 : n < roundHalfEven q + 1 := by exact_mod_cast hdown''
      omega
    · rcases roundHalfEven_tie q with hlt | ⟨_, heven'⟩
      · have hstrict := abs_lt.mp hlt
        have hup'' : (roundHalfEven q : ℚ) < n + 1 := by linarith
        have hdown'' : (n : ℚ) < roundHalfEven q + 1 := by linarith
        have hup3 : roundHalfEven q < n + 1 := by exact_mod_cast hup''
        have hdown3 : n < roundHalfEven q + 1 := by exact_mod_cast hdown''
        omega
      · omega

theorem roundHalfEven_le {q : ℚ} {n : ℤ} (h : q ≤ n) : roundHalfEven q ≤ n := by
  have hnear := abs_le.mp (roundHalfEven_near q)
  by_contra hlt
  have hnext : n + 1 ≤ roundHalfEven q := by omega
  have hcast : (n : ℚ) + 1 ≤ roundHalfEven q := by exact_mod_cast hnext
  linarith

theorem le_roundHalfEven {q : ℚ} {n : ℤ} (h : n ≤ q) : n ≤ roundHalfEven q := by
  have hnear := abs_le.mp (roundHalfEven_near q)
  by_contra hlt
  have hnext : roundHalfEven q + 1 ≤ n := by omega
  have hcast : (roundHalfEven q : ℚ) + 1 ≤ n := by exact_mod_cast hnext
  linarith

def readDigits (text : List UInt8) : ℕ := text.foldl (fun value b => 10 * value + (b.toNat - 48)) 0

def Digits (text : List UInt8) : Prop := ∀ b ∈ text, 48 ≤ b.toNat ∧ b.toNat < 58

theorem digitByte_toNat {d : ℕ} (h : d < 10) : (digitByte d).toNat = 48 + d := by
  unfold digitByte
  rw [UInt8.toNat_ofNat']
  omega

theorem readDigits_append (text : List UInt8) (b : UInt8) :
    readDigits (text ++ [b]) = 10 * readDigits text + (b.toNat - 48) := by
  unfold readDigits
  rw [List.foldl_append]
  rfl

theorem digits_append {text : List UInt8} (htext : Digits text) {d : ℕ} (h : d < 10) :
    Digits (text ++ [digitByte d]) := by
  intro b hb
  rcases List.mem_append.mp hb with hb | hb
  · exact htext b hb
  · rw [List.mem_singleton.mp hb, digitByte_toNat h]
    omega

theorem natText_small {n : ℕ} (h : n < 10) : natText n = [digitByte n] := by
  unfold natText
  split_ifs with hzero
  · rw [hzero]
  · rw [Nat.digits_of_lt 10 n hzero h]
    rfl

theorem natText_large {n : ℕ} (h : 10 ≤ n) :
    natText n = natText (n / 10) ++ [digitByte (n % 10)] := by
  unfold natText
  rw [if_neg (by omega), if_neg (by omega), Nat.digits_def' (by omega) (by omega),
    List.reverse_cons, List.map_append]
  rfl

theorem natText_digits (n : ℕ) : Digits (natText n) := by
  induction n using Nat.strong_induction_on with
  | _ n ih =>
    rcases Nat.lt_or_ge n 10 with h | h
    · rw [natText_small h]
      exact digits_append (fun b hb => absurd hb List.not_mem_nil) h
    · rw [natText_large h]
      exact digits_append (ih (n / 10) (by omega)) (by omega)

theorem readDigits_natText (n : ℕ) : readDigits (natText n) = n := by
  induction n using Nat.strong_induction_on with
  | _ n ih =>
    rcases Nat.lt_or_ge n 10 with h | h
    · have hone := readDigits_append [] (digitByte n)
      rw [natText_small h]
      rw [digitByte_toNat h] at hone
      exact hone.trans (Nat.zero_add _ |>.trans (by omega))
    · rw [natText_large h, readDigits_append, ih (n / 10) (by omega),
        digitByte_toNat (Nat.mod_lt n (by omega))]
      omega

theorem natText_ne_nil (n : ℕ) : natText n ≠ [] := by
  rcases Nat.lt_or_ge n 10 with h | h
  · rw [natText_small h]
    exact List.cons_ne_nil _ _
  · rw [natText_large h]
    exact List.append_ne_nil_of_right_ne_nil _ (List.cons_ne_nil _ _)

theorem natText_length {n d : ℕ} (hd : 0 < d) (h : n < 10 ^ d) : (natText n).length ≤ d := by
  induction d generalizing n with
  | zero => omega
  | succ d ih =>
    rcases Nat.lt_or_ge n 10 with hn | hn
    · rw [natText_small hn]
      exact hd
    · have hd' : 0 < d := by
        rcases Nat.eq_zero_or_pos d with rfl | hpos
        · omega
        · exact hpos
      rw [natText_large hn, List.length_append]
      have hrest : n / 10 < 10 ^ d := by
        rw [Nat.pow_succ] at h
        omega
      exact Nat.add_le_add_right (ih hd' hrest) 1

theorem fractionText_length (width n : ℕ) : (fractionText width n).length = width := by
  induction width generalizing n with
  | zero => rfl
  | succ width ih =>
    unfold fractionText
    rw [List.length_append, ih]
    rfl

theorem fractionText_digits (width n : ℕ) : Digits (fractionText width n) := by
  induction width generalizing n with
  | zero => exact fun b hb => absurd hb List.not_mem_nil
  | succ width ih => exact digits_append (ih (n / 10)) (by omega)

theorem readDigits_fractionText (width n : ℕ) :
    readDigits (fractionText width n) = n % 10 ^ width := by
  induction width generalizing n with
  | zero =>
    rw [Nat.pow_zero, Nat.mod_one]
    rfl
  | succ width ih =>
    unfold fractionText
    rw [readDigits_append, ih, digitByte_toNat (Nat.mod_lt n (by omega)), Nat.pow_succ,
      Nat.mul_comm (10 ^ width) 10, Nat.mod_mul]
    omega

/-- The number that a text with an optional sign and an optional point shows. -/
def readFixed (text : List UInt8) : ℚ :=
  let body := if text.head? = some 45 then text.tail else text
  let fraction := (body.dropWhile (· ≠ 46)).tail
  let magnitude : ℚ :=
    readDigits (body.takeWhile (· ≠ 46)) + readDigits fraction / 10 ^ fraction.length
  if text.head? = some 45 then -magnitude else magnitude

theorem digit_ne_point {text : List UInt8} (h : Digits text) : ∀ b ∈ text, b ≠ 46 := by
  rintro b hb rfl
  exact absurd (h 46 hb).1 (by decide)

theorem takeWhile_point {whole : List UInt8} (h : Digits whole) (fraction : List UInt8) :
    (whole ++ 46 :: fraction).takeWhile (· ≠ 46) = whole ∧
      (whole ++ 46 :: fraction).dropWhile (· ≠ 46) = 46 :: fraction := by
  have hne := digit_ne_point h
  constructor
  · rw [List.takeWhile_append_of_pos (by simpa using hne)]
    simp
  · rw [List.dropWhile_append_of_pos (by simpa using hne)]
    simp

theorem readFixed_scaledText {precision : ℕ} (hprecision : precision ≠ 0) (negative : Bool)
    (scaled : ℕ) :
    readFixed (signText negative ++ scaledText precision scaled) =
      if negative then -((scaled : ℚ) / 10 ^ precision) else (scaled : ℚ) / 10 ^ precision := by
  have hwhole := natText_digits (scaled / 10 ^ precision)
  obtain ⟨hbefore, hafter⟩ := takeWhile_point hwhole (fractionText precision scaled)
  have hmagnitude : ((scaled / 10 ^ precision : ℕ) : ℚ) +
      ((scaled % 10 ^ precision : ℕ) : ℚ) / 10 ^ precision = (scaled : ℚ) / 10 ^ precision := by
    have hpow : ((10 : ℚ) ^ precision) ≠ 0 := by positivity
    have hdiv : (((scaled / 10 ^ precision : ℕ) : ℚ)) * 10 ^ precision +
        ((scaled % 10 ^ precision : ℕ) : ℚ) = scaled := by
      exact_mod_cast Nat.div_add_mod' scaled (10 ^ precision)
    field_simp
    linarith
  have hread : readDigits ((natText (scaled / 10 ^ precision) ++
        46 :: fractionText precision scaled).takeWhile (· ≠ 46)) +
      (readDigits ((natText (scaled / 10 ^ precision) ++
        46 :: fractionText precision scaled).dropWhile (· ≠ 46)).tail : ℚ) /
      10 ^ ((natText (scaled / 10 ^ precision) ++
        46 :: fractionText precision scaled).dropWhile (· ≠ 46)).tail.length =
      (scaled : ℚ) / 10 ^ precision := by
    rw [hbefore, hafter, List.tail_cons, fractionText_length, readDigits_natText,
      readDigits_fractionText, hmagnitude]
  have hhead : (natText (scaled / 10 ^ precision) ++
      46 :: fractionText precision scaled).head? ≠ some 45 := by
    obtain ⟨b, rest, hb⟩ := List.exists_cons_of_ne_nil (natText_ne_nil (scaled / 10 ^ precision))
    rw [hb] at hwhole ⊢
    rintro h
    obtain rfl := Option.some.inj h
    exact absurd (hwhole 45 (List.mem_cons_self ..)).1 (by decide)
  unfold scaledText readFixed
  rw [if_neg hprecision]
  cases negative with
  | false =>
    simp only [signText, Bool.false_eq_true, if_false, List.nil_append, if_neg hhead]
    exact hread
  | true => exact congrArg (fun m : ℚ => -m) hread

end SteeringDisplay.DecimalText
