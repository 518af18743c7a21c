import SteeringDisplay.FirmwareInterface
import Mathlib.Data.Nat.Digits.Defs

set_option autoImplicit false

/-! # The text `snprintf` makes of a `float` argument -/
namespace SteeringDisplay.NumberFormat
open ProgramTree FirmwareInterface

def roundHalfEven (q : ℚ) : ℤ :=
  let n := q.floor
  if q - n < 1 / 2 then n
  else if 1 / 2 < q - n then n + 1
  else if n % 2 = 0 then n else n + 1

def digitByte (d : ℕ) : UInt8 := UInt8.ofNat (48 + d)

def natText (n : ℕ) : List UInt8 :=
  if n = 0 then [digitByte 0] else (Nat.digits 10 n).reverse.map digitByte

def fractionText : ℕ → ℕ → List UInt8
  | 0, _ => []
  | width + 1, n => fractionText width (n / 10) ++ [digitByte (n % 10)]

def signText (negative : Bool) : List UInt8 := if negative then [45] else []

/-- `%.<precision>f` of a magnitude that has been scaled by `10 ^ precision`. -/
def scaledText (precision scaled : ℕ) : List UInt8 :=
  natText (scaled / 10 ^ precision) ++
    (if precision = 0 then [] else 46 :: fractionText precision scaled)

def fixedText (precision : ℕ) : CFloat → List UInt8
  | .finite q =>
    signText (decide (q < 0)) ++
      scaledText precision (roundHalfEven (|q| * 10 ^ precision)).toNat
  | .negZero => signText true ++ scaledText precision 0
  | .inf negative => signText negative ++ cstring "inf"
  | .nan => cstring "nan"

/-- The variable argument is a `float`, passed as a `double`: `%f` prints it, and
    for `%d`, which asks for an `int`, C defines no output. -/
def formatText (format : Format) (value : CFloat) : Firmware (List UInt8) :=
  match format with
  | .f precision => pure (fixedText precision value)
  | .d => ask (.undefinedText format value)

/-- What the buffer of `size` bytes holds before the NUL that ends it. -/
def snprintf (size : ℕ) (format : Format) (value : CFloat) : Firmware (List UInt8) := do
  let text ← formatText format value
  pure (text.take (size - 1))

end SteeringDisplay.NumberFormat
