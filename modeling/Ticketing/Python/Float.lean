import Mathlib

/-!
# Python's floats

A Python float is an IEEE `binary64` number, and that is what core Lean has a model
of.  What this module adds is how Python writes such a number, reads it, and divides
two integers.

## Main Definitions

* `readFloat` — `float(text)`
* `reprFloat` — `float.__repr__`, which is also `str` of a float
* `divInt` — the quotient of two integers

## Design Notes

Python writes as few digits as make the text read back as the same float, and of these
texts the one closest to it.  Seventeen digits always do.
-/

namespace Ticketing.Python

open Float.Model (Format UnpackedFloat totalExponent)

/-! ## Reading -/

/-- An integer with a sign perhaps. -/
def readInt : List Char → ℤ
  | '-' :: digits => -Nat.ofDigitChars 10 digits 0
  | '+' :: digits => Nat.ofDigitChars 10 digits 0
  | digits => Nat.ofDigitChars 10 digits 0

/-- A float without its sign. -/
def readMagnitude (text : List Char) : UnpackedFloat :=
  if text = ['i', 'n', 'f'] then .infinity .positive
  else if text = ['n', 'a', 'n'] then .notANumber
  else
    let significand := text.takeWhile (· ≠ 'e')
    let whole := significand.takeWhile (· ≠ '.')
    let fraction := significand.drop (whole.length + 1)
    let exponent := readInt (text.drop (significand.length + 1))
    .ofScientific .binary64 (Nat.ofDigitChars 10 (whole ++ fraction) 0)
      (exponent - fraction.length)

/-- `float(text)`, where the text is one that `str` gives to a float. -/
def readFloat (text : String) : UnpackedFloat :=
  match text.toList with
  | '-' :: magnitude => (readMagnitude magnitude).neg
  | magnitude => readMagnitude magnitude

/-! ## Writing -/

/-- Where the decimal point of `num / den` stands: between the powers `point - 1` and `point`
of ten lies the quotient. -/
def decimalPoint (num den : ℕ) : ℤ :=
  if den ≤ num then (Nat.toDigits 10 (num / den)).length
  else 1 - (Nat.toDigits 10 ((den - 1) / num)).length

/-- The two neighbours of a quotient among the integers, the nearer one first. -/
def neighbours (num den : ℕ) : List ℕ :=
  let low := num / den
  let rest := num % den
  if 2 * rest < den ∨ 2 * rest = den ∧ low % 2 = 0 then [low, low + 1] else [low + 1, low]

/-- Reading `digits * 10 ^ exponent` gives the float `mantissa * 2 ^ power`. -/
def readsBack (mantissa : ℕ) (power : ℤ) (digits : ℕ) (exponent : ℤ) : Bool :=
  match UnpackedFloat.ofScientific .binary64 digits exponent with
  | .finite _ mantissa' power' _ => mantissa' = mantissa && power' = power
  | _ => false

/-- The shortest digits that read back as `mantissa * 2 ^ power`, and their exponent. -/
def shortestDigits (mantissa : ℕ) (power : ℤ) : ℕ × ℤ :=
  let num := mantissa * 2 ^ power.toNat
  let den := 2 ^ (-power).toNat
  let point := decimalPoint num den
  let attempt (count : ℕ) : Option (ℕ × ℤ) :=
    let shift : ℤ := count - point
    ((neighbours (num * 10 ^ shift.toNat) (den * 10 ^ (-shift).toNat)).find? fun digits =>
      readsBack mantissa power digits (-shift)).map fun digits => (digits, -shift)
  ((List.range' 1 17).findSome? attempt).getD (0, 0)

/-- Digits with the decimal point in its place, or in the scientific notation where that
would take too many zeros. -/
def placePoint (digits : List Char) (point : ℤ) : String :=
  if point ≤ -4 ∨ 16 < point then
    let fraction := if digits.length = 1 then [] else '.' :: digits.drop 1
    let exponent := Nat.toDigits 10 (point - 1).natAbs
    String.ofList (digits.take 1 ++ fraction ++ ['e', if point ≤ 0 then '-' else '+']
      ++ List.replicate (2 - exponent.length) '0' ++ exponent)
  else if point ≤ 0 then
    String.ofList (['0', '.'] ++ List.replicate (-point).toNat '0' ++ digits)
  else if digits.length ≤ point.toNat then
    String.ofList (digits ++ List.replicate (point.toNat - digits.length) '0' ++ ['.', '0'])
  else String.ofList (digits.take point.toNat ++ '.' :: digits.drop point.toNat)

/-- A float without its sign. -/
def reprMagnitude : UnpackedFloat → String
  | .infinity _ => "inf"
  | .notANumber => "nan"
  | .zero _ => "0.0"
  | .finite _ mantissa power _ =>
      let (digits, exponent) := shortestDigits mantissa power
      let text := Nat.toDigits 10 digits
      placePoint (text.rdropWhile (· = '0')) (text.length + exponent)

/-- `float.__repr__`. -/
def reprFloat (value : UnpackedFloat) : String :=
  match value with
  | .infinity .negative | .zero .negative | .finite .negative _ _ _ => "-" ++ reprMagnitude value
  | _ => reprMagnitude value

/-! ## Dividing -/

/-- The float is beyond the largest one. -/
def tooLarge : UnpackedFloat → Bool
  | .finite _ mantissa power _ => 1024 < totalExponent mantissa power
  | .infinity _ => true
  | _ => false

/-- `value / divisor` for integers: the exact quotient is rounded once.  `none` stands for
`OverflowError`. -/
def divInt (value : ℤ) (divisor : ℕ) (positive : 0 < divisor) : Option UnpackedFloat :=
  match value with
  | 0 => some (.zero .positive)
  | .ofNat (number + 1) =>
      let quotient := UnpackedFloat.div .binary64 (.finite .positive (number + 1) 0 number.succ_pos)
        (.finite .positive divisor 0 positive)
      if tooLarge quotient then none else some quotient
  | .negSucc number =>
      let quotient := UnpackedFloat.div .binary64 (.finite .negative (number + 1) 0 number.succ_pos)
        (.finite .positive divisor 0 positive)
      if tooLarge quotient then none else some quotient

end Ticketing.Python
