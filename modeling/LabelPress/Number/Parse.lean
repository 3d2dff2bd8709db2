import LabelPress.Number.Binary64
import LabelPress.Text.Chars

/-!
# Reading numbers

## Main definitions

* `natOfDigits?`, `natUpTo?` - unsigned decimal integers, the second with a sign `+` and a bound.
* `float?` - decimal floats: a sign, digits with a point, a power of ten, or the name of a value
  that is not finite. The result is correctly rounded.
-/

namespace LabelPress.Number

open LabelPress.Text

/-! ## Integers -/

/-- The value of a decimal digit. -/
def digitValue (c : Char) : Nat := c.toNat - '0'.toNat

/-- The number that a list of decimal digits stands for. -/
def natOfDigits (digits : List Char) : Nat :=
  digits.foldl (fun n c => 10 * n + digitValue c) 0

/-- An unsigned integer: one or more decimal digits. -/
def natOfDigits? (s : List Char) : Option Nat :=
  if s ≠ [] ∧ s.all Char.isDigit then some (natOfDigits s) else none

/-- An unsigned integer of at most `bound`, with or without a sign `+`. -/
def natUpTo? (bound : Nat) (s : List Char) : Option Nat :=
  (natOfDigits? ((dropText? ['+'] s).getD s)).filter (· ≤ bound)

/-! ## Floats -/

/-- The float nearest to `digits * 10 ^ exponent`. -/
def ofDecimal (digits : Nat) (exponent : Int) : Float :=
  let power := ((toString digits).length : Int) + exponent
  -- Beyond these bounds the result is known, and the power of ten may be huge.
  if digits = 0 ∨ power < -400 then 0
  else if 400 < power then 1 / 0
  else Float.ofScientific digits (exponent < 0) exponent.natAbs

/-- The power of ten after a mantissa; nothing stands for zero. -/
def powerOfTen? : List Char → Option Int
  | [] => some 0
  | c :: s =>
    if c = 'e' ∨ c = 'E' then
      match s with
      | '-' :: digits => (natOfDigits? digits).map fun n => -(n : Int)
      | '+' :: digits => (natOfDigits? digits).map Int.ofNat
      | digits => (natOfDigits? digits).map Int.ofNat
    else none

/-- Digits with at most one point among them, and a power of ten. -/
def finiteFloat? (s : List Char) : Option Float :=
  let whole := s.takeWhile Char.isDigit
  let rest := s.dropWhile Char.isDigit
  let (fraction, rest) := match rest with
    | '.' :: rest => (rest.takeWhile Char.isDigit, rest.dropWhile Char.isDigit)
    | rest => ([], rest)
  if whole ++ fraction = [] then none
  else (powerOfTen? rest).map fun power =>
    ofDecimal (natOfDigits (whole ++ fraction)) (power - fraction.length)

/-- The values that are not finite, by name in any letter case. -/
def namedFloat? (s : List Char) : Option Float :=
  let name := String.ofList (lowerLatin s)
  if name = "inf" ∨ name = "infinity" then some (1 / 0)
  else if name = "nan" then some (0 / 0)
  else none

/-- A float in decimal notation. -/
def float? (s : List Char) : Option Float :=
  match s with
  | '-' :: s => (finiteFloat? s <|> namedFloat? s).map fun x => -x
  | '+' :: s => finiteFloat? s <|> namedFloat? s
  | s => finiteFloat? s <|> namedFloat? s

end LabelPress.Number
