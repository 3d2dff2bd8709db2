import LabelPress.Number.Shortest

/-!
# Floats as text

A `FloatFormat` holds the decisions that turn the shortest digits of a float into text. The
library writes floats in two formats: `plain`, for people, and `json`, for data.

## Main definitions

* `FloatFormat.render` - a float as text.
* `FloatFormat.plain` - all digits in their places, no fraction for an integer.
* `FloatFormat.json` - a fraction at least, and a power of ten for very large and small values.
-/

namespace LabelPress.Number

/-- The decisions of a text format for floats. -/
structure FloatFormat where
  /-- The least and the greatest power of ten of the leading digit for which the digits stand in
  their places; `none` sets no bounds. -/
  positional : Option (Int × Int)
  /-- Whether an integer ends in `.0`. -/
  pointZero : Bool
  /-- Which of two equally near decimals is written. -/
  tie : Tie
deriving DecidableEq, Repr

namespace FloatFormat

/-- Every float in positional notation, integers without a point. -/
def plain : FloatFormat where
  positional := none
  pointZero := false
  tie := .up

/-- Positional with at least one decimal from `0.00001` up to sixteen digits before the point,
otherwise a signed power of ten. -/
def json : FloatFormat where
  positional := some (-5, 15)
  pointZero := true
  tie := .toEven

/-- The text of `n` zeros. -/
def zeros (n : Nat) : String :=
  String.ofList (List.replicate n '0')

/-- The digits in their places. -/
def positionalText (f : FloatFormat) (d : Decimal) : String :=
  let digits := (toString d.digits).toList
  match d.exponent with
  | .ofNat k => String.ofList digits ++ zeros k ++ (if f.pointZero then ".0" else "")
  | .negSucc k =>
    let places := k + 1
    if places < digits.length then
      String.ofList (digits.take (digits.length - places)) ++ "."
        ++ String.ofList (digits.drop (digits.length - places))
    else "0." ++ zeros (places - digits.length) ++ String.ofList digits

/-- The leading digit, the others after a point, and the power of ten. -/
def scientificText (digits : List Char) (power : Int) : String :=
  let mantissa := match digits with
    | [] => ""
    | [digit] => digit.toString
    | digit :: fraction => digit.toString ++ "." ++ String.ofList fraction
  let sign := if power < 0 then "-" else "+"
  mantissa ++ "e" ++ sign ++ toString power.natAbs

def decimalText (f : FloatFormat) (d : Decimal) : String :=
  let digits := (toString d.digits).toList
  let power := (digits.length : Int) - 1 + d.exponent
  match f.positional with
  | none => f.positionalText d
  | some (least, greatest) =>
    if least ≤ power ∧ power ≤ greatest then f.positionalText d else scientificText digits power

/-- The text of a float. -/
def render (f : FloatFormat) (x : Float) : String :=
  match Binary64.ofFloat? x with
  | none => if x.isNaN then "NaN" else if x < 0 then "-inf" else "inf"
  | some value =>
    let magnitude := if value.mantissa = 0 then ⟨0, 0⟩ else value.shortest f.tie
    (if value.negative then "-" else "") ++ f.decimalText magnitude

example : plain.render 2.5 = "2.5" ∧ json.render 3 = "3.0" ∧ json.render 1.5e-7 = "1.5e-7" := by
  decide +kernel

end FloatFormat

end LabelPress.Number
