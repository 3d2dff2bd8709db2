import LabelPress.Json.Fault

/-!
# Numbers in JSON

A number is a sign, digits, an optional fraction and an optional power of ten. Written without the
last two it is an integer if it fits 64 bits. Any other number becomes a float in two steps: the
leading digits that fit 64 bits, then one multiplication or division by a power of ten. Beyond
fifteen digits the result need not be the nearest float.

## Main definitions

* `Numeral` - a number as it is written.
* `Numeral.read` - the number at the front of a text.
* `Numeral.value` - what it stands for.
-/

namespace LabelPress.Json

open LabelPress.Number

/-- A number as it is written. -/
structure Numeral where
  /-- A minus sign stands in front. -/
  negative : Bool
  whole : List Char
  /-- The digits after the point, if there is one. -/
  fraction : List Char
  /-- The power of ten, if there is one. -/
  exponent : Option Int
deriving DecidableEq, Repr

namespace Numeral

/-! ## Grammar -/

/-- One digit or more. The text may end before them, which is a fault of its own. -/
def digits (atEnd : Fault) (s : List Char) : Except Fault (List Char × List Char) :=
  match s, s.takeWhile Char.isDigit with
  | [], _ => .error atEnd
  | _, [] => .error .badNumber
  | s, ds => .ok (ds, s.dropWhile Char.isDigit)

/-- The digits before the point; the first of several is not zero. -/
def wholePart (atEnd : Fault) (s : List Char) : Except Fault (List Char × List Char) :=
  match digits atEnd s with
  | .ok ('0' :: _ :: _, _) => .error .badNumber
  | result => result

/-- The digits after a point, or nothing. -/
def fractionPart (atEnd : Fault) (s : List Char) : Except Fault (List Char × List Char) :=
  match s with
  | '.' :: s => digits atEnd s
  | s => .ok ([], s)

/-- The digits of a power of ten whose sign is known. -/
def powerDigits (atEnd : Fault) (negative : Bool) (s : List Char) :
    Except Fault (Option Int × List Char) :=
  (digits atEnd s).map fun (ds, rest) =>
    (some (if negative then -(natOfDigits ds : Int) else natOfDigits ds), rest)

/-- The power of ten, or nothing. -/
def exponentPart (atEnd : Fault) (s : List Char) : Except Fault (Option Int × List Char) :=
  match s with
  | c :: s =>
    if c = 'e' ∨ c = 'E' then
      match s with
      | '-' :: s => powerDigits atEnd true s
      | '+' :: s => powerDigits atEnd false s
      | s => powerDigits atEnd false s
    else .ok (none, c :: s)
  | [] => .ok (none, [])

/-- The number at the front of a text, and what follows it. -/
def read (atEnd : Fault) (s : List Char) : Except Fault (Numeral × List Char) := do
  let (negative, s) := match s with
    | '-' :: s => (true, s)
    | s => (false, s)
  let (whole, s) ← wholePart atEnd s
  let (fraction, s) ← fractionPart atEnd s
  let (exponent, s) ← exponentPart atEnd s
  return ({ negative, whole, fraction, exponent }, s)

/-! ## Value -/

/-- The greatest number of 64 bits. -/
def maxSignificand : Nat := 0xffffffffffffffff

/-- The digits that still fit after `m`, and how many do not. -/
def takeWhole (m : Nat) : List Char → Nat × Nat
  | [] => (m, 0)
  | c :: ds =>
    let next := 10 * m + digitValue c
    if next ≤ maxSignificand then takeWhole next ds else (m, (c :: ds).length)

/-- The digits that still fit after `m`, and how many those are. -/
def takeFraction (m taken : Nat) : List Char → Nat × Nat
  | [] => (m, taken)
  | c :: ds =>
    let next := 10 * m + digitValue c
    if next ≤ maxSignificand then takeFraction next (taken + 1) ds else (m, taken)

/-- The float times a power of ten, unless it is infinite. A power beyond the floats is taken in
parts. -/
def scale? (x : Float) (power : Int) : Option Float :=
  if 0 ≤ power ∧ power ≤ 308 then
    let y := x * ofDecimal 1 power
    if y.isInf then none else some y
  else if power < 0 ∧ -308 ≤ power then some (x / ofDecimal 1 (-power))
  else if x == 0 then some x
  else if 0 ≤ power then none
  else scale? (x / ofDecimal 1 308) (power + 308)
termination_by (-power).toNat
decreasing_by omega

/-- The integer that the numeral stands for, if it is written as one and fits. The integer zero has
no sign, so a zero with one is not an integer. -/
def integer? (n : Numeral) : Option Int :=
  if n.fraction = [] ∧ n.exponent = none then
    let m := natOfDigits n.whole
    if n.negative then
      if m ≠ 0 ∧ Json.minInteger ≤ -(m : Int) then some (-(m : Int)) else none
    else if (m : Int) ≤ Json.maxInteger then some (m : Int) else none
  else none

/-- The float that the numeral stands for. -/
def float (n : Numeral) : Except Fault Float :=
  let (m, above) := takeWhole 0 n.whole
  let (m, below) := takeFraction m 0 n.fraction
  match scale? (ofDecimal m 0) (n.exponent.getD 0 + above - below) with
  | some x => .ok (if n.negative then -x else x)
  | none => .error .numberTooLarge

/-- What the numeral stands for. -/
def value (n : Numeral) : Except Fault Json :=
  match n.integer? with
  | some i => .ok (.integer i)
  | none => n.float.map .real

end Numeral

end LabelPress.Json
