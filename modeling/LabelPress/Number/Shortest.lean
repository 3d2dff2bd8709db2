import LabelPress.Number.Binary64

/-!
# The fewest digits that identify a float

Among the decimals that lie nearer to a float than to any other float, `Binary64.shortest` takes
one with the fewest digits, and of those the nearest. All comparisons are exact, between natural
numbers.

## Main definitions

* `Decimal` - digits and a power of ten.
* `Binary64.readsBack` - whether a decimal rounds to the given float.
* `Binary64.shortest` - the selection.
-/

namespace LabelPress.Number

/-- The number `digits * 10 ^ exponent`. -/
structure Decimal where
  /-- The digits, read as one number. -/
  digits : Nat
  /-- The place of the last digit. -/
  exponent : Int
deriving DecidableEq, Repr

/-- Which of two equally near decimals is taken. -/
inductive Tie where
  | up
  /-- The one with an even last digit. -/
  | toEven
deriving DecidableEq, Repr

/-- Compares `a * 10 ^ i` with `n * 2 ^ j`. -/
def compareScaled (a : Nat) (i : Int) (n : Nat) (j : Int) : Ordering :=
  compare (a * Nat.pow 10 i.toNat * Nat.pow 2 (-j).toNat)
    (n * Nat.pow 2 j.toNat * Nat.pow 10 (-i).toNat)

namespace Binary64

/-- Whether the decimal rounds to the magnitude of the float. The bounds lie halfway to the two
neighbours and belong to the float exactly when its mantissa is even. -/
def readsBack (x : Binary64) (d : Decimal) : Bool :=
  let low := compareScaled d.digits d.exponent (4 * x.mantissa - if x.narrow then 1 else 2)
    (x.exponent - 2)
  let high := compareScaled d.digits d.exponent (4 * x.mantissa + 2) (x.exponent - 2)
  let closed := x.mantissa % 2 == 0
  (low == .gt || closed && low == .eq) && (high == .lt || closed && high == .eq)

/-- The least `k` for which the magnitude lies below `10 ^ k`. -/
def scale (x : Binary64) : Int :=
  let estimate := ((x.mantissa.log2 : Int) + x.exponent) * 30103 / 100000
  if compareScaled 1 (estimate + 1) x.mantissa x.exponent != .gt then estimate + 2
  else if compareScaled 1 estimate x.mantissa x.exponent == .gt then estimate
  else estimate + 1

/-- The value in units of `10 ^ exponent`, rounded down. -/
def quotient (x : Binary64) (exponent : Int) : Nat :=
  (x.mantissa * Nat.pow 2 x.exponent.toNat * Nat.pow 10 (-exponent).toNat) /
    (Nat.pow 2 (-x.exponent).toNat * Nat.pow 10 exponent.toNat)

/-- The neighbour of the value among the multiples of `10 ^ exponent` that reads back, the nearer
one if both do. -/
def candidate? (x : Binary64) (tie : Tie) (exponent : Int) : Option Decimal :=
  let below := x.quotient exponent
  let lower : Decimal := ⟨below, exponent⟩
  let upper : Decimal := ⟨below + 1, exponent⟩
  match x.readsBack lower, x.readsBack upper with
  | true, true =>
    match compareScaled (2 * below + 1) exponent x.mantissa (x.exponent + 1), tie with
    | .gt, _ => some lower
    | .lt, _ => some upper
    | .eq, .up => some upper
    | .eq, .toEven => some (if below % 2 = 0 then lower else upper)
  | true, false => some lower
  | false, true => some upper
  | false, false => none

/-- The digits without the zeros at their end, of which there are at most `limit`. -/
def stripZeros : (limit : Nat) → Decimal → Decimal
  | 0, d => d
  | limit + 1, d =>
    if d.digits % 10 = 0 then stripZeros limit ⟨d.digits / 10, d.exponent + 1⟩ else d

/-- The nearest of the shortest decimals that read back as the magnitude of a nonzero float.
Seventeen digits always suffice; the exact value stands behind them. -/
def shortest (x : Binary64) (tie : Tie) : Decimal :=
  let k := x.scale
  match (List.range 17).findSome? fun n => x.candidate? tie (k - (n + 1 : Nat)) with
  | some d => stripZeros 20 d
  | none => ⟨x.quotient (min 0 x.exponent), min 0 x.exponent⟩

end Binary64

end LabelPress.Number
