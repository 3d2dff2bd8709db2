/-!
# What a 64-bit float stands for

A finite float is `± mantissa * 2 ^ exponent`, read off its bits. Rounding to an integer is then
exact arithmetic on integers, whatever the size of the float.

## Main definitions

* `Binary64.ofFloat?` - the value of a finite float.
* `Binary64.roundHalfAway`, `Binary64.floorHalfUp` - the two roundings to an integer in use.
* `roundToInt32` - rounding into the 32-bit integers; what lies outside goes to the nearer end.
* `orderKey` - a key that orders all floats by their bits, infinities, the two zeros and everything
  that is not a number included.
-/

namespace LabelPress.Number

/-- A finite 64-bit float, `± mantissa * 2 ^ exponent`. -/
structure Binary64 where
  /-- The sign, which zero has too. -/
  negative : Bool
  /-- The magnitude in units of the last place. -/
  mantissa : Nat
  /-- The unit of the last place, as a power of two. -/
  exponent : Int
  /-- The next float towards zero is half as far away as the one on the other side. -/
  narrow : Bool
deriving DecidableEq, Repr

namespace Binary64

/-- The leading bit of a mantissa, which is not written: it has 52 bits after it. -/
def hiddenBit : Nat := 0x10000000000000

/-- The value of a float, unless it is infinite or not a number. -/
def ofFloat? (x : Float) : Option Binary64 :=
  let bits := x.toBits.toNat
  let negative := decide (0x8000000000000000 ≤ bits)
  let exponent : Nat := bits / hiddenBit % 2048
  let fraction := bits % hiddenBit
  if exponent = 2047 then none
  else if exponent = 0 then
    some { negative, mantissa := fraction, exponent := -1074, narrow := false }
  else
    some {
      negative, mantissa := hiddenBit + fraction, exponent := (exponent : Int) - 1075
      narrow := fraction == 0 && decide (1 < exponent) }

/-- The mantissa with the sign. -/
def signed (x : Binary64) : Int :=
  if x.negative then -(x.mantissa : Int) else x.mantissa

/-- The nearest integer; a half goes away from zero. -/
def roundHalfAway (x : Binary64) : Int :=
  match x.exponent with
  | .ofNat k => x.signed * Nat.pow 2 k
  | .negSucc k =>
    let magnitude := (x.mantissa + Nat.pow 2 k) / Nat.pow 2 (k + 1)
    if x.negative then -(magnitude : Int) else magnitude

/-- The largest integer that is at most half above the value: `⌊x + 1/2⌋`. -/
def floorHalfUp (x : Binary64) : Int :=
  match x.exponent with
  | .ofNat k => x.signed * Nat.pow 2 k
  | .negSucc k => (x.signed + Nat.pow 2 k) / Nat.pow 2 (k + 1)

end Binary64

/-! ## 32-bit integers -/

/-- The least 32-bit integer. -/
def int32Min : Int := -2147483648

/-- The greatest 32-bit integer. -/
def int32Max : Int := 2147483647

/-- The 32-bit integer nearest to `n`. -/
def clampInt32 (n : Int) : Int :=
  max int32Min (min n int32Max)

/-- The nearest 32-bit integer, a half away from zero; not a number gives zero. -/
def roundToInt32 (x : Float) : Int :=
  match Binary64.ofFloat? x with
  | some value => clampInt32 value.roundHalfAway
  | none => if x.isNaN then 0 else if x < 0 then int32Min else int32Max

/-- The nearest byte, a half away from zero; not a number gives zero. -/
def roundToByte (x : Float) : UInt8 :=
  UInt8.ofNat (max 0 (min (roundToInt32 x) 255)).toNat

/-! ## Order -/

/-- The place of the float with given bits in the order -∞, …, -0, 0, …, ∞. What is not a number
stands at the end on the side of its sign. -/
def orderKey (bits : UInt64) : Int :=
  let n : Int := bits.toNat
  if n < 0x8000000000000000 then n else 0x7fffffffffffffff - n

example : [0xfff8000000000000, 0xfff0000000000000, 0x8000000000000000, 0, 0x7ff0000000000000,
    0x7ff8000000000000].Pairwise fun a b => orderKey a < orderKey b := by
  decide

example : roundToInt32 (58 / 25.4 * 203) = 464 := by decide +kernel

example : roundToInt32 (-2.5) = -3 := by decide +kernel

end LabelPress.Number
