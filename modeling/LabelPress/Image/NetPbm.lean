import LabelPress.Image.Resample
import LabelPress.Number.Parse

/-!
# Pictures as plain numbers

A text format: a name, the width, the height, then the pixels as decimal numbers. `P1` has black
and white digits, `P2` shades, and `P3` red, green and blue; the last two name the greatest number
before the pixels, and it decides between eight and sixteen bits.

## Main definitions

* `NetPbm.decode?` - the picture of a text.
-/

namespace LabelPress.NetPbm

open LabelPress.Number

abbrev Bytes := List UInt8

/-- The characters between numbers. -/
def isSpace (c : UInt8) : Bool :=
  (9 ≤ c && c ≤ 13) || c == 32

/-- A decimal number of at most `bound`. -/
def number? (bound : Nat) (token : Bytes) : Option Nat :=
  natUpTo? bound (token.map fun c => Char.ofNat c.toNat)

/-- The next word of the header and what follows the space behind it. A remark goes from a number
sign to the end of the line, and leaves nothing in its place. -/
def headerToken (remark : Bool) (done : Bytes) : Bytes → Option (Bytes × Bytes)
  | [] => if done = [] then none else some (done.reverse, [])
  | c :: bytes =>
    if remark then headerToken (c != 10 && c != 13) done bytes
    else if c = 35 then headerToken true done bytes
    else if isSpace c then
      if done = [] then headerToken false [] bytes else some (done.reverse, bytes)
    else headerToken false (c :: done) bytes

/-- A number of the header. -/
def headerNumber (bytes : Bytes) : Option (Nat × Bytes) := do
  let (token, rest) ← headerToken false [] bytes
  return (← number? 0xffffffff token, rest)

/-- `count` digits, black or white; spaces between them do not count. -/
def bits? (count : Nat) (done : List Nat) : Bytes → Option (List Nat)
  | [] => if count = 0 then some done.reverse else none
  | c :: bytes =>
    if count = 0 then some done.reverse
    else if isSpace c then bits? count done bytes
    else if c = 48 then bits? (count - 1) (255 :: done) bytes
    else if c = 49 then bits? (count - 1) (0 :: done) bytes
    else none

/-- `count` numbers of at most `bound` with spaces between them. -/
def samples? (bound : Nat) : (count : Nat) → (done : List Nat) → Bytes → Option (List Nat)
  | 0, done, _ => some done.reverse
  | count + 1, done, bytes => do
    let bytes := bytes.dropWhile isSpace
    let sample ← number? bound (bytes.takeWhile (!isSpace ·))
    samples? bound count (sample :: done) ((bytes.dropWhile (!isSpace ·)).drop 1)

/-- A number at most `greatest` in a range up to `bound`, to the nearest. -/
def stretch (bound greatest sample : Nat) : Nat :=
  if greatest = bound then sample
  else
    let x := (Float32.ofNat sample * (Float32.ofNat bound / Float32.ofNat greatest)).round
    min bound x.toUInt32.toNat

/-- The numbers of the pixels with the bound of their range: that of a byte, or of sixteen bits if
the greatest number does not fit a byte. -/
def numbers? (count : Nat) (bytes : Bytes) : Option (Nat × List Nat) := do
  let (greatest, bytes) ← headerNumber bytes
  if greatest = 0 ∨ 65535 < greatest then none
  let bound := if greatest ≤ 255 then 255 else 65535
  return (bound, (← samples? bound count [] bytes).map (stretch bound greatest))

/-- The picture of numbers: one for each pixel, or three. -/
def picture? (width height bound channels : Nat) (samples : Array Nat) : Option Picture :=
  let sample := fun i k => samples.getD (channels * i + min k (channels - 1)) 0
  if bound = 255 then
    let pixels := Array.ofFn (n := width * height) fun i =>
      let byte := fun k => UInt8.ofNat (sample i k)
      (⟨byte 0, byte 1, byte 2, 255⟩ : Rgba)
    (Pixels.ofArray? width height pixels).map .bytes
  else
    let pixels := Array.ofFn (n := width * height) fun i =>
      let word := fun k => Float32.ofNat (sample i k)
      (⟨word 0, word 1, word 2, Float32.ofNat bound⟩ : Channels)
    some (.words width height pixels)

/-- The picture of a text. -/
def decode? : Bytes → Option Picture
  | 80 :: kind :: bytes => do
    let (width, bytes) ← headerNumber bytes
    let (height, bytes) ← headerNumber bytes
    if kind = 49 then
      picture? width height 255 1 (← bits? (width * height) [] bytes).toArray
    else if kind = 50 then
      let (bound, samples) ← numbers? (width * height) bytes
      picture? width height bound 1 samples.toArray
    else if kind = 51 then
      let (bound, samples) ← numbers? (3 * (width * height)) bytes
      picture? width height bound 3 samples.toArray
    else none
  | _ => none

end LabelPress.NetPbm
