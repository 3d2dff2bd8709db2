import LabelPress.Image.Pixels
import LabelPress.Number.Hex

/-!
# Bitmaps

A printer takes one bit for each dot. A row is a whole number of bytes, the leftmost dot in the
highest bit, and the bits behind the last dot are zero.

## Main definitions

* `packByte`, `packRow` - eight dots, and a row of dots, as bytes.
* `Bitmap.ofPixels` - the dots of a picture that print.
* `Bitmap.fragment` - the bitmap as the parameters of a command.
* `Bitmap.gray` - the bitmap as shades, for a preview.
-/

namespace LabelPress

open LabelPress.Number

/-- Eight dots as a byte, the first in the highest bit. -/
def packByte (dot : Nat → Bool) : UInt8 :=
  (List.range 8).foldl (fun byte k => 2 * byte + if dot k then 1 else 0) 0

/-- Whether dot `k` of a byte is set. -/
def dotOf (byte : UInt8) (k : Nat) : Bool :=
  byte.toNat.testBit (7 - k)

/-- The number of bytes for a row of dots. -/
def bytesFor (dots : Nat) : Nat :=
  (dots + 7) / 8

/-- A row of dots as bytes. -/
def packRow (dots : Array Bool) : List UInt8 :=
  (List.range (bytesFor dots.size)).map fun j => packByte fun k => dots.getD (8 * j + k) false

example : packRow #[true, true, true, true, false, false, false, false, true] = [0xF0, 0x80] := by
  decide

/-- A bit for each dot, row by row. -/
structure Bitmap where
  width : Nat
  height : Nat
  data : Array UInt8
deriving DecidableEq, Repr

namespace Bitmap

/-- The number of bytes for a row. -/
def bytesPerRow (b : Bitmap) : Nat := bytesFor b.width

/-- The number of bytes. -/
def totalBytes (b : Bitmap) : Nat := b.bytesPerRow * b.height

/-- The bitmap in which given dots are set. -/
def ofDots (width height : Nat) (dot : (x y : Nat) → Bool) : Bitmap where
  width := width
  height := height
  data := Array.ofFn (n := bytesFor width * height) fun i =>
    let y := i / bytesFor width
    packByte fun k =>
      let x := 8 * (i % bytesFor width) + k
      x < width && dot x y

/-- The pixels of a picture that print. -/
def ofPixels (p : Pixels) : Bitmap :=
  ofDots p.width p.height fun x y => (p.pixel x y).isInk

/-- Whether the dot in column `x` of row `y` is set. Outside the bitmap none is. -/
def isSet (b : Bitmap) (x y : Nat) : Bool :=
  if x < b.width ∧ y < b.height then
    dotOf (b.data.getD (y * b.bytesPerRow + x / 8) 0) (x % 8)
  else false

/-- The bytes in hexadecimal digits. -/
def hex (b : Bitmap) : String :=
  String.ofList (b.data.toList.flatMap hexByte)

/-- The parameters of the command that prints the bitmap: the format, the number of bytes, the bytes
of a row, the number again, and the bytes. -/
def fragment (b : Bitmap) : String :=
  let total := toString b.totalBytes
  "0," ++ total ++ "," ++ toString b.bytesPerRow ++ "," ++ total ++ "," ++ b.hex

/-- A shade for each dot: black where it is set. -/
def gray (b : Bitmap) : Array UInt8 :=
  Array.ofFn (n := b.width * b.height) fun i =>
    if b.isSet (i % b.width) (i / b.width) then 0 else 255

end Bitmap

end LabelPress
