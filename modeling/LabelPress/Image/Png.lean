import LabelPress.Image.Pixels

/-!
# PNG files

Pictures in the plainest form of the format: not interlaced, the rows not filtered, and the data
stored without compression. Such files are written for previews and read as images.

## Main definitions

* `crc32`, `adler32` - the two checksums of the format.
* `Png.encodeGray` - the file of a picture in shades.
* `Png.decode?` - the picture of a file with gray, gray and opacity, red-green-blue, or all four
  channels in bytes, or with gray in single bits.
-/

namespace LabelPress

/-! ## Checksums -/

/-- One step of the remainder by the polynomial of the checksum, lowest bit first. -/
def crcStep (c : UInt32) : UInt32 :=
  if c &&& 1 = 1 then (c >>> 1) ^^^ 0xEDB88320 else c >>> 1

/-- The remainder with one byte more. -/
def crcByte (c : UInt32) (byte : UInt8) : UInt32 :=
  (List.range 8).foldl (fun c _ => crcStep c) (c ^^^ byte.toUInt32)

/-- The cyclic checksum of 32 bits. -/
def crc32 (bytes : List UInt8) : UInt32 :=
  bytes.foldl crcByte 0xFFFFFFFF ^^^ 0xFFFFFFFF

/-- The checksum of two sums modulo 65521. -/
def adler32 (bytes : List UInt8) : UInt32 :=
  let (a, b) := bytes.foldl
    (fun (a, b) byte =>
      let a := (a + byte.toUInt32) % 65521
      (a, (b + a) % 65521)) ((1 : UInt32), (0 : UInt32))
  b * 65536 + a

namespace Png

abbrev Bytes := List UInt8

/-- The bytes that every file starts with. -/
def signature : Bytes := [0x89, 0x50, 0x4E, 0x47, 0x0D, 0x0A, 0x1A, 0x0A]

/-! ## Writing -/

/-- A number in four bytes, the highest first. -/
def word (n : UInt32) : Bytes :=
  [(n >>> 24).toUInt8, (n >>> 16).toUInt8, (n >>> 8).toUInt8, n.toUInt8]

/-- A chunk: its length, name, data and checksum. -/
def chunk (name : String) (data : Bytes) : Bytes :=
  let body := name.toUTF8.toList ++ data
  word (UInt32.ofNat data.length) ++ body ++ word (crc32 body)

/-- The most bytes that a block holds. -/
def maxBlock : Nat := 65535

/-- Bytes in blocks without compression. There is at least one block, and the last is marked. -/
def blocks : (fuel : Nat) → Bytes → Bytes
  | 0, _ => []
  | fuel + 1, data =>
    let block := data.take maxBlock
    let rest := data.drop maxBlock
    let size := UInt16.ofNat block.length
    let header := [size.toUInt8, (size >>> 8).toUInt8, (~~~size).toUInt8, (~~~size >>> 8).toUInt8]
    (if rest = [] then 1 else 0) :: header ++ block ++ (if rest = [] then [] else blocks fuel rest)

/-- Bytes as a stream without compression. -/
def stream (data : Bytes) : Bytes :=
  [0x78, 0x01] ++ blocks (data.length + 1) data ++ word (adler32 data)

/-- The rows of a picture, each after a byte that names no filter. -/
def rows (width : Nat) : (height : Nat) → Bytes → Bytes
  | 0, _ => []
  | height + 1, data => 0 :: data.take width ++ rows width height (data.drop width)

/-- The file of a picture in shades. -/
def encodeGray (width height : Nat) (shades : Bytes) : Bytes :=
  signature
    ++ chunk "IHDR"
      (word (UInt32.ofNat width) ++ word (UInt32.ofNat height) ++ [8, 0, 0, 0, 0])
    ++ chunk "IDAT" (stream (rows width height shades))
    ++ chunk "IEND" []

/-! ## Reading -/

/-- The number in the first four bytes. -/
def word? : Bytes → Option (Nat × Bytes)
  | a :: b :: c :: d :: rest =>
    some (((a.toNat * 256 + b.toNat) * 256 + c.toNat) * 256 + d.toNat, rest)
  | _ => none

/-- The first bytes, if there are so many. -/
def take? (n : Nat) (bytes : Bytes) : Option (Bytes × Bytes) :=
  if (bytes.take n).length = n then some (bytes.take n, bytes.drop n) else none

/-- The chunks before the one that ends the file, with their names. A chunk whose checksum is wrong
is a fault; the chunk at the end holds nothing and is not checked. -/
def chunks? : (fuel : Nat) → Bytes → Option (List (Bytes × Bytes))
  | 0, _ => none
  | fuel + 1, bytes => do
    let (length, bytes) ← word? bytes
    if bytes.take 4 = "IEND".toUTF8.toList then return []
    let (body, bytes) ← take? (4 + length) bytes
    let (check, bytes) ← word? bytes
    if check ≠ (crc32 body).toNat then none
    return (body.take 4, body.drop 4) :: (← chunks? fuel bytes)

/-- The bytes of blocks without compression. -/
def unblock? : (fuel : Nat) → Bytes → Option Bytes
  | 0, _ => none
  | fuel + 1, bytes =>
    match bytes with
    | header :: l₀ :: l₁ :: n₀ :: n₁ :: bytes => do
      if 1 < header ∨ n₀ ≠ ~~~l₀ ∨ n₁ ≠ ~~~l₁ then none
      let (block, rest) ← take? (l₀.toNat + 256 * l₁.toNat) bytes
      if header = 1 then return block else return block ++ (← unblock? fuel rest)
    | _ => none

/-- The bytes of a stream without compression. -/
def unstream? : Bytes → Option Bytes
  | cmf :: flags :: bytes =>
    if cmf % 16 = 8 ∧ (256 * cmf.toNat + flags.toNat) % 31 = 0 ∧ flags &&& 32 = 0 then
      unblock? (bytes.length + 1) bytes
    else none
  | _ => none

/-- How pixels are laid out in bytes. -/
inductive Layout where
  /-- Gray in single bits, the leftmost in the highest. -/
  | bits
  | gray
  | grayAlpha
  | rgb
  | rgba
deriving DecidableEq, Repr

namespace Layout

/-- The layout of a depth and a colour type. -/
def of? (depth colour : UInt8) : Option Layout :=
  if depth = 1 ∧ colour = 0 then some bits
  else if depth = 8 ∧ colour = 0 then some gray
  else if depth = 8 ∧ colour = 4 then some grayAlpha
  else if depth = 8 ∧ colour = 2 then some rgb
  else if depth = 8 ∧ colour = 6 then some rgba
  else none

def rowBytes (layout : Layout) (width : Nat) : Nat :=
  match layout with
  | bits => (width + 7) / 8
  | gray => width
  | grayAlpha => 2 * width
  | rgb => 3 * width
  | rgba => 4 * width

/-- The pixel in a column of a row whose bytes start at `start`. -/
def pixel (layout : Layout) (data : Array UInt8) (start column : Nat) : Rgba :=
  let byte := fun i => data.getD (start + i) 0
  match layout with
  | bits =>
    let shade := if (byte (column / 8)).toNat.testBit (7 - column % 8) then 255 else 0
    ⟨shade, shade, shade, 255⟩
  | gray => ⟨byte column, byte column, byte column, 255⟩
  | grayAlpha =>
    let shade := byte (2 * column)
    ⟨shade, shade, shade, byte (2 * column + 1)⟩
  | rgb => ⟨byte (3 * column), byte (3 * column + 1), byte (3 * column + 2), 255⟩
  | rgba =>
    ⟨byte (4 * column), byte (4 * column + 1), byte (4 * column + 2), byte (4 * column + 3)⟩

end Layout

/-- The picture of rows that no filter was applied to. -/
def picture? (layout : Layout) (width height : Nat) (data : Array UInt8) : Option Pixels :=
  let row := layout.rowBytes width + 1
  if height * row ≤ data.size ∧ (List.range height).all fun y => data.getD (y * row) 1 == 0 then
    some (.ofFn width height fun x y => layout.pixel data (y * row + 1) x)
  else none

/-- The picture of a file. -/
def decode? (bytes : Bytes) : Option Pixels := do
  let (start, rest) ← take? signature.length bytes
  if start ≠ signature then none
  let chunks ← chunks? (rest.length + 1) rest
  match chunks with
  | (name, header) :: chunks =>
    let (width, header) ← word? header
    let (height, header) ← word? header
    match header with
    | [depth, colour, 0, 0, 0] =>
      let layout ← Layout.of? depth colour
      if name ≠ "IHDR".toUTF8.toList ∨ width = 0 ∨ height = 0 then none
      let parts := chunks.filter (·.1 = "IDAT".toUTF8.toList)
      let data ← unstream? (parts.flatMap Prod.snd)
      picture? layout width height data.toArray
    | _ => none
  | [] => none

end Png

end LabelPress
