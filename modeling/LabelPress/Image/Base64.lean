import LabelPress.Error
import LabelPress.Text.Chars

/-!
# Base 64

Three bytes are written as four digits. The last group may have two or three digits; padding fills
it up to four, and the bits that belong to no byte are zero, so every byte list has one text.

## Main definitions

* `Base64.encode` - the text of bytes.
* `Base64.decode` - the bytes of a text, or the first fault in it.
-/

namespace LabelPress.Base64

abbrev Bytes := List UInt8

/-- The digit for a number below 64. -/
def digit (n : UInt8) : UInt8 :=
  if n < 26 then n + 65 else if n < 52 then n + 71 else if n < 62 then n - 4
  else if n = 62 then 43 else 47

/-- The number of a digit. -/
def value? (c : UInt8) : Option UInt8 :=
  if 65 ≤ c ∧ c ≤ 90 then some (c - 65)
  else if 97 ≤ c ∧ c ≤ 122 then some (c - 71)
  else if 48 ≤ c ∧ c ≤ 57 then some (c + 4)
  else if c = 43 then some 62
  else if c = 47 then some 63
  else none

/-- The character that fills up the last group. -/
def padding : UInt8 := 61

/-! ## Writing -/

/-- The text of bytes. -/
def encode : Bytes → Bytes
  | a :: b :: c :: bytes =>
    digit (a / 4) :: digit (a % 4 * 16 + b / 16) :: digit (b % 16 * 4 + c / 64) :: digit (c % 64)
      :: encode bytes
  | [a, b] => [digit (a / 4), digit (a % 4 * 16 + b / 16), digit (b % 16 * 4), padding]
  | [a] => [digit (a / 4), digit (a % 4 * 16), padding, padding]
  | [] => []

/-! ## Reading -/

/-- The number of the digit at `offset`. -/
def value (offset : Nat) (c : UInt8) : Except Base64Fault UInt8 :=
  match value? c with
  | some n => .ok n
  | none => .error (.invalidByte offset c)

/-- The numbers of digits, or the first byte that is none. -/
def values (offset : Nat) : Bytes → Except Base64Fault (List UInt8)
  | [] => .ok []
  | c :: text => do
    let n ← value offset c
    return n :: (← values (offset + 1) text)

/-- The bytes of four numbers. -/
def groupBytes (a b c d : UInt8) : Bytes :=
  [a * 4 + b / 16, b % 16 * 16 + c / 4, c % 4 * 64 + d]

/-- The bytes of four digits. -/
def group (offset : Nat) (a b c d : UInt8) : Except Base64Fault Bytes := do
  return groupBytes (← value offset a) (← value (offset + 1) b) (← value (offset + 2) c)
    (← value (offset + 3) d)

/-- The digits in front of the padding and the number of padding characters. Padding stands only
behind two digits or three, and nothing stands behind it. -/
def splitPadding (offset : Nat) (text : Bytes) : Except Base64Fault (List UInt8 × Nat) := do
  let digits := text.takeWhile (· != padding)
  let rest := text.dropWhile (· != padding)
  let numbers ← values offset digits
  if rest ≠ [] ∧ (digits.length < 2 ∨ rest.any (· != padding)) then
    throw (.invalidByte (offset + digits.length) padding)
  return (numbers, rest.length)

/-- The bytes of the last group, which stands at `offset`. -/
def lastGroup (offset : Nat) (text : Bytes) : Except Base64Fault Bytes := do
  let (numbers, pads) ← splitPadding offset text
  match numbers with
  | [] => if text = [] then return [] else throw (.invalidLength offset)
  | [_] => throw (.invalidLength (offset + 1))
  | [a, b] =>
    if pads ≠ 2 then throw .invalidPadding
    else if b % 16 ≠ 0 then throw (.invalidLastSymbol (offset + 1) (digit b))
    else return [a * 4 + b / 16]
  | [a, b, c] =>
    if pads ≠ 1 then throw .invalidPadding
    else if c % 4 ≠ 0 then throw (.invalidLastSymbol (offset + 2) (digit c))
    else return [a * 4 + b / 16, b % 16 * 16 + c / 4]
  | a :: b :: c :: d :: _ => return groupBytes a b c d

/-- The bytes of a text from `offset` on, by groups of four digits. `done` holds the bytes before
it, the last one first. -/
def decodeFrom (offset : Nat) (done : Bytes) (text : Bytes) : Except Base64Fault Bytes :=
  match text with
  | a :: b :: c :: d :: e :: rest => do
    let bytes ← group offset a b c d
    decodeFrom (offset + 4) (bytes.reverse ++ done) (e :: rest)
  | text => (lastGroup offset text).map (done.reverse ++ ·)

/-- The bytes of a text. A text that is one byte too long is first tried for a last byte that is no
digit. -/
def decode (text : Bytes) : Except Base64Fault Bytes :=
  match text.getLast? with
  | some c =>
    if text.length % 4 = 1 ∧ c ≠ padding ∧ value? c = none then
      .error (.invalidByte (text.length - 1) c)
    else decodeFrom 0 [] text
  | none => .ok []

example : (decode "aGk=".toUTF8.toList).toOption = some [104, 105] := by decide +kernel

end LabelPress.Base64
