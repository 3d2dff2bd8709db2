import LabelPress.Number.Hex
import LabelPress.Text.Blank
import LabelPress.Text.UpperCase
import LabelPress.Zpl.Rfid

/-!
# Writing tags

Values for a tag become lines at the start of the label. Only hexadecimal digits are ever written.

## Main definitions

* `TagWrite` - a value for a bank.
* `normalizeHex` - a value without blanks and in upper case.
* `TagWrite.line?`, `writeBlock` - the line of a write and the lines of several.
* `injectBlock` - a document with the lines after its first start of format.
-/

namespace LabelPress

open LabelPress.Number LabelPress.Text LabelPress.Zpl

/-- A value for a bank of a tag. -/
structure TagWrite where
  bank : MemoryBank
  /-- The value as it was entered. -/
  value : String
deriving DecidableEq, Repr

/-- The value without any blank, in upper case. -/
def normalizeHex (value : String) : String :=
  onChars (fun s => upper (dropBlanks s)) value

/-- The line that writes the value. A value that is empty or not hexadecimal is not written, and
neither is any value to a bank that is read only. -/
def TagWrite.line? (scheme : RfidScheme) (write : TagWrite) : Option String :=
  let value := normalizeHex write.value
  if value ≠ "" ∧ value.toList.all (hexDigit? · |>.isSome) then
    (scheme.access write.bank).write.map (writeTag · value)
  else none

/-- The lines of the writes that have one. -/
def writeBlock (scheme : RfidScheme) (writes : List TagWrite) : String :=
  joinLines (writes.filterMap (TagWrite.line? scheme))

/-- The place of the first occurrence of a pattern, counted from `place`. -/
def placeOf? (pattern : List Char) (place : Nat) : List Char → Option Nat
  | [] => if pattern = [] then some place else none
  | c :: s =>
    if (dropText? pattern (c :: s)).isSome then some place else placeOf? pattern (place + 1) s

/-- The command that starts a label. -/
def startFormat : List Char := ['^', 'X', 'A']

/-- The document with the block on lines of its own after the first start of format. Without a
block, or without a start of format, the document stays as it is. -/
def injectBlock (document block : String) : String :=
  if block = "" then document
  else match placeOf? startFormat 0 document.toList with
    | some place =>
      let head := document.toList.take (place + startFormat.length)
      let tail := document.toList.drop (place + startFormat.length)
      String.ofList head ++ "\n" ++ block ++ "\n" ++ String.ofList tail
    | none => document

end LabelPress
