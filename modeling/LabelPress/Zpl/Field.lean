import LabelPress.Text.Chars

/-!
# Field data

The content of a field stands between `^FD` and `^FS`. A caret would start a command there, and a
backslash starts a hexadecimal escape, so neither is written as it is.

## Main definitions

* `escapeChar`, `escape` - user text made safe for a field: a backslash is doubled and a caret
  becomes an underscore, each character by itself.
* `comment` - a remark in the document.
* `FieldData` - where the content of a field comes from.
-/

namespace LabelPress.Zpl

open LabelPress.Text

/-- A character as field data. -/
def escapeChar (c : Char) : List Char :=
  if c = '\\' then ['\\', '\\'] else if c = '^' then ['_'] else [c]

/-- Characters as field data. -/
def escapeChars (s : List Char) : List Char :=
  s.flatMap escapeChar

/-- Text as field data. -/
def escape (s : String) : String :=
  onChars escapeChars s

/-- Escaping goes character by character, so it commutes with concatenation. -/
@[simp] theorem escape_append (s t : String) : escape (s ++ t) = escape s ++ escape t := by
  simp [escape, escapeChars, onChars, String.toList_append]

example : escape "a\\b^c" = "a\\\\b_c" := by decide

/-! ## Remarks -/

/-- A character of a remark: the second command mark becomes a hyphen and a line break a space. -/
def remarkChar (c : Char) : Char :=
  if c = '~' then '-' else if c = '\r' ∨ c = '\n' then ' ' else c

/-- A remark that does not print. It ends at the next command mark and stays on its line, so the
text holds neither. -/
def comment (text : String) : String :=
  "^FX" ++ onChars (fun s => (escapeChars s).map remarkChar) text ++ "^FS"

example : comment "a^b~c\n" = "^FXa_b-c ^FS" := by decide

/-! ## Content -/

/-- Where the content of a field comes from. -/
inductive FieldData where
  /-- A fixed text, not yet escaped. -/
  | literal (text : String)
  /-- A name in double braces, to be filled later. -/
  | placeholder (name : String)
  /-- What the printer read from a tag under this number. -/
  | fieldNumber (number : UInt8)
deriving DecidableEq, Repr

/-- Whether the printer fills the field from a tag. -/
def FieldData.isRfid : FieldData → Bool
  | .fieldNumber _ => true
  | .literal _ | .placeholder _ => false

/-- A name in double braces. -/
def braced (name : String) : String :=
  "\x7b\x7b" ++ name ++ "\x7d\x7d"

/-- The command that ends a field. -/
def fieldEnd : String := "^FS"

/-- The command that names the number of a field. -/
def fieldNumber (number : UInt8) : String :=
  "^FN" ++ toString number.toNat

end LabelPress.Zpl
