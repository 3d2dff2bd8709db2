import LabelPress.Json.Printer

/-!
# What can be wrong with JSON

A text may fail to be JSON, or it may hold a value that is not the one expected at its place.

## Main definitions

* `Json.Fault` - the causes.
* `Json.Fault.message` - their wording.
-/

namespace LabelPress.Json

open LabelPress.Number LabelPress.Text

/-- A kind of value that was found. -/
inductive Found where
  | integer (value : Int)
  | real (value : Float)
  | bool (value : Bool)
  | string (value : String)
  | null
  | array
  | object
deriving Repr

/-- The kind of a value. -/
def found : Json → Found
  | .null => .null
  | .bool value => .bool value
  | .integer value => .integer value
  | .real value => .real value
  | .string value => .string value
  | .array _ => .array
  | .object _ => .object

/-- The wording of what was found. -/
def Found.phrase : Found → String
  | integer value => "integer `" ++ toString value ++ "`"
  | real value => "floating point `" ++ FloatFormat.json.render value ++ "`"
  | bool value => "boolean `" ++ (if value then "true" else "false") ++ "`"
  | string value => "string " ++ Text.quote value
  | null => "null"
  | array => "sequence"
  | object => "map"

/-- A kind of value that a place is for. -/
inductive Expected where
  | float
  | int32
  /-- An integer of 32 bits, not negative. -/
  | nat32
  | string
  | bool
  | unit
  | array
  | object
  | record (name : String)
  /-- A list of the fields of an object. -/
  | recordList (name : String) (size : Nat)
  /-- The name of one of several cases. -/
  | caseName
  /-- The number of one of several cases. -/
  | caseIndex (count : Nat)
  /-- A case by its name, or by an object. -/
  | nameOrObject
  | singleField
deriving DecidableEq, Repr

/-- The wording of what was expected. -/
def Expected.phrase : Expected → String
  | float => "f64"
  | int32 => "i32"
  | nat32 => "u32"
  | string => "a string"
  | bool => "a boolean"
  | unit => "unit"
  | array => "a sequence"
  | object => "a map"
  | record name => "struct " ++ name
  | recordList name size => "struct " ++ name ++ " with " ++ toString size ++ " elements"
  | caseName => "variant identifier"
  | caseIndex count => "variant index 0 <= i < " ++ toString count
  | nameOrObject => "string or map"
  | singleField => "map with a single key"

/-- What is wrong with a JSON text. -/
inductive Fault where
  /-- The text ends where a value should stand. -/
  | endInValue
  /-- The text ends inside a list. -/
  | endInArray
  /-- The text ends inside an object. -/
  | endInObject
  /-- The text ends inside a string. -/
  | endInString
  | noValue
  /-- A word that is none of the three. -/
  | badWord
  | noColon
  /-- Neither another item nor the end of a list. -/
  | noCommaInArray
  /-- Neither another field nor the end of an object. -/
  | noCommaInObject
  /-- A key that is no string. -/
  | keyNotString
  /-- A comma before the end of a list or object. -/
  | trailingComma
  | trailingCharacters
  | badNumber
  | numberTooLarge
  /-- A backslash before a wrong character, or wrong hexadecimal digits. -/
  | badEscape
  /-- The first half of a character without the second. -/
  | halfCharacter
  /-- Two halves that are no character. -/
  | loneHalf
  /-- A control character in a string. -/
  | controlCharacter
  /-- Too many open lists and objects. -/
  | tooDeep
  /-- A field that must be there is not. -/
  | missingField (name : String)
  | duplicateField (name : String)
  /-- A value of the wrong kind. -/
  | invalidType (found : Found) (expected : Expected)
  /-- A value of the right kind that is not allowed. -/
  | invalidValue (found : Found) (expected : Expected)
  /-- A list that is too short. -/
  | invalidLength (length : Nat) (expected : Expected)
  /-- A name that is none of the cases. -/
  | unknownCase (name : String) (cases : List String)
  /-- A cell that is a list or an object. -/
  | noCell
  /-- An element that is no object. -/
  | notAnObject (value : Json)
  /-- A fault in an element of a list. -/
  | inElement (index : Nat) (cause : Fault)
  /-- An element of unknown type, which has no JSON form. -/
  | unknownElement
deriving Repr

/-- Names in backticks with commas between them. -/
def nameList (names : List String) : String :=
  ", ".intercalate (names.map fun name => "`" ++ name ++ "`")

namespace Fault

/-- The wording of a fault. -/
def message : Fault → String
  | endInValue => "EOF while parsing a value"
  | endInArray => "EOF while parsing a list"
  | endInObject => "EOF while parsing an object"
  | endInString => "EOF while parsing a string"
  | noValue => "expected value"
  | badWord => "expected ident"
  | noColon => "expected `:`"
  | noCommaInArray => "expected `,` or `]`"
  | noCommaInObject => "expected `,` or `\x7d`"
  | keyNotString => "key must be a string"
  | trailingComma => "trailing comma"
  | trailingCharacters => "trailing characters"
  | badNumber => "invalid number"
  | numberTooLarge => "number out of range"
  | badEscape => "invalid escape"
  | halfCharacter => "unexpected end of hex escape"
  | loneHalf => "lone leading surrogate in hex escape"
  | controlCharacter => "control character (\\u0000-\\u001F) found while parsing a string"
  | tooDeep => "recursion limit exceeded"
  | missingField name => "missing field `" ++ name ++ "`"
  | duplicateField name => "duplicate field `" ++ name ++ "`"
  | invalidType found expected =>
    "invalid type: " ++ found.phrase ++ ", expected " ++ expected.phrase
  | invalidValue found expected =>
    "invalid value: " ++ found.phrase ++ ", expected " ++ expected.phrase
  | invalidLength length expected =>
    "invalid length " ++ toString length ++ ", expected " ++ expected.phrase
  | unknownCase name cases => "unknown variant `" ++ name ++ "`, expected one of " ++ nameList cases
  | noCell => "data did not match any variant of untagged enum CellValue"
  | notAnObject value => "expected object, got " ++ value.render
  | inElement index cause => "elements[" ++ toString index ++ "]: " ++ cause.message
  | unknownElement => "the enum variant ElementKind::Unknown cannot be serialized"

end Fault

end LabelPress.Json
