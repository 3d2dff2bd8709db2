import LabelPress.Json.Numeral

/-!
# Reading JSON

Readers take a text apart from the left and stop at the first fault. A whole value needs one
reader, `value`; a value of a known kind has a reader that says what it expected, `string` or
`float` for instance.

## Main definitions

* `Reader` - what is read from the front of a text, and what is left of it.
* `array`, `object` - the items of a list and the fields of an object, by a reader for one of them.
* `value` - any value.
* `unexpected` - the fault of a value of the wrong kind.
* `run` - a reader for a whole text.
-/

namespace LabelPress.Json

open LabelPress.Number

/-- Reads from the front of a text. -/
abbrev Reader (α : Type) := StateT (List Char) (Except Fault) α

namespace Reader

/-- How many lists and objects may be open at once. -/
def maxDepth : Nat := 127

/-- The four characters that may stand between the parts of a text. -/
def isSpace (c : Char) : Bool :=
  c == ' ' || c == '\t' || c == '\n' || c == '\r'

/-- The next character that is no space; it is not taken. -/
def peek : Reader (Option Char) := fun s =>
  let rest := s.dropWhile isSpace
  .ok (rest.head?, rest)

/-- Takes one character. -/
def advance : Reader Unit :=
  modify List.tail

/-- Takes the rest of a word. -/
def word : List Char → Reader Unit
  | [] => pure ()
  | c :: cs => do
    match ← get with
    | [] => throw .endInValue
    | d :: s =>
      if c = d then
        set s
        word cs
      else throw .badWord

/-! ## Strings -/

/-- The number in four hexadecimal digits. Where they are wrong it matters whether four bytes are
left at all. -/
def hexEscape : List Char → Except Fault (Nat × List Char)
  | a :: b :: c :: d :: s =>
    match natOfHex? [a, b, c, d] with
    | some n => .ok (n, s)
    | none => .error .badEscape
  | s => .error (if (String.ofList s).utf8ByteSize < 4 then .endInString else .badEscape)

/-- The character of an escape without digits. -/
def simpleEscape? (c : Char) : Option Char :=
  if c = '"' ∨ c = '\\' ∨ c = '/' then some c
  else if c = 'b' then some '\x08'
  else if c = 'f' then some '\x0c'
  else if c = 'n' then some '\n'
  else if c = 'r' then some '\r'
  else if c = 't' then some '\t'
  else none

/-- The second half of a character whose first half is `high`. -/
def lowHalf (high : Nat) (s : List Char) : Except Fault (Char × List Char) :=
  match s with
  | [] => .error .endInString
  | ['\\'] => .error .endInString
  | '\\' :: 'u' :: s => do
    let (low, s) ← hexEscape s
    if 0xDC00 ≤ low ∧ low ≤ 0xDFFF then
      return (Char.ofNat (0x10000 + (high - 0xD800) * 0x400 + (low - 0xDC00)), s)
    else throw .loneHalf
  | _ => .error .halfCharacter

/-- The character that four hexadecimal digits stand for, together with a second half where they
are the first one. -/
def unicodeEscape (s : List Char) : Except Fault (Char × List Char) := do
  let (n, s) ← hexEscape s
  if 0xDC00 ≤ n ∧ n ≤ 0xDFFF then throw .loneHalf
  else if 0xD800 ≤ n ∧ n < 0xDC00 then lowHalf n s
  else return (Char.ofNat n, s)

/-- The character after a backslash. -/
def escape : List Char → Except Fault (Char × List Char)
  | [] => .error .endInString
  | 'u' :: s => unicodeEscape s
  | c :: s =>
    match simpleEscape? c with
    | some c => .ok (c, s)
    | none => .error .badEscape

/-- The next character of a string; none at the closing quote. -/
def stringChar : List Char → Except Fault (Option Char × List Char)
  | [] => .error .endInString
  | '"' :: s => .ok (none, s)
  | '\\' :: s => (escape s).map fun (c, s) => (some c, s)
  | c :: s => if c.toNat < 32 then .error .controlCharacter else .ok (some c, s)

/-- The characters up to the closing quote. Each takes at least one character of the text, so
`fuel` at the length of the text suffices; `done` holds those before, the last one first. -/
def stringChars : (fuel : Nat) → (done : List Char) → List Char →
    Except Fault (List Char × List Char)
  | 0, _, _ => .error .endInString
  | fuel + 1, done, s =>
    match stringChar s with
    | .ok (some c, rest) => stringChars fuel (c :: done) rest
    | .ok (none, rest) => .ok (done.reverse, rest)
    | .error fault => .error fault

/-- The rest of a string after its opening quote. -/
def stringRest : Reader String := fun s =>
  (stringChars (s.length + 1) [] s).map fun (cs, rest) => (String.ofList cs, rest)

/-! ## Numbers -/

def number : Reader Json := fun s => do
  let (numeral, rest) ← Numeral.read .endInValue s
  return (← numeral.value, rest)

/-! ## Lists and objects -/

/-- Whether another item follows in a list; the comma before it is taken. -/
def hasItem (first : Bool) : Reader Bool := do
  match ← peek with
  | none => throw .endInArray
  | some c =>
    if c = ']' then return false
    else if first then return true
    else if c = ',' then
      advance
      match ← peek with
      | none => throw .endInValue
      | some c => if c = ']' then throw .trailingComma else return true
    else throw .noCommaInArray

/-- Takes the end of a list. -/
def closeArray : Reader Unit := do
  match ← peek with
  | none => throw .endInArray
  | some c =>
    if c = ']' then advance
    else if c = ',' then
      advance
      match ← peek with
      | some ']' => throw .trailingComma
      | _ => throw .trailingCharacters
    else throw .trailingCharacters

/-- A key in quotes. -/
def key : Reader (Option String) := do
  advance
  return some (← stringRest)

/-- The key of the next field in an object, if there is one, up to its colon. -/
def nextKey? (first : Bool) : Reader (Option String) := do
  match ← peek with
  | none => throw .endInObject
  | some c =>
    if c = '}' then return none
    else if first then
      if c = '"' then key else throw .keyNotString
    else if c = ',' then
      advance
      match ← peek with
      | none => throw .endInValue
      | some c =>
        if c = '"' then key
        else if c = '}' then throw .trailingComma
        else throw .keyNotString
    else throw .noCommaInObject

/-- Takes the colon between a key and its value. -/
def colon : Reader Unit := do
  match ← peek with
  | none => throw .endInObject
  | some c => if c = ':' then advance else throw .noColon

/-- Takes the end of an object. -/
def closeObject : Reader Unit := do
  match ← peek with
  | none => throw .endInObject
  | some c =>
    if c = '}' then advance
    else if c = ',' then throw .trailingComma
    else throw .trailingCharacters

/-- Reads the items of a list. `step` reads one and adds it to what the items before gave. -/
def foldItems {σ : Type} (step : σ → Reader σ) : (fuel : Nat) → (first : Bool) → σ → Reader σ
  | 0, _, _ => throw .endInArray
  | fuel + 1, first, state => do
    if ← hasItem first then foldItems step fuel false (← step state) else return state

/-- Reads the fields of an object. `step` gets a key in front of the colon, reads the value and
adds it to what the fields before gave. -/
def foldFields {σ : Type} (step : σ → String → Reader σ) :
    (fuel : Nat) → (first : Bool) → σ → Reader σ
  | 0, _, _ => throw .endInObject
  | fuel + 1, first, state => do
    match ← nextKey? first with
    | some key => foldFields step fuel false (← step state key)
    | none => return state

/-- Reads what stands in a list or object whose opening character is next, one level deeper. -/
def descend {α : Type} (depth : Nat) (body : Nat → Reader α) : Reader α :=
  match depth with
  | 0 => throw .tooDeep
  | depth + 1 => do
    advance
    body depth

def items {α : Type} (item : Reader α) : Reader (List α) := do
  let done ← foldItems (fun done => return (← item) :: done) ((← get).length + 1) true []
  closeArray
  return done.reverse

/-- The fields of an object, in order. -/
def fields {α : Type} (item : Reader α) : Reader (List (String × α)) := do
  let step := fun done key => do
    colon
    return (key, ← item) :: done
  let done ← foldFields step ((← get).length + 1) true []
  closeObject
  return done.reverse

/-! ## Values -/

/-- A value, by a reader for the values inside it; none where it may hold no other. -/
def valueOf (inner : Option (Reader Json)) : Reader Json := do
  match ← peek with
  | none => throw .endInValue
  | some c =>
    if c = 'n' then
      word "null".toList
      return .null
    else if c = 't' then
      word "true".toList
      return .bool true
    else if c = 'f' then
      word "false".toList
      return .bool false
    else if c = '-' ∨ c.isDigit then number
    else if c = '"' then
      advance
      return .string (← stringRest)
    else if c = '[' then
      match inner with
      | none => throw .tooDeep
      | some item =>
        advance
        return .array (← items item)
    else if c = '\x7b' then
      match inner with
      | none => throw .tooDeep
      | some item =>
        advance
        return .object (← fields item)
    else throw .noValue

/-- Any value, with at most `depth` lists and objects open. -/
def value : (depth : Nat) → Reader Json
  | 0 => valueOf none
  | depth + 1 => valueOf (some (value depth))

/-- The fault of a value that is not of the expected kind. A word, number or string is read to its
end first and may have a fault of its own; a list or object is not entered. -/
def unexpected {α : Type} (expected : Expected) : Reader α := do
  match ← peek with
  | none => throw .noValue
  | some c =>
    if c = '[' then throw (.invalidType .array expected)
    else if c = '\x7b' then throw (.invalidType .object expected)
    else
      let found ← valueOf none
      throw (.invalidType found.found expected)

/-- The next character of a value, which must be there. -/
def peekValue : Reader Char := do
  match ← peek with
  | none => throw .endInValue
  | some c => return c

/-- A text. -/
def string : Reader String := do
  if (← peekValue) = '"' then
    advance
    stringRest
  else unexpected .string

/-- A number of any kind, as what is expected there. -/
def numberFor {α : Type} (expected : Expected) (ofNumber : Json → Except Fault α) : Reader α := do
  let c ← peekValue
  if c = '-' ∨ c.isDigit then
    ofNumber (← number)
  else unexpected expected

/-- A list, one level deeper, by what reads its items and end. -/
def inArray {α : Type} (expected : Expected) (depth : Nat) (body : Nat → Reader α) : Reader α := do
  if (← peekValue) = '[' then descend depth body else unexpected expected

/-- An object, one level deeper, by what reads its fields and end. -/
def inObject {α : Type} (expected : Expected) (depth : Nat) (body : Nat → Reader α) :
    Reader α := do
  if (← peekValue) = '\x7b' then descend depth body else unexpected expected

/-- The word `null`, or a value. -/
def optional {α : Type} (item : Reader α) : Reader (Option α) := do
  if (← peek) = some 'n' then
    word "null".toList
    return none
  else return some (← item)

/-- Reads a whole text: after the value only spaces may follow. -/
def run {α : Type} (reader : Reader α) (text : String) : Except Fault α := do
  let (result, rest) ← reader text.toList
  if rest.dropWhile isSpace = [] then return result else throw .trailingCharacters

end Reader

/-- The value that a text stands for. -/
def parse (text : String) : Except Fault Json :=
  Reader.run (Reader.value Reader.maxDepth) text

end LabelPress.Json
