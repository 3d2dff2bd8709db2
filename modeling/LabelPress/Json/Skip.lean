import LabelPress.Json.Reader

/-!
# Skipping JSON

The value of a field that nobody asks for is passed over. It must be well formed, but it may be
nested without bound, its numbers may be of any size, and the halves of characters in its strings
need not fit together.

## Main definitions

* `Reader.skip` - passes over one value.
-/

namespace LabelPress.Json.Reader

/-- Passes over a character of a string; false at the closing quote. -/
def skipStringChar : List Char → Except Fault (Bool × List Char)
  | [] => .error .endInString
  | '"' :: s => .ok (false, s)
  | ['\\'] => .error .endInString
  | '\\' :: 'u' :: s => (hexEscape s).map fun (_, s) => (true, s)
  | '\\' :: c :: s => if (simpleEscape? c).isSome then .ok (true, s) else .error .badEscape
  | c :: s => if c.toNat < 32 then .error .controlCharacter else .ok (true, s)

/-- Passes over the characters up to the closing quote. -/
def skipStringChars : (fuel : Nat) → List Char → Except Fault (Unit × List Char)
  | 0, _ => .error .endInString
  | fuel + 1, s =>
    match skipStringChar s with
    | .ok (true, rest) => skipStringChars fuel rest
    | .ok (false, rest) => .ok ((), rest)
    | .error fault => .error fault

/-- Passes over the rest of a string after its opening quote. -/
def skipString : Reader Unit := fun s =>
  skipStringChars (s.length + 1) s

/-- Passes over a number. -/
def skipNumber : Reader Unit := fun s =>
  (Numeral.read .badNumber s).map fun (_, rest) => ((), rest)

/-- Passes over a key and its colon. -/
def skipKey : Reader Unit := do
  match ← peek with
  | none => throw .endInObject
  | some c =>
    if c = '"' then
      advance
      skipString
      colon
    else throw .keyNotString

/-- Passes over the items of a list and its end. -/
def skipItems (item : Reader Unit) : (fuel : Nat) → (first : Bool) → Reader Unit
  | 0, _ => throw .endInArray
  | fuel + 1, first => do
    match ← peek with
    | none => throw .endInArray
    | some c =>
      if c = ']' then advance
      else if first then
        item
        skipItems item fuel false
      else if c = ',' then
        advance
        item
        skipItems item fuel false
      else throw .noCommaInArray

/-- Passes over the fields of an object and its end. -/
def skipFields (item : Reader Unit) : (fuel : Nat) → (first : Bool) → Reader Unit
  | 0, _ => throw .endInObject
  | fuel + 1, first => do
    match ← peek with
    | none => throw .endInObject
    | some c =>
      if c = '}' then advance
      else if first then
        skipKey
        item
        skipFields item fuel false
      else if c = ',' then
        advance
        skipKey
        item
        skipFields item fuel false
      else throw .noCommaInObject

/-- Passes over a value in which at most `depth` lists and objects are open. -/
def skipValue : (depth : Nat) → Reader Unit
  | 0 => throw .endInValue
  | depth + 1 => do
    let c ← peekValue
    if c = 'n' then word "null".toList
    else if c = 't' then word "true".toList
    else if c = 'f' then word "false".toList
    else if c = '-' ∨ c.isDigit then skipNumber
    else if c = '"' then
      advance
      skipString
    else if c = '[' then
      advance
      skipItems (skipValue depth) ((← get).length + 1) true
    else if c = '\x7b' then
      advance
      skipFields (skipValue depth) ((← get).length + 1) true
    else throw .noValue

/-- Passes over a value. No more lists and objects can be open than the text has characters. -/
def skip : Reader Unit := do
  skipValue ((← get).length + 1)

end LabelPress.Json.Reader
