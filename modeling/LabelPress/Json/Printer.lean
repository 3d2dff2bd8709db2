import LabelPress.Json.Basic
import LabelPress.Number.Format
import LabelPress.Number.Hex
import LabelPress.Text.Quoted

/-!
# Writing JSON

The text has no blanks. A number that is not finite has no JSON form and is written as `null`.

## Main definitions

* `Json.render` - the text of a value.
* `Json.quote` - a text in quotes; only quotes, backslashes and control characters are escaped.
-/

namespace LabelPress.Json

open LabelPress.Number LabelPress.Text

/-- A character inside quotes. -/
def escapeChar (c : Char) : List Char :=
  if c = '"' then ['\\', '"']
  else if c = '\\' then ['\\', '\\']
  else if c = '\x08' then ['\\', 'b']
  else if c = '\t' then ['\\', 't']
  else if c = '\n' then ['\\', 'n']
  else if c = '\x0c' then ['\\', 'f']
  else if c = '\r' then ['\\', 'r']
  else if c.toNat < 32 then
    ['\\', 'u', '0', '0'] ++ hexByte c.toNat.toUInt8
  else [c]

/-- A text in quotes. -/
def quote (s : String) : String :=
  "\"" ++ onChars (List.flatMap escapeChar) s ++ "\""

/-- A number that is not an integer. -/
def renderReal (x : Float) : String :=
  if x.isFinite then FloatFormat.json.render x else "null"

mutual

/-- The text of a value. -/
def render : Json → String
  | null => "null"
  | bool value => if value then "true" else "false"
  | integer value => toString value
  | real value => renderReal value
  | string value => quote value
  | array items => "[" ++ renderItems items ++ "]"
  | object fields => "\x7b" ++ renderFields fields ++ "\x7d"

/-- The items with commas between them. -/
def renderItems : List Json → String
  | [] => ""
  | [item] => item.render
  | item :: next :: items => item.render ++ "," ++ renderItems (next :: items)

/-- The fields with commas between them. -/
def renderFields : List (String × Json) → String
  | [] => ""
  | [(key, value)] => quote key ++ ":" ++ value.render
  | (key, value) :: next :: fields =>
    quote key ++ ":" ++ value.render ++ "," ++ renderFields (next :: fields)

end

example : render (.object [("a", .array [.null, .real 2]), ("b\n", .integer (-3))])
    = "\x7b\"a\":[null,2.0],\"b\\n\":-3\x7d" := by
  decide +kernel

end LabelPress.Json
