import LabelPress.Json.Reader
import LabelPress.Element.Json
import Std.Data.TreeMap

/-!
# Rows of data

A row holds cells by the name of their column. Rows come as a JSON list of objects.

## Main definitions

* `Cell`, `Cell.display` - a cell and the text that prints for it.
* `Row` - the cells by column, in the order of the names.
* `parseRows` - reads rows.
-/

namespace LabelPress

open LabelPress.Number Json

/-- What a cell holds. -/
inductive Cell where
  | text (value : String)
  | number (value : Float)
  | bool (value : Bool)
  | empty
deriving DecidableEq, Repr

namespace Cell

/-- The text that prints for the cell. -/
def display : Cell → String
  | text value => value
  | number value => FloatFormat.plain.render value
  | bool value => if value then "true" else "false"
  | empty => ""

/-- The cell in JSON. A number stays a float even where it was written as an integer. -/
def toJson : Cell → Json
  | text value => .string value
  | number value => .real value
  | bool value => .bool value
  | empty => .null

/-- The cell of a value that is neither a list nor an object. -/
def ofJson : Json → Except Fault Cell
  | .string value => .ok (text value)
  | .integer value => .ok (number (Float.ofInt value))
  | .real value => .ok (number value)
  | .bool value => .ok (bool value)
  | .null => .ok empty
  | .array _ | .object _ => .error .noCell

end Cell

/-- The cells of a row by column. -/
abbrev Row := Std.TreeMap String Cell

/-- The row of a list of columns with cells; the last of each column stays. -/
def rowOfFields (fields : List (String × Cell)) : Row :=
  fields.foldl (fun row (column, cell) => row.insert column cell) {}

def readCell (depth : Nat) : Reader Cell := do
  let value ← Reader.value depth
  (Cell.ofJson value : Except Fault Cell)

def readRow (depth : Nat) : Reader Row := do
  let fields ← Reader.inObject .object depth fun depth => Reader.fields (readCell depth)
  return rowOfFields fields

/-- The rows that a text describes. -/
def parseRows (text : String) : Except Fault (List Row) :=
  Reader.run (Reader.inArray .array Reader.maxDepth fun depth => Reader.items (readRow depth)) text

end LabelPress
