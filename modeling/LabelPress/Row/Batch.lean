import LabelPress.Placeholder
import LabelPress.Row.Basic
import LabelPress.TagWrite
import Std.Data.TreeSet

/-!
# Filling a document from rows

Each row fills the placeholders of a document once. A column map says which column supplies which
variable.

## Main definitions

* `rowColumns`, `autoColumnMap` - the columns of rows, and the map of those that name a variable.
* `rowVariables` - the values that a row supplies.
* `batch` - a document for each row.
* `batchWithTags` - the same, with values for the tag of each label.
* `expandRows` - one or the other, as columns for tags are given or not.
-/

namespace LabelPress

open LabelPress.Text LabelPress.Zpl

/-- The variable that each column supplies. -/
abbrev ColumnMap := Std.TreeMap String String

/-- The columns that occur in any row, in order. -/
def rowColumns (rows : List Row) : List String :=
  (rows.foldl (fun columns row => row.keys.foldl (·.insert ·) columns)
    (∅ : Std.TreeSet String)).toList

/-- Every column that is named like a variable supplies that variable. -/
def autoColumnMap (columns fillable : List String) : ColumnMap :=
  (columns.filter (· ∈ fillable)).foldl (fun map column => map.insert column column) {}

/-- The values that a row supplies, by the name of the variable without blanks around it. Columns
are taken in order, so the last of several for one variable decides; a column that the row does not
have supplies nothing. -/
def rowVariables (row : Row) (map : ColumnMap) : Variables :=
  map.toList.foldl
    (fun values (column, variableName) =>
      match row[column]? with
      | some cell => values.insert (trim variableName) cell.display
      | none => values) {}

def fillRow (document : String) (map : ColumnMap) (row : Row) : String :=
  substitute document (rowVariables row map)

/-- A document for each row, in order. -/
def batch (document : String) (rows : List Row) (map : ColumnMap) : List String :=
  rows.map (fillRow document map)

/-- The columns whose values are written to the tags. -/
structure TagColumns where
  /-- The column for the product code. -/
  epc : Option String := none
  /-- The column for the user memory. -/
  userData : Option String := none
deriving DecidableEq, Repr

namespace TagColumns

/-- Whether no column is written. -/
def isEmpty (columns : TagColumns) : Bool :=
  columns.epc.isNone && columns.userData.isNone

/-- The write of a bank from a row that has the column. -/
def write? (row : Row) (bank : MemoryBank) (column : Option String) : Option TagWrite := do
  let cell ← row[← column]?
  return { bank, value := cell.display }

/-- The writes of a row, the product code first. -/
def writes (columns : TagColumns) (row : Row) : List TagWrite :=
  (write? row .epc columns.epc).toList ++ (write? row .userData columns.userData).toList

end TagColumns

/-- The document filled from one row, with the values for its tag. -/
def fillRowWithTags (document : String) (map : ColumnMap) (columns : TagColumns)
    (scheme : RfidScheme) (row : Row) : String :=
  injectBlock (fillRow document map row) (writeBlock scheme (columns.writes row))

/-- A document for each row, with the values for its tag. -/
def batchWithTags (document : String) (rows : List Row) (map : ColumnMap) (columns : TagColumns)
    (scheme : RfidScheme) : List String :=
  rows.map (fillRowWithTags document map columns scheme)

/-- A document for each row, with the values for its tag if there are columns for them. -/
def expandRows (document : String) (rows : List Row) (map : ColumnMap) (columns : TagColumns)
    (scheme : RfidScheme) : List String :=
  if columns.isEmpty then batch document rows map
  else batchWithTags document rows map columns scheme

end LabelPress
