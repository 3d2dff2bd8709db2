import LabelPress.Number.Parse

/-!
# JSON values

Numbers keep apart what was written as an integer and what was not. Objects keep their fields in
the order of the text, repeated keys included.

## Main definitions

* `Json` - a value.
* `insertField`, `Json.canonical` - fields in the order of their keys; of a repeated key the last
  value stays.
-/

namespace LabelPress

/-- A JSON value. -/
inductive Json where
  | null
  | bool (value : Bool)
  /-- A number written as an integer. -/
  | integer (value : Int)
  | real (value : Float)
  | string (value : String)
  | array (items : List Json)
  /-- A list of keys with values. -/
  | object (fields : List (String × Json))
deriving Inhabited, Repr

/-- Puts a field in its place among fields in the order of their keys; a field of the same key is
replaced. -/
def insertField {α : Type} (key : String) (value : α) : List (String × α) → List (String × α)
  | [] => [(key, value)]
  | (k, v) :: fields =>
    if key < k then (key, value) :: (k, v) :: fields
    else if key = k then (key, value) :: fields
    else (k, v) :: insertField key value fields

/-- The fields in the order of their keys, the last of each key. -/
def sortFields {α : Type} (fields : List (String × α)) : List (String × α) :=
  fields.foldl (fun sorted (key, value) => insertField key value sorted) []

namespace Json

mutual

/-- The value with the fields of all objects in the order of their keys. -/
def canonical : Json → Json
  | array items => array (canonicalItems items)
  | object fields => object (sortFields (canonicalFields fields))
  | value => value

/-- The items, each in canonical form. -/
def canonicalItems : List Json → List Json
  | [] => []
  | item :: items => item.canonical :: canonicalItems items

/-- The fields, each value in canonical form. -/
def canonicalFields : List (String × Json) → List (String × Json)
  | [] => []
  | (key, value) :: fields => (key, value.canonical) :: canonicalFields fields

end

/-- The least integer of 64 bits. -/
def minInteger : Int := -0x8000000000000000

/-- The greatest integer of 64 bits without a sign. -/
def maxInteger : Int := 0xffffffffffffffff

end Json

end LabelPress
