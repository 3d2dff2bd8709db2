import LabelPress.Element.Json
import LabelPress.Error
import LabelPress.Json.Skip

/-!
# Templates in JSON

A template is an object with a canvas and a list of elements; both it and the canvas may also be
written as lists of their fields in order. Fields that are not known are passed over.

## Main definitions

* `Template.parse` - reads and checks a template.
* `Template.toJson` - writes a template.
-/

namespace LabelPress

open LabelPress.Number Json Json.Reader

namespace Canvas

/-- The fields of a canvas read so far. -/
structure Draft where
  width : Option Float := none
  height : Option Float := none
  dpi : Option Nat := none
  backgroundColor : Option (Option String) := none

/-- A width or a height. -/
def readFloat : Reader Float :=
  numberFor .float Json.asFloat

/-- An integer of 32 bits that is not negative. -/
def asNat32 : Json → Except Fault Nat
  | .integer n =>
    if 0 ≤ n ∧ n ≤ 0xffffffff then .ok n.toNat else .error (.invalidValue (.integer n) .nat32)
  | value => .error (.invalidType value.found .nat32)

/-- A resolution. -/
def readDpi : Reader Nat :=
  numberFor .nat32 asNat32

/-- The canvas of the fields read; a size has no default. -/
def Draft.finish (p : Draft) : Except Fault Canvas :=
  match p.width, p.height with
  | none, _ => .error (.missingField "width")
  | _, none => .error (.missingField "height")
  | some width, some height =>
    .ok {
      width, height, dpi := p.dpi.getD defaultDpi
      backgroundColor := p.backgroundColor.getD none }

/-- Reads the value of a field that may stand only once. -/
def once {α β : Type} (key : String) (before : Option α) (item : Reader β) : Reader β := do
  if before.isSome then throw (.duplicateField key)
  colon
  item

/-- Reads the field of a key. -/
def step (p : Draft) (key : String) : Reader Draft :=
  match key with
  | "width" => do return { p with width := ← once key p.width readFloat }
  | "height" => do return { p with height := ← once key p.height readFloat }
  | "dpi" => do return { p with dpi := ← once key p.dpi readDpi }
  | "backgroundColor" => do
    return { p with backgroundColor := some (← once key p.backgroundColor (optional string)) }
  | _ => do
    colon
    skip
    return p

/-- Reads a field of a list, unless the list has ended before it. -/
def listed {α : Type} (first : Bool) (item : Reader α) : Reader (Option α) := do
  if ← hasItem first then return some (← item) else return none

/-- Reads a canvas from a list of its fields. -/
def readList : Reader Canvas := do
  let some width ← listed true readFloat
    | throw (.invalidLength 0 (.recordList "CanvasConfig" 4))
  let some height ← listed false readFloat
    | throw (.invalidLength 1 (.recordList "CanvasConfig" 4))
  let dpi ← listed false readDpi
  let backgroundColor ← listed false (optional string)
  closeArray
  (Draft.finish { width, height, dpi, backgroundColor } : Except Fault Canvas)

def readObject : Reader Canvas := do
  let p ← foldFields step ((← get).length + 1) true {}
  let canvas ← (p.finish : Except Fault Canvas)
  closeObject
  return canvas

def read (depth : Nat) : Reader Canvas := do
  let c ← peekValue
  if c = '[' then descend depth fun _ => readList
  else if c = '\x7b' then descend depth fun _ => readObject
  else unexpected (.record "CanvasConfig")

/-- The canvas as an object. A colour that is not set is left out. -/
def toJson (c : Canvas) : Json :=
  .object ([("width", .real c.width), ("height", .real c.height), ("dpi", .integer c.dpi)]
    ++ c.backgroundColor.toList.map fun color => ("backgroundColor", .string color))

end Canvas

namespace Template

/-- The fields of a template read so far. -/
structure Draft where
  canvas : Option Canvas := none
  elements : Option (List Element) := none

/-- The template of the fields read. -/
def Draft.finish (p : Draft) : Except Fault Template :=
  match p.canvas with
  | none => .error (.missingField "canvas")
  | some canvas => .ok { canvas, elements := p.elements.getD [] }

/-- Reads a list of elements. The whole list is read before its entries are looked at. -/
def readElements (depth : Nat) : Reader (List Element) := do
  let values ← inArray .array depth fun depth => items (value depth)
  (Element.listOfJson 0 values : Except Fault (List Element))

/-- Reads the field of a key. -/
def step (depth : Nat) (p : Draft) (key : String) : Reader Draft :=
  match key with
  | "canvas" => do return { p with canvas := ← Canvas.once key p.canvas (Canvas.read depth) }
  | "elements" => do
    return { p with elements := ← Canvas.once key p.elements (readElements depth) }
  | _ => do
    colon
    skip
    return p

/-- Reads a template from a list of its fields. -/
def readList (depth : Nat) : Reader Template := do
  let some canvas ← Canvas.listed true (Canvas.read depth)
    | throw (.invalidLength 0 (.recordList "Template" 2))
  let elements ← Canvas.listed false (readElements depth)
  closeArray
  return { canvas, elements := elements.getD [] }

def readObject (depth : Nat) : Reader Template := do
  let p ← foldFields (step depth) ((← get).length + 1) true {}
  let template ← (p.finish : Except Fault Template)
  closeObject
  return template

def read : Reader Template := do
  let c ← peekValue
  if c = '[' then descend maxDepth readList
  else if c = '\x7b' then descend maxDepth readObject
  else unexpected (.record "Template")

/-- The template that a text describes; its canvas must be valid. -/
def parse (text : String) : Except LabelError Template :=
  match Reader.run read text with
  | .error fault => .error (.json fault)
  | .ok template =>
    match template.canvas.check with
    | .error fault => .error (.template (.canvas fault))
    | .ok () => .ok template

/-- The elements as values, up to the first that has no JSON form. -/
def elementValues : List Element → Except Fault (List Json)
  | [] => .ok []
  | e :: es => do
    let value ← e.toJson
    return value :: (← elementValues es)

/-- The template as an object. -/
def toJson (t : Template) : Except Fault Json := do
  let elements ← elementValues t.elements
  return .object [("canvas", t.canvas.toJson), ("elements", .array elements)]

end Template

end LabelPress
