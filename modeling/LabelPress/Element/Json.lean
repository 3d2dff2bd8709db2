import LabelPress.Element.Basic
import LabelPress.Json.Reader

/-!
# Elements in JSON

An element is one object: the fields of its frame, its type, and the fields of its kind. Fields
are read in the order in which they stand, the frame before all else, so that the first fault in
that order is the one reported.

## Main definitions

* `Element.ofFields` - reads an element of a known type.
* `Element.ofJson` - the same for an entry of a list, where an element of unknown type keeps its
  frame.
* `Element.toJson` - writes an element; one of unknown type has no JSON form.
-/

namespace LabelPress

open LabelPress.Number

namespace Json

/-- A number. -/
def asFloat : Json → Except Fault Float
  | .integer n => .ok (Float.ofInt n)
  | .real x => .ok x
  | value => .error (.invalidType value.found .float)

/-- An integer of 32 bits. -/
def asInt32 : Json → Except Fault Int
  | .integer n =>
    if int32Min ≤ n ∧ n ≤ int32Max then .ok n else .error (.invalidValue (.integer n) .int32)
  | value => .error (.invalidType value.found .int32)

/-- A text. -/
def asString : Json → Except Fault String
  | .string s => .ok s
  | value => .error (.invalidType value.found .string)

/-- A truth value. -/
def asBool : Json → Except Fault Bool
  | .bool b => .ok b
  | value => .error (.invalidType value.found .bool)

/-- The word `null`, or a text. -/
def asOptionalString : Json → Except Fault (Option String)
  | .null => .ok none
  | value => value.asString.map some

/-- The word `null`, or an object without fields. -/
def asUnit : Json → Except Fault Unit
  | .null | .object [] => .ok ()
  | value => .error (.invalidType value.found .unit)

/-- Text, or `null` for none. -/
def ofOptionalString : Option String → Json
  | some s => .string s
  | none => .null

/-- Sets one field after another. `set` says what a field changes, and nothing for a key that it
does not know; a known key may stand only once. The keys that stood there are returned too. -/
def setFields {σ : Type} (set : σ → String → Json → Option (Except Fault σ)) :
    List (String × Json) → σ → List String → Except Fault (σ × List String)
  | [], state, seen => .ok (state, seen)
  | (key, value) :: fields, state, seen =>
    match set state key value with
    | none => setFields set fields state seen
    | some result =>
      if key ∈ seen then .error (.duplicateField key)
      else do setFields set fields (← result) (key :: seen)

end Json

open Json

/-! ## Reading -/

namespace TextAlign

/-- The alignments by name. -/
def names : List (String × TextAlign) :=
  [("left", .left), ("center", .center), ("right", .right)]

/-- The alignment of a name. -/
def ofName (name : String) : Except Fault TextAlign :=
  match names.lookup name with
  | some align => .ok align
  | none => .error (.unknownCase name (names.map Prod.fst))

/-- An alignment by its name, or by an object with the name as its only key. -/
def ofJson : Json → Except Fault TextAlign
  | .string name => ofName name
  | .object [(name, value)] => do
    let align ← ofName name
    value.asUnit
    return align
  | .object _ => .error (.invalidValue .object .singleField)
  | value => .error (.invalidType value.found .nameOrObject)

/-- The name of the alignment. -/
def name : TextAlign → String
  | left => "left"
  | center => "center"
  | right => "right"

end TextAlign

namespace Frame

/-- The keys of a frame. -/
def keys : List String :=
  ["id", "name", "x", "y", "width", "height", "rotation", "zIndex", "visible"]

/-- Sets the field of a key. -/
def set (f : Frame) (key : String) (value : Json) : Option (Except Fault Frame) :=
  match key with
  | "id" => some do return { f with id := ← value.asString }
  | "name" => some do return { f with name := ← value.asString }
  | "x" => some do return { f with x := ← value.asFloat }
  | "y" => some do return { f with y := ← value.asFloat }
  | "width" => some do return { f with width := ← value.asFloat }
  | "height" => some do return { f with height := ← value.asFloat }
  | "rotation" => some do return { f with rotation := ← value.asFloat }
  | "zIndex" => some do return { f with zIndex := ← value.asInt32 }
  | "visible" => some do return { f with visible := ← value.asBool }
  | _ => none

/-- The frame among the fields of an object; it must have an `id`. -/
def ofFields (fields : List (String × Json)) : Except Fault Frame := do
  let (frame, seen) ← setFields set fields {} []
  if "id" ∈ seen then return frame else throw (.missingField "id")

end Frame

namespace ElementKind

/-- Sets the field of a key. -/
def set (kind : ElementKind) (key : String) (value : Json) : Option (Except Fault ElementKind) :=
  match kind with
  | text t =>
    match key with
    | "content" => some do return text { t with content := ← value.asString }
    | "fontSize" => some do return text { t with fontSize := ← value.asFloat }
    | "fontFamily" => some do return text { t with fontFamily := ← value.asOptionalString }
    | "color" => some do return text { t with color := ← value.asOptionalString }
    | "textAlign" => some do return text { t with textAlign := ← TextAlign.ofJson value }
    | "bold" => some do return text { t with bold := ← value.asBool }
    | "italic" => some do return text { t with italic := ← value.asBool }
    | "dataField" => some do return text { t with dataField := ← value.asOptionalString }
    | _ => none
  | rectangle r =>
    match key with
    | "fill" => some do return rectangle { r with fill := ← value.asOptionalString }
    | "stroke" => some do return rectangle { r with stroke := ← value.asOptionalString }
    | "strokeWidth" => some do return rectangle { r with strokeWidth := ← value.asFloat }
    | "cornerRadius" => some do return rectangle { r with cornerRadius := ← value.asFloat }
    | _ => none
  | ellipse e =>
    match key with
    | "fill" => some do return ellipse { e with fill := ← value.asOptionalString }
    | "stroke" => some do return ellipse { e with stroke := ← value.asOptionalString }
    | "strokeWidth" => some do return ellipse { e with strokeWidth := ← value.asFloat }
    | _ => none
  | line l =>
    match key with
    | "stroke" => some do return line { l with stroke := ← value.asOptionalString }
    | "strokeWidth" => some do return line { l with strokeWidth := ← value.asFloat }
    | _ => none
  | barcode b =>
    match key with
    | "content" => some do return barcode { b with content := ← value.asString }
    | "format" => some do return barcode { b with format := ← value.asString }
    | "dataField" => some do return barcode { b with dataField := ← value.asOptionalString }
    | _ => none
  | image i =>
    match key with
    | "src" => some do return image { i with src := ← value.asString }
    | "alt" => some do return image { i with alt := ← value.asOptionalString }
    | _ => none
  | slot v =>
    match key with
    | "dataField" => some do return slot { v with dataField := ← value.asString }
    | "label" => some do return slot { v with label := ← value.asString }
    | "sampleValue" => some do return slot { v with sampleValue := ← value.asString }
    | "fontFamily" => some do return slot { v with fontFamily := ← value.asOptionalString }
    | _ => none
  | unknown _ => none

/-- The kind with its defaults, by the name of its type or by its place among the types. -/
def ofTag : Json → Except Fault ElementKind
  | .string name =>
    match kinds.lookup name with
    | some kind => .ok kind
    | none => .error (.unknownCase name (kinds.map Prod.fst))
  | .integer n =>
    if n < 0 then .error (.invalidType (.integer n) .caseName)
    else match kinds[n.toNat]? with
      | some (_, kind) => .ok kind
      | none => .error (.invalidValue (.integer n) (.caseIndex kinds.length))
  | value => .error (.invalidType value.found .caseName)

/-- The kind named by the only field `type`. -/
def tagOf : List (String × Json) → Option ElementKind → Except Fault ElementKind
  | [], none => .error (.missingField "type")
  | [], some kind => .ok kind
  | (key, value) :: fields, tag =>
    if key = "type" then
      match tag with
      | some _ => .error (.duplicateField "type")
      | none => do tagOf fields (some (← ofTag value))
    else tagOf fields tag

/-- The kind among the fields of an object. -/
def ofFields (fields : List (String × Json)) : Except Fault ElementKind := do
  let kind ← tagOf fields none
  let (kind, _) ← setFields set fields kind []
  return kind

end ElementKind

namespace Element

/-- The element of a known type that the fields of an object describe. -/
def ofFields (fields : List (String × Json)) : Except Fault Element := do
  let frame ← Frame.ofFields fields
  let kind ← ElementKind.ofFields (fields.filter fun field => !Frame.keys.contains field.1)
  return { frame, kind }

/-- The type that an object names: none for a key `type` that is missing or no text. -/
def typeNameOf (fields : List (String × Json)) : String :=
  match fields.lookup "type" with
  | some (.string name) => name
  | _ => ""

/-- An entry of a list of elements. The fields are read in the order of their keys, the last of each
key. Whatever its type, an element keeps its frame; only the known types have other fields. -/
def ofJson (value : Json) : Except Fault Element :=
  match value.canonical with
  | .object fields =>
    if kinds.any (·.1 = typeNameOf fields) then ofFields fields
    else do return { frame := ← Frame.ofFields fields, kind := .unknown (typeNameOf fields) }
  | value => .error (.notAnObject value)

/-- A list of elements from place `index` on; the first fault is reported with its place. -/
def listOfJson (index : Nat) : List Json → Except Fault (List Element)
  | [] => .ok []
  | value :: values =>
    match ofJson value with
    | .ok element => (listOfJson (index + 1) values).map (element :: ·)
    | .error fault => .error (.inElement index fault)

/-- The element of a known type that a text describes. The fields stay in the order of the text,
and none may stand twice. -/
def parse (text : String) : Except Fault Element :=
  Reader.run (do
    let fields ← Reader.inObject (.record "DesignElement") Reader.maxDepth fun depth =>
      Reader.fields (Reader.value depth)
    ofFields fields) text

end Element

/-! ## Writing -/

namespace Frame

def toFields (f : Frame) : List (String × Json) :=
  [("id", .string f.id), ("name", .string f.name), ("x", .real f.x), ("y", .real f.y),
   ("width", .real f.width), ("height", .real f.height), ("rotation", .real f.rotation),
   ("zIndex", .integer f.zIndex), ("visible", .bool f.visible)]

end Frame

namespace ElementKind

/-- The fields of a kind after its type. -/
def toFields : ElementKind → List (String × Json)
  | text t =>
    [("content", .string t.content), ("fontSize", .real t.fontSize),
     ("fontFamily", ofOptionalString t.fontFamily), ("color", ofOptionalString t.color),
     ("textAlign", .string t.textAlign.name), ("bold", .bool t.bold), ("italic", .bool t.italic),
     ("dataField", ofOptionalString t.dataField)]
  | rectangle r =>
    [("fill", ofOptionalString r.fill), ("stroke", ofOptionalString r.stroke),
     ("strokeWidth", .real r.strokeWidth), ("cornerRadius", .real r.cornerRadius)]
  | ellipse e =>
    [("fill", ofOptionalString e.fill), ("stroke", ofOptionalString e.stroke),
     ("strokeWidth", .real e.strokeWidth)]
  | line l => [("stroke", ofOptionalString l.stroke), ("strokeWidth", .real l.strokeWidth)]
  | barcode b =>
    [("content", .string b.content), ("format", .string b.format),
     ("dataField", ofOptionalString b.dataField)]
  | image i => [("src", .string i.src), ("alt", ofOptionalString i.alt)]
  | slot v =>
    [("dataField", .string v.dataField), ("label", .string v.label),
     ("sampleValue", .string v.sampleValue), ("fontFamily", ofOptionalString v.fontFamily)]
  | unknown _ => []

/-- Whether the type is one of the known ones. -/
def isKnown : ElementKind → Bool
  | unknown _ => false
  | _ => true

end ElementKind

namespace Element

/-- The element as an object, unless its type is unknown. -/
def toJson (e : Element) : Except Fault Json :=
  if e.kind.isKnown then
    .ok (.object (e.frame.toFields ++ ("type", .string e.kind.typeName) :: e.kind.toFields))
  else .error .unknownElement

end Element

end LabelPress
