import LabelPress.Orientation
import LabelPress.Text.Blank
import LabelPress.Zpl.Rfid

/-!
# Elements

What a designer places on a label. Geometry is in millimetres from the top left corner, font sizes
are in points.

## Main definitions

* `Frame` - place and size, which every element has.
* `ElementKind` - what the element shows; `kinds` lists the known types with their defaults.
* `Element` - both together.
* `Element.Binds` - the name that an element is bound to; `Element.dataField?` finds it.
* `Binding` - what the content of an element is bound to.
-/

namespace LabelPress

open LabelPress.Text LabelPress.Zpl

/-- What every element has. -/
structure Frame where
  /-- The name by which the image of an element is kept. -/
  id : String := ""
  name : String := ""
  x : Float := 0
  y : Float := 0
  width : Float := 0
  height : Float := 0
  rotation : Float := 0
  /-- Elements of a higher layer are printed later. -/
  zIndex : Int := 0
  /-- A hidden element is not printed. -/
  visible : Bool := true
deriving DecidableEq, Repr

def Frame.orientation (f : Frame) : Orientation :=
  .ofDegrees f.rotation

/-- Alignment of text in the designer. -/
inductive TextAlign where
  | left
  | center
  | right
deriving DecidableEq, Repr

structure TextElement where
  /-- The text where nothing is bound. -/
  content : String := ""
  fontSize : Float := 12
  fontFamily : Option String := none
  /-- The colour, which does not print. -/
  color : Option String := none
  /-- The alignment, which does not print. -/
  textAlign : TextAlign := .left
  bold : Bool := false
  italic : Bool := false
  /-- What the text is bound to. -/
  dataField : Option String := none
deriving DecidableEq, Repr

structure RectangleElement where
  fill : Option String := none
  /-- The colour of the border, which does not print. -/
  stroke : Option String := none
  strokeWidth : Float := 1
  cornerRadius : Float := 0
deriving DecidableEq, Repr

structure EllipseElement where
  fill : Option String := none
  /-- The colour of the border, which does not print. -/
  stroke : Option String := none
  strokeWidth : Float := 1
deriving DecidableEq, Repr

/-- A line across its frame. -/
structure LineElement where
  /-- The colour, which does not print. -/
  stroke : Option String := none
  strokeWidth : Float := 1
deriving DecidableEq, Repr

structure BarcodeElement where
  /-- The data where nothing is bound. -/
  content : String := ""
  format : String := "CODE128"
  /-- What the data is bound to. -/
  dataField : Option String := none
deriving DecidableEq, Repr

structure ImageElement where
  src : String := ""
  alt : Option String := none
deriving DecidableEq, Repr

/-- A place for a variable. -/
structure VariableElement where
  /-- What the place is bound to. -/
  dataField : String := ""
  label : String := ""
  /-- The text that prints where nothing is filled in. -/
  sampleValue : String := ""
  fontFamily : Option String := none
deriving DecidableEq, Repr

/-- What an element shows. -/
inductive ElementKind where
  | text (text : TextElement)
  | rectangle (rectangle : RectangleElement)
  | ellipse (ellipse : EllipseElement)
  | line (line : LineElement)
  | barcode (barcode : BarcodeElement)
  | image (image : ImageElement)
  | slot (slot : VariableElement)
  /-- A type that is not known. -/
  | unknown (typeName : String)
deriving DecidableEq, Repr

/-- The known types by name, each with the defaults of its fields. -/
def kinds : List (String × ElementKind) :=
  [("text", .text {}), ("rectangle", .rectangle {}), ("ellipse", .ellipse {}), ("line", .line {}),
   ("barcode", .barcode {}), ("image", .image {}), ("variable", .slot {})]

def ElementKind.typeName : ElementKind → String
  | text _ => "text"
  | rectangle _ => "rectangle"
  | ellipse _ => "ellipse"
  | line _ => "line"
  | barcode _ => "barcode"
  | image _ => "image"
  | slot _ => "variable"
  | unknown name => name

/-- An element of a label. -/
structure Element where
  frame : Frame
  kind : ElementKind
deriving DecidableEq, Repr

/-! ## Bindings -/

/-- What the content of an element is bound to. -/
inductive Binding where
  /-- Nothing: the element prints its own content. -/
  | unbound
  /-- A bank of the tag, which the printer reads. -/
  | rfid (bank : MemoryBank)
  /-- A variable, which is filled in for each label. -/
  | fillable (name : String)
deriving DecidableEq, Repr

namespace Element

/-- The name that the content is bound to, without blanks around it. Only texts, barcodes and
places for variables are bound, and a blank name binds nothing. -/
def dataField? (e : Element) : Option String :=
  let field := match e.kind with
    | .text t => t.dataField
    | .barcode b => b.dataField
    | .slot v => some v.dataField
    | _ => none
  (field.map trim).filter (· ≠ "")

/-- The field in which an element says what its content is bound to, with its blanks. -/
inductive BoundBy (e : Element) : String → Prop where
  | text {t : TextElement} {field : String} (hk : e.kind = .text t)
      (hfield : t.dataField = some field) : BoundBy e field
  | barcode {b : BarcodeElement} {field : String} (hk : e.kind = .barcode b)
      (hfield : b.dataField = some field) : BoundBy e field
  | slot {v : VariableElement} (hk : e.kind = .slot v) : BoundBy e v.dataField

/-- The element is bound to a name: its field is the name with blanks around it, and not blank. -/
def Binds (e : Element) (name : String) : Prop :=
  name ≠ "" ∧ ∃ field, e.BoundBy field ∧ trim field = name

theorem dataField?_eq_some_iff {e : Element} {name : String} :
    e.dataField? = some name ↔ e.Binds name := by
  constructor
  · intro h
    obtain ⟨hmap, hne⟩ := Option.filter_eq_some_iff.1 h
    obtain ⟨field, hfield, hname⟩ := Option.map_eq_some_iff.1 hmap
    refine ⟨of_decide_eq_true hne, field, ?_, hname⟩
    split at hfield
    · rename_i hk
      exact .text hk hfield
    · rename_i hk
      exact .barcode hk hfield
    · rename_i hk
      cases hfield
      exact .slot hk
    · cases hfield
  · intro ⟨hne, field, hfield, hname⟩
    subst hname
    cases hfield with
    | text hk hfield => simp [dataField?, hk, hfield, hne]
    | barcode hk hfield => simp [dataField?, hk, hfield, hne]
    | slot hk => simp [dataField?, hk, hne]

/-- What the content is bound to; the names of the memory banks are reserved. -/
def binding (e : Element) : Binding :=
  match e.dataField? with
  | none => .unbound
  | some name =>
    match MemoryBank.ofName? name with
    | some bank => .rfid bank
    | none => .fillable name

end Element

end LabelPress
