import LabelPress.Colour
import LabelPress.Element.Order
import LabelPress.Zpl.Command
import Std.Data.TreeMap

/-!
# From elements to commands

Each element becomes a few commands by itself; what it becomes depends on the options and on the
resolution, not on its neighbours.

## Main definitions

* `CompileOptions` - placeholders or literal content, the images, the addressing of tags.
* `Placement` - the frame of an element in dots.
* `fieldSource` - where the content of a field comes from.
* `Element.commands` - the commands of an element.
-/

namespace LabelPress

open LabelPress.Text LabelPress.Zpl

/-- What a compilation may depend on besides the template. -/
structure CompileOptions where
  /-- Whether bound variables become placeholders. Otherwise elements print their own content. -/
  placeholders : Bool := true
  /-- The parameters of bitmaps by the `id` of their elements. -/
  imageCache : Std.TreeMap String String := {}
  scheme : RfidScheme := .standard

/-- The frame of an element in dots. -/
structure Placement where
  x : Int
  y : Int
  width : Int
  height : Int
  orientation : Orientation
deriving DecidableEq, Repr

/-- The frame at a resolution. -/
def Frame.place (f : Frame) (dpi : Nat) : Placement where
  x := mmToDots f.x dpi
  y := mmToDots f.y dpi
  width := mmToDots f.width dpi
  height := mmToDots f.height dpi
  orientation := f.orientation

/-- The width of a stroke in dots: one at least. -/
def strokeDots (mm : Float) (dpi : Nat) : Int :=
  max 1 (mmToDots mm dpi)

/-! ## Content -/

/-- Where the content of a field comes from, with the bank that has to be read for it. -/
structure FieldSource where
  data : FieldData
  read : Option BankAccess
deriving DecidableEq, Repr

/-- The source of a field. A bank of the tag is read under its field number; a variable is a
placeholder if the options say so; otherwise the field prints the fallback. -/
def fieldSource (options : CompileOptions) (binding : Binding) (fallback : String) : FieldSource :=
  match binding with
  | .rfid bank =>
    let access := options.scheme.access bank
    { data := .fieldNumber access.fieldNumber, read := some access }
  | .fillable name =>
    if options.placeholders then { data := .placeholder name, read := none }
    else { data := .literal fallback, read := none }
  | .unbound => { data := .literal fallback, read := none }

/-- The text, or a replacement for an empty one: a field must have content. -/
def orElse (replacement text : String) : String :=
  if text = "" then replacement else text

/-- The commands of a text field; the bank is read after it. -/
def textCommands (p : Placement) (font : Font) (source : FieldSource) : List Command :=
  .text p.x p.y font source.data :: source.read.toList.map .rfidRead

/-! ## Kinds of elements -/

namespace TextElement

/-- What the text prints where nothing is filled in. -/
def fallback (t : TextElement) : String :=
  orElse " " (trim t.content)

def commands (t : TextElement) (p : Placement) (dpi : Nat) (options : CompileOptions)
    (binding : Binding) : List Command :=
  textCommands p (.sized (.ofFamily t.fontFamily) p.orientation t.fontSize dpi)
    (fieldSource options binding t.fallback)

end TextElement

namespace VariableElement

/-- The size of the font in points. -/
def fontSize : Float := 12

/-- What the place prints where nothing is filled in. -/
def fallback (v : VariableElement) : String :=
  orElse " " v.sampleValue

/-- The commands of a place for a variable. -/
def commands (v : VariableElement) (p : Placement) (dpi : Nat) (options : CompileOptions)
    (binding : Binding) : List Command :=
  textCommands p (.sized (.ofFamily v.fontFamily) p.orientation fontSize dpi)
    (fieldSource options binding v.fallback)

end VariableElement

namespace BarcodeElement

/-- The data where nothing is filled in. -/
def fallback (b : BarcodeElement) : String :=
  orElse "0" (trim b.content)

/-- The barcode itself. -/
def command (b : BarcodeElement) (p : Placement) (data : FieldData) : Command :=
  let symbology := Symbology.ofFormat b.format
  if symbology.isTwoDimensional then
    .qrCode p.x p.y (qrMagnification p.width p.height) data
  else
    .linearBarcode p.x p.y
      { symbology, orientation := p.orientation, height := barHeight p.height } data

/-- The commands of a barcode; the bank is read before it. -/
def commands (b : BarcodeElement) (p : Placement) (options : CompileOptions) (binding : Binding) :
    List Command :=
  let source := fieldSource options binding b.fallback
  source.read.toList.map .rfidRead ++ [b.command p source.data]

end BarcodeElement

/-- The thickness of a border. A shape with a dark fill is all border. -/
def borderDots (fill : Option String) (strokeWidth : Float) (p : Placement) (dpi : Nat) : Int :=
  if isDarkFill fill then max 1 (min p.width p.height) else strokeDots strokeWidth dpi

def RectangleElement.command (r : RectangleElement) (p : Placement) (dpi : Nat) : Command :=
  .box p.x p.y p.width p.height (borderDots r.fill r.strokeWidth p dpi)
    (cornerRounding (mmToDots r.cornerRadius dpi) p.width p.height)

def EllipseElement.command (e : EllipseElement) (p : Placement) (dpi : Nat) : Command :=
  .ellipse p.x p.y p.width p.height (borderDots e.fill e.strokeWidth p dpi)

/-- The commands of a line. It spans its frame; less than two dots across it is a straight line,
and without any extent it is nothing. A quarter turn exchanges the sides and mirrors the slope.
A side counts without its sign. One of `-2 ^ 31` dots, whose size is beyond 32 bits, is left out of
this: here its size is `2 ^ 31`. -/
def LineElement.commands (l : LineElement) (p : Placement) (dpi : Nat) : List Command :=
  let turned := p.orientation.isQuarterTurn
  let width : Int := (if turned then p.height else p.width).natAbs
  let height : Int := (if turned then p.width else p.height).natAbs
  let thickness := strokeDots l.strokeWidth dpi
  if width = 0 ∧ height = 0 then []
  else if height < 2 then [.box p.x p.y width thickness thickness 0]
  else if width < 2 then [.box p.x p.y thickness height thickness 0]
  else [.diagonal p.x p.y width height thickness (if turned then .rising else .falling)]

/-- The remark in place of an image that is not there. -/
def notCached (id : String) : Command :=
  .comment ("image " ++ id ++ " failed to load or was not cached")

/-- The command of an image: its bitmap, or a remark where there is none. -/
def ImageElement.command (i : ImageElement) (frame : Frame) (p : Placement)
    (options : CompileOptions) : Command :=
  if i.src = "" then .comment ("image " ++ frame.id ++ " has no source")
  else match options.imageCache[frame.id]? with
    | some fragment =>
      if fragment = "" then notCached frame.id else .graphicField p.x p.y fragment
    | none => notCached frame.id

def Element.commands (e : Element) (dpi : Nat) (options : CompileOptions) : List Command :=
  let p := e.frame.place dpi
  match e.kind with
  | .text t => t.commands p dpi options e.binding
  | .slot v => v.commands p dpi options e.binding
  | .barcode b => b.commands p options e.binding
  | .rectangle r => [r.command p dpi]
  | .ellipse s => [s.command p dpi]
  | .line l => l.commands p dpi
  | .image i => [i.command e.frame p options]
  | .unknown typeName => [.comment ("unsupported element " ++ e.frame.id ++ " type " ++ typeName)]

end LabelPress
