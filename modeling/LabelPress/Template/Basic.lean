import LabelPress.Element.Basic
import LabelPress.Number.Format
import LabelPress.Units

/-!
# Templates

A template is a canvas with elements on it.

## Main definitions

* `Canvas` - the size of the label and the resolution of the printer.
* `Canvas.check` - the conditions on a canvas.
* `Template` - a canvas and its elements.
* `Template.images` - the images that have a source.
-/

namespace LabelPress

open LabelPress.Number

/-- The size of a label in millimetres, and the resolution. -/
structure Canvas where
  width : Float
  height : Float
  dpi : Nat := defaultDpi
  /-- The colour behind the label, which does not print. -/
  backgroundColor : Option String := none
deriving DecidableEq, Repr

/-- What is wrong with a canvas. -/
inductive CanvasFault where
  /-- The width is zero, negative or not finite. -/
  | width (mm : Float)
  /-- The height is zero, negative or not finite. -/
  | height (mm : Float)
  | dpi
deriving DecidableEq, Repr

/-- The wording of a fault. -/
def CanvasFault.message : CanvasFault → String
  | width mm => "canvas width must be positive, got " ++ FloatFormat.plain.render mm
  | height mm => "canvas height must be positive, got " ++ FloatFormat.plain.render mm
  | dpi => "canvas dpi must be positive"

namespace Canvas

def widthDots (c : Canvas) : Int := mmToDots c.width c.dpi

def heightDots (c : Canvas) : Int := mmToDots c.height c.dpi

/-- A canvas has a positive, finite size and a positive resolution. -/
def check (c : Canvas) : Except CanvasFault Unit :=
  if !(c.width.isFinite && 0 < c.width) then .error (.width c.width)
  else if !(c.height.isFinite && 0 < c.height) then .error (.height c.height)
  else if c.dpi = 0 then .error .dpi
  else .ok ()

end Canvas

/-- A canvas with elements. -/
structure Template where
  canvas : Canvas
  elements : List Element := []
deriving DecidableEq, Repr

namespace Template

/-- The template with one element more. -/
def push (t : Template) (e : Element) : Template :=
  { t with elements := t.elements ++ [e] }

/-- The image of an element, if it is one and has a source. -/
def imageOf? (e : Element) : Option (Frame × ImageElement) :=
  match e.kind with
  | .image image => if image.src = "" then none else some (e.frame, image)
  | _ => none

/-- The images that have a source. -/
def images (t : Template) : List (Frame × ImageElement) :=
  t.elements.filterMap imageOf?

end Template

end LabelPress
