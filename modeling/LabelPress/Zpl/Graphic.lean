/-!
# Shapes

Boxes, ellipses, diagonals and bitmaps. A line is a box one stroke thick.

## Main definitions

* `Slope` - the two diagonals of a box.
* `graphicBox`, `graphicEllipse`, `graphicDiagonal`, `graphicField` - the commands.
* `cornerRounding` - the rounding of a box for a radius.
-/

namespace LabelPress.Zpl

/-- The diagonal of a box that a line follows. -/
inductive Slope where
  /-- From the bottom left to the top right. -/
  | rising
  /-- From the top left to the bottom right. -/
  | falling
deriving DecidableEq, Repr

namespace Slope

/-- The letter for the slope: it leans to the right or to the left. -/
def code : Slope → Char
  | rising => 'R'
  | falling => 'L'

end Slope

/-- The greatest rounding of corners: each corner takes half of the smaller side. -/
def maxCornerRounding : Int := 8

/-- The rounding, in eighths of half the smaller side, to the nearest. Twice a half side is an
integer, so the quotient is one of integers. -/
def cornerRounding (radius width height : Int) : Int :=
  let side := min width height
  if radius ≤ 0 ∨ side ≤ 0 then 0
  else min maxCornerRounding ((2 * (2 * maxCornerRounding * radius) + side) / (2 * side))

/-- A box; square corners need no rounding parameter. -/
def graphicBox (width height thickness rounding : Int) : String :=
  let size := "^GB" ++ toString width ++ "," ++ toString height ++ "," ++ toString thickness
  if 0 < rounding then size ++ ",B," ++ toString (min rounding maxCornerRounding) else size

/-- An ellipse in a box. -/
def graphicEllipse (width height thickness : Int) : String :=
  "^GE" ++ toString width ++ "," ++ toString height ++ "," ++ toString thickness

/-- A diagonal of a box. -/
def graphicDiagonal (width height thickness : Int) (slope : Slope) : String :=
  "^GD" ++ toString width ++ "," ++ toString height ++ "," ++ toString thickness ++ ",B,"
    ++ slope.code.toString

/-- A bitmap, given as the parameters that follow the command. -/
def graphicField (fragment : String) : String :=
  "^GFA," ++ fragment

example : cornerRounding 25 100 50 = 8 ∧ cornerRounding 5 100 40 = 2 := by decide

end LabelPress.Zpl
