import LabelPress.Number.Binary64

/-!
# Orientation

A field prints in one of four orientations. Any angle snaps to the nearest of them.

## Main definitions

* `Orientation` - the four quarter turns, clockwise.
* `Orientation.ofWholeDegrees` - the quadrant of an integer number of degrees.
* `Orientation.ofDegrees` - the quadrant of any angle.
-/

namespace LabelPress

open LabelPress.Number

/-- A turn by a multiple of 90 degrees, clockwise. -/
inductive Orientation where
  | normal
  | rotated
  | inverted
  /-- Three quarter turns: the field reads from the bottom up. -/
  | bottomUp
deriving DecidableEq, Repr

namespace Orientation

/-- The quadrant of a whole number of degrees. The angles halfway between two quadrants (45, 135,
225 and 315) belong to the later one. -/
def ofWholeDegrees (degrees : Int) : Orientation :=
  let angle := degrees % 360
  if angle < 45 then normal
  else if angle < 135 then rotated
  else if angle < 225 then inverted
  else if angle < 315 then bottomUp
  else normal

/-- The quadrant of an angle, first rounded to whole degrees with halves upwards. An angle that is
no number gives `normal`. -/
def ofDegrees (degrees : Float) : Orientation :=
  match Binary64.ofFloat? degrees with
  | some value => ofWholeDegrees value.floorHalfUp
  | none => normal

/-- The letter for a turn in a command. -/
def code : Orientation → Char
  | normal => 'N'
  | rotated => 'R'
  | inverted => 'I'
  | bottomUp => 'B'

/-- Whether the turn exchanges width and height. -/
def isQuarterTurn : Orientation → Bool
  | rotated | bottomUp => true
  | normal | inverted => false

example : ofDegrees (-90) = bottomUp ∧ ofDegrees 44.5 = rotated ∧ ofDegrees (-45.5) = normal := by
  decide +kernel

end Orientation

end LabelPress
