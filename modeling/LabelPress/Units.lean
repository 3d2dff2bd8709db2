import LabelPress.Number.Binary64

/-!
# Millimetres, dots and points

Templates measure in millimetres and points; a printer counts dots. Dots are 32-bit integers: a
length that does not fit becomes the nearest end of the range.

## Main definitions

* `mmToDots`, `dotsToMm` - lengths at a resolution in dots per inch.
* `fontHeightDots` - the height of a font size, at least ten dots.
-/

namespace LabelPress

open LabelPress.Number

/-- Millimetres in an inch. -/
def mmPerInch : Float := 25.4

/-- Dots per inch where a canvas names no resolution. -/
def defaultDpi : Nat := 203

/-- The nearest number of dots, a half away from zero. -/
def mmToDots (mm : Float) (dpi : Nat) : Int :=
  roundToInt32 (mm / mmPerInch * Float.ofNat dpi)

/-- The length of a number of dots. -/
def dotsToMm (dots : Int) (dpi : Nat) : Float :=
  Float.ofInt dots * mmPerInch / Float.ofNat dpi

/-- Dots in a millimetre. -/
def dotsPerMm (dpi : Nat) : Float :=
  Float.ofNat dpi / mmPerInch

/-- The least font height a printer renders. -/
def minFontHeight : Int := 10

/-- The height of a font size in points, of which 72 make an inch. -/
def fontHeightDots (points : Float) (dpi : Nat) : Int :=
  max minFontHeight (roundToInt32 (points / 72 * Float.ofNat dpi))

/-- No font is lower than ten dots, whatever its size in points. -/
theorem minFontHeight_le_fontHeightDots (points : Float) (dpi : Nat) :
    minFontHeight ≤ fontHeightDots points dpi :=
  Int.le_max_left _ _

end LabelPress
