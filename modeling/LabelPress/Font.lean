import LabelPress.Orientation
import LabelPress.Units

/-!
# Fonts

A designer chooses a font family by name; the printer has one scalable font of its own and loads
others from files.

## Main definitions

* `FontFace.ofFamily` - the device font of a family.
* `Font.sized` - a face at a size in points.
* `Font.render` - the command that selects the font.
-/

namespace LabelPress

/-- A font on the device. -/
inductive FontFace where
  /-- The scalable font of the printer. -/
  | builtIn
  | simSun
  | swissUnicode
deriving DecidableEq, Repr

namespace FontFace

/-- The face of a family name; any other name, or none, selects the printer's own font. -/
def ofFamily : Option String → FontFace
  | some "ZEBRA SimSun" => simSun
  | some "ZEBRA Swiss Unicode" => swissUnicode
  | _ => builtIn

/-- The file that holds the face, for a face that is loaded. -/
def fileName? : FontFace → Option String
  | builtIn => none
  | simSun => some "SIMSUN.TTF"
  | swissUnicode => some "TT0003M_"

end FontFace

/-- A face at a size in dots. -/
structure Font where
  face : FontFace
  orientation : Orientation
  height : Int
  width : Int
deriving DecidableEq, Repr

namespace Font

/-- The face at a size in points. The width is 60 % of the height, to the nearest dot; six tenths
of an integer never lie halfway between two. -/
def sized (face : FontFace) (orientation : Orientation) (points : Float) (dpi : Nat) : Font :=
  let height := fontHeightDots points dpi
  { face, orientation, height, width := (6 * height + 5) / 10 }

/-- The command that selects the font: `^A0` for the printer's own, `^A@` with the file otherwise. -/
def render (font : Font) : String :=
  let size := font.orientation.code.toString ++ "," ++ toString font.height ++ ","
    ++ toString font.width
  match font.face.fileName? with
  | none => "^A0" ++ size
  | some file => "^A@" ++ size ++ "," ++ file

example : (⟨.simSun, .rotated, 34, 20⟩ : Font).render = "^A@R,34,20,SIMSUN.TTF" := by decide +kernel

end Font

end LabelPress
