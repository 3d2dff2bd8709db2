import LabelPress.Orientation
import LabelPress.Text.Blank
import LabelPress.Text.UpperCase

/-!
# Barcodes

## Main definitions

* `Symbology.ofFormat` - the symbology of a designer's format name.
* `LinearBarcode.render` - a Code 128 or Code 39 command.
* `qrMagnification`, `barHeight` - sizes that the printer accepts, for any box.
-/

namespace LabelPress.Zpl

open LabelPress.Text

/-- A kind of barcode. -/
inductive Symbology where
  | code128
  | code39
  | qr
deriving DecidableEq, Repr

namespace Symbology

/-- The symbology of a format name, in any letter case and with blanks anywhere. A name that is not
known means Code 128. -/
def ofFormat (format : String) : Symbology :=
  let name := onChars (fun s => upper (dropBlanks s)) format
  if name = "QR" ∨ name = "QRCODE" then qr
  else if name = "CODE39" then code39
  else code128

/-- Whether the symbology has two dimensions. -/
def isTwoDimensional : Symbology → Bool
  | qr => true
  | code128 | code39 => false

end Symbology

/-- A barcode of bars. -/
structure LinearBarcode where
  /-- The kind; all but Code 39 print as Code 128. -/
  symbology : Symbology
  orientation : Orientation
  /-- The height of the bars in dots. -/
  height : Int
deriving DecidableEq, Repr

/-- The command that prints the code with its text below. -/
def LinearBarcode.render (code : LinearBarcode) : String :=
  let turn := code.orientation.code.toString
  let height := toString code.height
  match code.symbology with
  | .code39 => "^B3" ++ turn ++ ",N," ++ height ++ ",Y,N"
  | .code128 | .qr => "^BC" ++ turn ++ "," ++ height ++ ",Y,N,N,A"

/-- The width of a narrow bar and the ratio of a wide one to it. -/
def moduleWidth : String := "^BY2,2"

/-- The least height of bars in dots. -/
def minBarHeight : Int := 20

def barHeight (boxHeight : Int) : Int :=
  max boxHeight minBarHeight

/-- The greatest magnification of a QR code. -/
def maxQrMagnification : Int := 10

/-- The magnification of a QR code in a box: the smaller side in units of 20 dots, rounded to the
nearest, from 1 to 10. -/
def qrMagnification (width height : Int) : Int :=
  max 1 (min maxQrMagnification ((min width height + 10) / 20))

/-- The command for a QR code, which is always upright. -/
def qrCode (magnification : Int) : String :=
  "^BQN,2," ++ toString magnification ++ ",Q"

/-- What stands before the data of a QR code: its error correction and input mode. -/
def qrDataMode : String := "QA,"

example : qrMagnification 160 200 = 8 ∧ qrMagnification (-30) 5 = 1 ∧ qrMagnification 30 100 = 2 := by
  decide

end LabelPress.Zpl
