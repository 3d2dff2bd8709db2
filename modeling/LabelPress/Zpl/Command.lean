import LabelPress.Font
import LabelPress.Zpl.Barcode
import LabelPress.Zpl.Field
import LabelPress.Zpl.Graphic
import LabelPress.Zpl.Rfid

/-!
# Commands and programs

A program is a list of commands. Each command is one line of the document that the printer
receives, and a document is those lines in order.

## Main definitions

* `Command` - what a line does.
* `Command.render` - the line.
* `Program.lines`, `Program.document` - the lines, and the lines joined by line feeds.
-/

namespace LabelPress.Zpl

open LabelPress.Text

/-- What one line of a document does. Positions and sizes are in dots. -/
inductive Command where
  | startFormat
  /-- Closes the label and prints it. -/
  | endFormat
  | printWidth (dots : Int)
  | labelLength (dots : Int)
  | labelHome (x y : Int)
  | rfidSetup (tagType : UInt8)
  | text (x y : Int) (font : Font) (data : FieldData)
  | linearBarcode (x y : Int) (code : LinearBarcode) (data : FieldData)
  | qrCode (x y : Int) (magnification : Int) (data : FieldData)
  /-- A box or a straight line. -/
  | box (x y width height thickness rounding : Int)
  | ellipse (x y width height thickness : Int)
  | diagonal (x y width height thickness : Int) (slope : Slope)
  /-- A bitmap, given by its parameters. -/
  | graphicField (x y : Int) (fragment : String)
  /-- Reads a bank of the tag into a field number. -/
  | rfidRead (access : BankAccess)
  /-- Writes hexadecimal digits to a bank of the tag. -/
  | rfidWrite (parameters : WriteParameters) (value : String)
  /-- A remark that does not print. -/
  | comment (text : String)
deriving DecidableEq, Repr

namespace Command

def data? : Command → Option FieldData
  | text _ _ _ data => some data
  | linearBarcode _ _ _ data => some data
  | qrCode _ _ _ data => some data
  | _ => none

/-- The position of a field by its top left corner. -/
def fieldOrigin (x y : Int) : String :=
  "^FO" ++ toString x ++ "," ++ toString y

/-- The position of a field by the start of its baseline. -/
def fieldTypeset (x y : Int) : String :=
  "^FT" ++ toString x ++ "," ++ toString y

/-- The content of a text field. Text is written as UTF-8, which the suffix ends; the content of a
tag is raw bytes and needs neither. -/
def textPayload : FieldData → String
  | .fieldNumber number => Zpl.fieldNumber number ++ fieldEnd
  | .placeholder name => "^FH\\^CI28^FD" ++ braced name ++ "^FS^CI27"
  | .literal content => "^FH\\^CI28^FD" ++ escape content ++ "^FS^CI27"

/-- The content of a barcode; the mode stands before the data but not before a field number. -/
def barcodePayload (mode : String) : FieldData → String
  | .fieldNumber number => Zpl.fieldNumber number ++ fieldEnd
  | .placeholder name => "^FD" ++ mode ++ braced name ++ fieldEnd
  | .literal content => "^FD" ++ mode ++ escape content ++ fieldEnd

/-- The line of a command. -/
def render : Command → String
  | startFormat => "^XA"
  | endFormat => "^XZ"
  | printWidth dots => "^PW" ++ toString dots
  | labelLength dots => "^LL" ++ toString dots
  | labelHome x y => "^LH" ++ toString x ++ "," ++ toString y
  | rfidSetup tagType => Zpl.rfidSetup tagType
  | text x y font data => fieldTypeset x y ++ font.render ++ textPayload data
  | linearBarcode x y code data =>
    fieldOrigin x y ++ moduleWidth ++ code.render ++ barcodePayload "" data
  | qrCode x y magnification data =>
    fieldOrigin x y ++ Zpl.qrCode magnification ++ barcodePayload qrDataMode data
  | box x y width height thickness rounding =>
    fieldOrigin x y ++ graphicBox width height thickness rounding ++ fieldEnd
  | ellipse x y width height thickness =>
    fieldOrigin x y ++ graphicEllipse width height thickness ++ fieldEnd
  | diagonal x y width height thickness slope =>
    fieldOrigin x y ++ graphicDiagonal width height thickness slope ++ fieldEnd
  | graphicField x y fragment => fieldOrigin x y ++ Zpl.graphicField fragment ++ fieldEnd
  | rfidRead access => readTag access
  | rfidWrite parameters value => writeTag parameters value
  | comment remark => Zpl.comment remark

end Command

/-! ## Programs -/

/-- The commands of a document, in order. -/
structure Program where
  commands : List Command
deriving DecidableEq, Repr

namespace Program

/-- The program without commands. -/
def empty : Program := ⟨[]⟩

/-- One command more at the end. -/
def push (p : Program) (c : Command) : Program := ⟨p.commands ++ [c]⟩

/-- More commands at the end. -/
def append (p : Program) (cs : List Command) : Program := ⟨p.commands ++ cs⟩

/-- The number of commands. -/
def size (p : Program) : Nat := p.commands.length

def lines (p : Program) : List String := p.commands.map Command.render

/-- The lines with line feeds between them. -/
def document (p : Program) : String := joinLines p.lines

@[simp] theorem length_lines (p : Program) : p.lines.length = p.size := by
  simp [lines, size]

@[simp] theorem lines_push (p : Program) (c : Command) :
    (p.push c).lines = p.lines ++ [c.render] := by
  simp [lines, push]

example : document ⟨[.startFormat, .printWidth 464, .comment "x", .endFormat]⟩
    = "^XA\n^PW464\n^FXx^FS\n^XZ" := by
  decide +kernel

end Program

end LabelPress.Zpl
