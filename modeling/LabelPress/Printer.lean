import LabelPress.Units
import LabelPress.Text.Chars

/-!
# Printers

A printer matters to a label only by its resolution; the size of the label comes from the canvas.

## Main definitions

* `Printer.presets` - the printers known by name.
* `Printer.ofKey?` - look-up in any letter case.
-/

namespace LabelPress

open LabelPress.Text

/-- A printer model. -/
structure Printer where
  /-- The name by which the model is looked up. -/
  key : String
  name : String
  dpi : Nat
deriving DecidableEq, Repr

namespace Printer

/-- The model with eight dots to the millimetre. -/
def zt410x203 : Printer := ⟨"zt410-203", "Zebra ZT410 (203 dpi)", 203⟩

/-- The model with twelve dots to the millimetre. -/
def zt410x300 : Printer := ⟨"zt410-300", "Zebra ZT410 (300 dpi)", 300⟩

/-- All known models. -/
def presets : List Printer := [zt410x203, zt410x300]

/-- The model that stands in where none is named. -/
def standard : Printer := zt410x203

/-- The model of a key; the case of the letters `A` to `Z` does not matter. -/
def ofKey? (key : String) : Option Printer :=
  presets.find? fun p => onChars lowerLatin p.key == onChars lowerLatin key

example : (ofKey? "ZT410-300").map dpi = some 300 := by decide

end Printer

end LabelPress
