import LabelPress.Number.Hex
import LabelPress.Number.Parse
import LabelPress.Text.Blank

/-!
# Colours

A label prints black on white, so of a colour only one thing counts: whether it is dark.

## Main definitions

* `Rgba.isInk` - whether a pixel prints: it is dark, or more transparent than not.
* `Colour.parse?` - colours by hexadecimal digits, by channels in parentheses, or by name.
* `isDarkFill` - whether a shape with this fill prints solid.
-/

namespace LabelPress

open LabelPress.Number LabelPress.Text

/-- Red, green, blue and opacity. -/
structure Rgba where
  red : UInt8
  green : UInt8
  blue : UInt8
  alpha : UInt8
deriving DecidableEq, Repr, Inhabited

namespace Rgba

/-- Opaque white. -/
def white : Rgba := ⟨255, 255, 255, 255⟩

/-- The perceived brightness, between 0 and 1. -/
def luminance (c : Rgba) : Float :=
  (0.299 * c.red.toFloat + 0.587 * c.green.toFloat + 0.114 * c.blue.toFloat) / 255

/-- Whether the brightness is below one half. -/
def isDark (c : Rgba) : Bool := c.luminance < 0.5

/-- Whether a pixel prints as a dot. A pixel that is more transparent than not does. -/
def isInk (c : Rgba) : Bool := c.alpha < 128 || c.isDark

end Rgba

namespace Colour

/-- A channel in hexadecimal digits; a plus sign may stand before the digit of a pair. -/
def hexChannel? : List Char → Option UInt8
  | ['+', d] => (natOfHex? [d]).map UInt8.ofNat
  | s => (natOfHex? s).map UInt8.ofNat

/-- Three, six or eight hexadecimal digits: one or two for each channel. -/
def ofHex? : List Char → Option Rgba
  | [r, g, b] => do
    let r ← hexDigit? r
    let g ← hexDigit? g
    let b ← hexDigit? b
    return ⟨UInt8.ofNat (17 * r), UInt8.ofNat (17 * g), UInt8.ofNat (17 * b), 255⟩
  | [r₁, r₀, g₁, g₀, b₁, b₀] => do
    return ⟨← hexChannel? [r₁, r₀], ← hexChannel? [g₁, g₀], ← hexChannel? [b₁, b₀], 255⟩
  | [r₁, r₀, g₁, g₀, b₁, b₀, a₁, a₀] => do
    return ⟨← hexChannel? [r₁, r₀], ← hexChannel? [g₁, g₀], ← hexChannel? [b₁, b₀],
      ← hexChannel? [a₁, a₀]⟩
  | _ => none

/-- A channel as a decimal number, cut to the range of a byte and rounded. -/
def channel? (s : List Char) : Option UInt8 :=
  (float? s).map roundToByte

/-- An opacity between 0 and 1, cut to that range. -/
def opacity? (s : List Char) : Option UInt8 :=
  (float? s).map fun x => roundToByte ((if x < 0 then 0 else if 1 < x then 1 else x) * 255)

/-- Three channels, and an opacity if there is a fourth part. -/
def ofChannels? (parts : List (List Char)) : Option Rgba :=
  match parts with
  | [r, g, b] => do return ⟨← channel? r, ← channel? g, ← channel? b, 255⟩
  | [r, g, b, a] => do return ⟨← channel? r, ← channel? g, ← channel? b, ← opacity? a⟩
  | _ => none

def ofName? (name : String) : Option Rgba :=
  if name = "black" then some ⟨0, 0, 0, 255⟩
  else if name = "white" then some Rgba.white
  else if name = "transparent" ∨ name = "none" ∨ name = "" then some ⟨0, 0, 0, 0⟩
  else none

/-- The channels in parentheses after `rgb` or `rgba`. -/
def ofFunction? (s : List Char) : Option Rgba := do
  let arguments ← dropText? "rgba(".toList s <|> dropText? "rgb(".toList s
  let arguments ← dropTextEnd? [')'] arguments
  ofChannels? ((splitAll ',' arguments).map trimChars)

/-- The colour that a text names, in any letter case and with blanks around it. -/
def parse? (text : String) : Option Rgba :=
  let s := lowerLatin (trimChars text.toList)
  match s with
  | '#' :: digits => ofHex? digits
  | _ => ofName? (String.ofList s) <|> ofFunction? s

end Colour

/-- Whether a shape with this fill prints solid: the fill is a dark colour, at least half opaque. -/
def isDarkFill (fill : Option String) : Bool :=
  match fill.bind Colour.parse? with
  | some c => 128 ≤ c.alpha && c.isDark
  | none => false

end LabelPress
