import LabelPress.Text.Chars

/-!
# White space

`isBlank` is the Unicode property White_Space: 25 characters, in ten ranges. The zero width space
and the byte order mark are not among them.

## Main definitions

* `inRanges` - membership of a code point in a list of closed ranges.
* `trim` - a text without the blanks at its ends.
* `dropBlanks` - a text without any blank.
-/

namespace LabelPress.Text

/-- Whether `n` lies in one of the closed ranges. -/
def inRanges (ranges : List (Nat × Nat)) (n : Nat) : Bool :=
  ranges.any fun r => r.1 ≤ n && n ≤ r.2

/-- The code points with the property White_Space, ascending. -/
def blankRanges : List (Nat × Nat) :=
  [(0x09, 0x0D), (0x20, 0x20), (0x85, 0x85), (0xA0, 0xA0), (0x1680, 0x1680), (0x2000, 0x200A),
   (0x2028, 0x2029), (0x202F, 0x202F), (0x205F, 0x205F), (0x3000, 0x3000)]

/-- White space, by the Unicode property. -/
def isBlank (c : Char) : Bool :=
  inRanges blankRanges c.toNat

/-- The characters without the blanks at both ends. -/
def trimChars (s : List Char) : List Char :=
  ((s.dropWhile isBlank).reverse.dropWhile isBlank).reverse

/-- The text without the blanks at both ends. -/
def trim (s : String) : String :=
  onChars trimChars s

/-- The characters that are not blank. -/
def dropBlanks (s : List Char) : List Char :=
  s.filter fun c => !isBlank c

/-- Every character that core calls white space is blank. -/
theorem isBlank_of_isWhitespace {c : Char} (h : c.isWhitespace = true) : isBlank c = true := by
  simp only [Char.isWhitespace, Bool.or_eq_true, decide_eq_true_eq] at h
  rcases h with ((h | h) | h) | h <;> subst h <;> decide

example : (blankRanges.map fun r => r.2 + 1 - r.1).sum = 25 := by decide

example : isBlank '\u200b' = false := by decide

end LabelPress.Text
