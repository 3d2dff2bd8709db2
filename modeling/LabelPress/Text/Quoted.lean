import LabelPress.Text.CharClass

/-!
# Quoted text

A text in double quotes in which every character can be seen, for messages.

## Main definitions

* `quote` - the text in quotes. A character that does not show by itself is written as its code
  point in hexadecimal.
-/

namespace LabelPress.Text

/-- A code point in hexadecimal digits of lower case. -/
def hexText (n : Nat) : String :=
  String.ofList (Nat.toDigits 16 n)

/-- A character inside quotes. -/
def quoteChar (c : Char) : String :=
  if c = '"' then "\\\""
  else if c = '\\' then "\\\\"
  else if c = '\n' then "\\n"
  else if c = '\r' then "\\r"
  else if c = '\t' then "\\t"
  else if c = '\x00' then "\\0"
  else if isVisible c then c.toString
  else "\\u\x7b" ++ hexText c.toNat ++ "\x7d"

def quote (s : String) : String :=
  "\"" ++ String.join (s.toList.map quoteChar) ++ "\""

example : quote "a\"\u200b" = "\"a\\\"\\u\x7b200b\x7d\"" := by decide +kernel

end LabelPress.Text
