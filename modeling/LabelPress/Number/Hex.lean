/-!
# Hexadecimal digits

Digits are written in lower case and read in either.

## Main definitions

* `hexDigit?`, `natOfHex?` - the value of a digit and of several.
* `hexByte` - a byte in two digits; `natOfHex?_hexByte` reads it back.
-/

namespace LabelPress.Number

/-- The value of a hexadecimal digit, of either case. -/
def hexDigit? (c : Char) : Option Nat :=
  if '0' ≤ c ∧ c ≤ '9' then some (c.toNat - '0'.toNat)
  else if 'a' ≤ c ∧ c ≤ 'f' then some (c.toNat - 'a'.toNat + 10)
  else if 'A' ≤ c ∧ c ≤ 'F' then some (c.toNat - 'A'.toNat + 10)
  else none

/-- The number that a list of hexadecimal digits stands for. -/
def natOfHex? (s : List Char) : Option Nat :=
  s.foldlM (fun n c => (hexDigit? c).map (16 * n + ·)) 0

/-- A byte in two digits. -/
def hexByte (byte : UInt8) : List Char :=
  [Nat.digitChar (byte.toNat / 16), Nat.digitChar (byte.toNat % 16)]

/-- A written digit reads back as its value. -/
theorem hexDigit?_digitChar : ∀ n < 16, hexDigit? (Nat.digitChar n) = some n := by
  decide

/-- A written byte reads back as its value. -/
@[simp] theorem natOfHex?_hexByte (byte : UInt8) : natOfHex? (hexByte byte) = some byte.toNat := by
  have hlt := byte.toNat_lt
  have high := hexDigit?_digitChar (byte.toNat / 16) (by omega)
  have low := hexDigit?_digitChar (byte.toNat % 16) (by omega)
  simp [natOfHex?, hexByte, high, low]
  omega

end LabelPress.Number
