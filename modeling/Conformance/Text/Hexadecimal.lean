/-!
# Conformance.Text.Hexadecimal

Hexadecimal digits: what they are worth, in either case, and how a number is
written with them.
-/

namespace Conformance.Text

/-- The value of a hexadecimal digit. -/
def hexValue? (c : Char) : Option Nat :=
  if c.isDigit then some (c.toNat - '0'.toNat)
  else if 'a' ≤ c ∧ c ≤ 'f' then some (c.toNat - 'a'.toNat + 10)
  else if 'A' ≤ c ∧ c ≤ 'F' then some (c.toNat - 'A'.toNat + 10)
  else none

/-- The last hexadecimal digit of a number, in lower case. -/
def hexDigit (n : Nat) : Char := Nat.digitChar (n % 16)

/-- The hexadecimal digits of a number in lower case, without leading zeros. -/
def hexChars (n : Nat) : List Char := Nat.toDigits 16 n

end Conformance.Text
