/-!
Hexadecimal digits and numbers, in either case when read and in lower case when written.
-/

namespace NestedData.Text

def hexValue? (c : Char) : Option Nat :=
  if c.isDigit then some (c.toNat - '0'.toNat)
  else if 'a' ≤ c ∧ c ≤ 'f' then some (c.toNat - 'a'.toNat + 10)
  else if 'A' ≤ c ∧ c ≤ 'F' then some (c.toNat - 'A'.toNat + 10)
  else none

def hexText (n : Nat) : List Char := Nat.toDigits 16 n

end NestedData.Text
