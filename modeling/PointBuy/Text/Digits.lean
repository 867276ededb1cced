/-!
# Digits

The numbers that digits denote, in any base up to sixteen.
-/

namespace PointBuy.Text

/-- The value of a decimal digit. -/
def digitValue (c : Char) : Nat := c.toNat - '0'.toNat

/-- The value of a hexadecimal digit. -/
def hexValue? (c : Char) : Option Nat :=
  if c.isDigit then some (digitValue c)
  else if 'a' ≤ c && c ≤ 'f' then some (c.toNat - 'a'.toNat + 10)
  else if 'A' ≤ c && c ≤ 'F' then some (c.toNat - 'A'.toNat + 10)
  else none

/-- The number that digits denote in a base, if each of them is a digit of that base. -/
def numberIn? (base : Nat) (digits : List Char) : Option Nat :=
  digits.foldlM
    (fun n c => do
      let value ← hexValue? c
      if value < base then some (base * n + value) else none)
    0

/-- The number that decimal digits denote. -/
def decimalValue (digits : List Char) : Nat :=
  digits.foldl (fun n c => 10 * n + digitValue c) 0

end PointBuy.Text
