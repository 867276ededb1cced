import PointBuy.Decimal.Power
import PointBuy.Decimal.Rounding

/-!
# Sizes of files

A size is shown in the greatest unit in which it is not below one, with two decimal places. Sizes
are first brought to 53 binary digits; below `2 ^ 53` nothing is lost by that.
-/

namespace PointBuy.FileSize

/-- The nearest number that 53 binary digits and zeros after them can write; of two equally near the
one with the even digits. -/
def toBinaryDigits (n : Nat) : Nat :=
  let unit := Decimal.twoTo (n.log2 + 1 - 53)
  Decimal.roundedQuotient n unit * unit

/-- A size in the greatest of some units, the first of which is `bytes` bytes, that fits it. -/
def inUnits (n : Nat) : (bytes : Nat) → (unit : String) → List String → String
  | bytes, unit, [] => Decimal.twoPlaces n bytes ++ " " ++ unit
  | bytes, unit, next :: rest =>
    if n < 1024 * bytes then Decimal.twoPlaces n bytes ++ " " ++ unit
    else inUnits n (1024 * bytes) next rest

/-- A size of so many bytes as it is shown. -/
def text (size : Nat) : String :=
  if size < 1024 then toString size ++ " B"
  else inUnits (toBinaryDigits size) 1024 "KB" ["MB", "GB"]

theorem toBinaryDigits_of_lt {n : Nat} (h : n < Decimal.twoTo 53) : toBinaryDigits n = n := by
  have small : n.log2 + 1 - 53 = 0 := by
    by_cases zero : n = 0
    · subst zero
      decide
    · have digits : n.log2 < 53 := (Nat.log2_lt zero).2 h
      omega
  simp [toBinaryDigits, small, Decimal.twoTo, Decimal.roundedQuotient, Nat.mod_one]

end PointBuy.FileSize
