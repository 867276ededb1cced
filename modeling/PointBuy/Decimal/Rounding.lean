/-!
# Rounding

Quotients rounded to the nearest whole number, and fractions with two decimal places. A half goes to
the even neighbour.

## Main statement

* `Decimal.dist_roundedQuotient_le` : the rounded quotient is at most half a unit away.
-/

namespace PointBuy.Decimal

/-- The whole number nearest to `a / b`; of two equally near the even one. -/
def roundedQuotient (a b : Nat) : Nat :=
  if 2 * (a % b) < b then a / b
  else if b < 2 * (a % b) then a / b + 1
  else a / b + a / b % 2

/-- The text of `a / b` with two decimal places. -/
def twoPlaces (a b : Nat) : String :=
  let hundredths := roundedQuotient (100 * a) b
  let rest := hundredths % 100
  toString (hundredths / 100) ++ "." ++ (if rest < 10 then "0" else "") ++ toString rest

theorem dist_roundedQuotient_le {a b : Nat} (h : 0 < b) :
    2 * (b * roundedQuotient a b) ≤ 2 * a + b ∧ 2 * a ≤ 2 * (b * roundedQuotient a b) + b := by
  have whole := Nat.div_add_mod a b
  have rest := Nat.mod_lt a h
  unfold roundedQuotient
  split
  · omega
  · split
    · rw [Nat.mul_add, Nat.mul_one]
      omega
    · rw [Nat.mul_add]
      rcases Nat.mod_two_eq_zero_or_one (a / b) with even | odd
      · rw [even]
        omega
      · rw [odd]
        omega

end PointBuy.Decimal
