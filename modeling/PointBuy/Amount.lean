/-!
# Amounts

Levels, costs and every value of a formula are whole numbers of 64 signed bits. No operation on
them fails and none wraps: each computes the exact integer and brings it back into the range, so
that a result beyond either end is that end. `Amount.clamp` is the only place where this happens,
and every operation is `clamp` of an exact one.

## Main statements

* `Amount.val_clamp_of_le` : inside the range nothing is lost.
* `Amount.clamp_val` : an amount is its own clamped value.
-/

namespace PointBuy

/-- A whole number from `-2^63` to `2^63 - 1`. -/
structure Amount where
  /-- The number itself. -/
  val : Int
  /-- It is not below the range. -/
  least_le : -9223372036854775808 ≤ val
  /-- It is not above the range. -/
  le_greatest : val ≤ 9223372036854775807
deriving DecidableEq

namespace Amount

/-- The integer `n`, or the end of the range that it lies beyond. -/
def clamp (n : Int) : Amount :=
  if below : n < -9223372036854775808 then ⟨-9223372036854775808, by decide, by decide⟩
  else if above : 9223372036854775807 < n then ⟨9223372036854775807, by decide, by decide⟩
  else ⟨n, by omega, by omega⟩

/-- The amount that is exactly `n`, if there is one. -/
def ofInt? (n : Int) : Option Amount :=
  if h : -9223372036854775808 ≤ n ∧ n ≤ 9223372036854775807 then some ⟨n, h.1, h.2⟩ else none

instance (n : Nat) : OfNat Amount n := ⟨clamp n⟩

instance : Inhabited Amount := ⟨0⟩

instance : Add Amount := ⟨fun a b => clamp (a.val + b.val)⟩

instance : Sub Amount := ⟨fun a b => clamp (a.val - b.val)⟩

instance : Mul Amount := ⟨fun a b => clamp (a.val * b.val)⟩

instance : Neg Amount := ⟨fun a => clamp (-a.val)⟩

/-- The quotient rounded toward zero. -/
def quotient (a b : Amount) : Amount := clamp (a.val.tdiv b.val)

/-- The decimal text, with a minus sign in front of a negative amount. -/
def text (a : Amount) : String := toString a.val

/-! ### Laws of `clamp` -/

@[ext] theorem ext {a b : Amount} (h : a.val = b.val) : a = b := by
  cases a; cases b; cases h; rfl

theorem val_clamp_of_le {n : Int} (lo : -9223372036854775808 ≤ n) (hi : n ≤ 9223372036854775807) :
    (clamp n).val = n := by
  unfold clamp
  split
  · omega
  · split
    · omega
    · rfl

@[simp] theorem clamp_val (a : Amount) : clamp a.val = a :=
  ext (val_clamp_of_le a.least_le a.le_greatest)

end Amount
end PointBuy
