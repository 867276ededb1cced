import PointBuy.Cost
import PointBuy.Proofs.Amount

/-!
# How far a cost is exact

A cost with a surcharge and a discount is multiplied first and divided by a hundred then, and the
product is brought into the range in between. So what is added to a cost is never more than the
hundredth part of the range, and the cost is exact up to there (`modified_eq_iff`). Beyond, a cost
of which the change would fit into the range many times over is still changed by a hundredth of the
range only.

In spite of that no discount leaves less than the fifth part of a cost that is not negative, since
what is cut off of a discount makes it smaller.

## Main statements

* `Cost.modified_eq_iff` : what a cost with its surcharges and discounts is, and when it is exact.
* `Cost.modified_eq_of_inRange` : it is exact where the product lies in the range.
* `Cost.fifth_le_modified` : no discount leaves less than the fifth part of a cost.
* `Cost.Pools.of_add` : pools hold the sums of what has been added, brought into the range.
-/

namespace PointBuy.Cost

open Amount (InRange clamp gains losses)

variable {cost surcharge discount : Amount}

/-! ### Changes -/

/-- What a surcharge and a discount add to a cost, rounded down. -/
def exactChange (cost surcharge discount : Int) : Int := cost * (surcharge - min discount 80) / 100

/-- The hundredth part of the lower end of the range, rounded down. -/
def leastChange : Int := -92233720368547759

/-- The hundredth part of the upper end of the range, rounded down. -/
def greatestChange : Int := 92233720368547758

/-- A surcharge and a discount of which neither is negative are subtracted exactly. -/
theorem val_netPercent (hsurcharge : 0 ≤ surcharge.val) (hdiscount : 0 ≤ discount.val) :
    (netPercent surcharge discount).val = surcharge.val - min discount.val 80 := by
  have hle := surcharge.le_greatest
  have hgreatest : greatestDiscount.val = 80 := rfl
  rw [netPercent, Amount.val_sub]
  split <;> omega

/-- The hundredth part of a product that was brought into the range is that of the exact product,
brought into the hundredth part of the range. -/
theorem val_hundredth_mul (a b : Amount) :
    (hundredth (a * b)).val = max leastChange (min (a.val * b.val / 100) greatestChange) := by
  rw [hundredth, Amount.val_clamp, Amount.val_mul, leastChange, greatestChange]
  omega

/-- **A cost changes by the exact change**, brought into the hundredth part of the range. -/
theorem modified_eq (hsurcharge : 0 ≤ surcharge.val) (hdiscount : 0 ≤ discount.val) :
    modified cost surcharge discount = clamp (cost.val + max leastChange
      (min (exactChange cost.val surcharge.val discount.val) greatestChange)) := by
  show clamp (cost.val + (hundredth (cost * netPercent surcharge discount)).val) = _
  rw [val_hundredth_mul, val_netPercent hsurcharge hdiscount, exactChange]

/-- **What a cost with its surcharges and discounts is, and when it is exact.** The exact change is
brought into the hundredth part of the range. The result is the exact one just where that loses
nothing, or where the result lies at the same end of the range in spite of what is lost. -/
theorem modified_eq_iff (cost : Amount) (hsurcharge : 0 ≤ surcharge.val)
    (hdiscount : 0 ≤ discount.val) :
    modified cost surcharge discount = clamp (cost.val + max leastChange
      (min (exactChange cost.val surcharge.val discount.val) greatestChange)) ∧
    (modified cost surcharge discount =
        clamp (cost.val + exactChange cost.val surcharge.val discount.val) ↔
      (leastChange ≤ exactChange cost.val surcharge.val discount.val ∨
        cost.val + leastChange ≤ -9223372036854775808) ∧
      (exactChange cost.val surcharge.val discount.val ≤ greatestChange ∨
        9223372036854775807 ≤ cost.val + greatestChange)) := by
  have heq : modified cost surcharge discount = clamp (cost.val + max leastChange
      (min (exactChange cost.val surcharge.val discount.val) greatestChange)) :=
    modified_eq hsurcharge hdiscount
  refine ⟨heq, ?_⟩
  have hleast := cost.least_le
  have hgreatest := cost.le_greatest
  rw [heq]
  generalize exactChange cost.val surcharge.val discount.val = change
  rw [Amount.ext_iff, Amount.val_clamp, Amount.val_clamp, leastChange, greatestChange]
  omega

/-- A cost of a million millions of millions with a surcharge of a half is not exact, but changes by
the hundredth part of the range. -/
theorem modified_eq_iff_large :
    0 ≤ (50 : Amount).val ∧ 0 ≤ (0 : Amount).val ∧
      modified 1000000000000000000 50 0 ≠ clamp (1000000000000000000 + 500000000000000000) ∧
      modified 1000000000000000000 50 0 = clamp (1000000000000000000 + 92233720368547758) := by
  obtain ⟨heq, hiff⟩ := modified_eq_iff 1000000000000000000
    (show 0 ≤ (50 : Amount).val by decide) (show 0 ≤ (0 : Amount).val by decide)
  refine ⟨by decide, by decide, fun hexact ↦ ?_, heq.trans (by decide)⟩
  exact absurd (hiff.1 hexact) (by decide)

/-- A cost is not always exact, though the exact cost lies in the range. -/
theorem not_forall_modified_exact :
    ¬ ∀ cost surcharge discount : Amount, 0 ≤ surcharge.val → 0 ≤ discount.val →
      modified cost surcharge discount =
        clamp (cost.val + exactChange cost.val surcharge.val discount.val) := by
  intro h
  have hlarge := h 1000000000000000000 100 0 (by decide) (by decide)
  exact absurd (congrArg Amount.val hlarge) (by decide)

/-- Where the pools and the product lie in the range, nothing but the result is brought into it. -/
theorem modified_eq_of_inRange {surcharge discount : Int} (hsurcharge : 0 ≤ surcharge)
    (hdiscount : 0 ≤ discount) (hsurchargeRange : InRange surcharge)
    (hdiscountRange : InRange discount)
    (hproduct : InRange (cost.val * (surcharge - min discount 80))) :
    modified cost (clamp surcharge) (clamp discount) =
      clamp (cost.val + exactChange cost.val surcharge discount) := by
  rw [modified_eq (by rwa [hsurchargeRange.val_clamp]) (by rwa [hdiscountRange.val_clamp]),
    hsurchargeRange.val_clamp, hdiscountRange.val_clamp]
  obtain ⟨hleast, hgreatest⟩ := hproduct
  rw [exactChange, leastChange, greatestChange]
  congr 2
  omega

/-! ### The least cost -/

/-- **No discount leaves less than the fifth part of a cost** that is not negative. -/
theorem fifth_le_modified (hcost : 0 ≤ cost.val) (hsurcharge : 0 ≤ surcharge.val)
    (hdiscount : 0 ≤ discount.val) : cost.val / 5 ≤ (modified cost surcharge discount).val := by
  have hle := cost.le_greatest
  -- at most eighty percent of the cost are taken off
  have hproduct : cost.val * -80 ≤ cost.val * (surcharge.val - min discount.val 80) :=
    Int.mul_le_mul_of_nonneg_left (by omega) hcost
  rw [modified_eq hsurcharge hdiscount, Amount.val_clamp, exactChange, leastChange, greatestChange]
  generalize cost.val * (surcharge.val - min discount.val 80) = product at hproduct ⊢
  omega

/-! ### Pools -/

/-- **Pools hold the sums of what has been added**, brought into the range. A percentage that is
brought into the range before it is added makes no difference. -/
theorem Pools.add_clamp {gain loss : Int} (n : Int) (hgain : 0 ≤ gain) (hloss : 0 ≤ loss) :
    (Pools.mk (clamp gain) (clamp loss)).add (clamp n) =
      ⟨clamp (gain + max n 0), clamp (loss + max (-n) 0)⟩ := by
  rw [Pools.add]
  split
  case isTrue h =>
    rw [Amount.val_clamp] at h
    have hsurcharge : clamp gain + clamp n = clamp (gain + max n 0) := by
      refine Amount.ext ?_
      rw [Amount.val_add, Amount.val_clamp, Amount.val_clamp, Amount.val_clamp]
      omega
    have hdiscount : loss + max (-n) 0 = loss := by omega
    rw [hsurcharge, hdiscount]
  case isFalse h =>
    rw [Amount.val_clamp] at h
    have hsurcharge : gain + max n 0 = gain := by omega
    have hdiscount : clamp loss + -clamp n = clamp (loss + max (-n) 0) := by
      refine Amount.ext ?_
      rw [Amount.val_add, Amount.val_neg, Amount.val_clamp, Amount.val_clamp, Amount.val_clamp]
      omega
    rw [hsurcharge, hdiscount]

/-- The pools of percentages: what those above zero and those below zero come to, each at most the
greatest amount. -/
def Pools.of (percents : List Int) : Pools := ⟨clamp (gains percents), clamp (losses percents)⟩

theorem Pools.of_perm {percents percents' : List Int} (h : percents.Perm percents') :
    Pools.of percents = Pools.of percents' := by
  rw [Pools.of, Pools.of, Amount.gains_perm h, Amount.losses_perm h]

/-- One more percentage in the pools. -/
theorem Pools.of_add (percents : List Int) (n : Int) :
    (Pools.of percents).add (clamp n) = Pools.of (percents ++ [n]) := by
  rw [Pools.of, Pools.add_clamp n (Amount.gains_nonneg _) (Amount.losses_nonneg _),
    Pools.of_perm List.perm_append_comm, Pools.of, List.singleton_append, Amount.gains_cons,
    Amount.losses_cons, Int.add_comm (gains percents), Int.add_comm (losses percents)]

end PointBuy.Cost
