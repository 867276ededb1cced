import PointBuy.Amount

/-!
# Costs

What purchased levels of a skill cost, and how percentages change a cost. Surcharges and discounts
are collected apart; of the discounts at most eighty percent count.

## Main definitions

* `Cost.ofSkill` : the cost of the levels of a skill.
* `Cost.modified` : a cost with its surcharges and discounts.
-/

namespace PointBuy.Cost

/-- The cost of purchased levels of a skill: one point each for the first two, then four more for
each further one. -/
def ofSkill (levels : Amount) : Amount :=
  if levels.val < 3 then levels else (levels - 2) * 4

/-- The percentage beyond which discounts do not count. -/
def greatestDiscount : Amount := 80

/-- The percentage by which a cost changes. -/
def netPercent (surcharge discount : Amount) : Amount :=
  surcharge - if discount.val ≤ greatestDiscount.val then discount else greatestDiscount

/-- The hundredth part, rounded down. -/
def hundredth (a : Amount) : Amount := .clamp (a.val / 100)

/-- A cost with a surcharge and a discount in percent. What is added to it is rounded down. -/
def modified (cost surcharge discount : Amount) : Amount :=
  cost + hundredth (cost * netPercent surcharge discount)

/-- Surcharges and discounts, each added up. -/
structure Pools where
  surcharge : Amount
  discount : Amount
deriving DecidableEq

/-- No percentages. -/
def Pools.empty : Pools := ⟨0, 0⟩

/-- Adds a percentage to the pool of its sign. -/
def Pools.add (pools : Pools) (percent : Amount) : Pools :=
  if 0 ≤ percent.val then { pools with surcharge := pools.surcharge + percent }
  else { pools with discount := pools.discount + -percent }

end PointBuy.Cost
