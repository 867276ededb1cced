import Mathlib.Algebra.BigOperators.Group.List.Lemmas
import Mathlib.Algebra.Ring.Int.Defs
import PointBuy.Amount

/-!
# Sums of amounts

An operation on amounts is exact as long as its result lies in the range, and else gives the end of
the range that the result lies beyond. For sums of many amounts this has a consequence that a single
sum does not show: they are added up one after the other, and what is cut off on the way is lost. So
a sum may depend on the order of its parts, though no exact sum does.

How much can be cut off is said by two numbers, what the parts above zero come to and what those
below zero come to (`gains`, `losses`). If both fit into the range, nothing is ever cut off; if one
of them is zero, what is cut off lies beyond the end that the sum has reached. In all other cases
two orders give different sums: it matters whether the gains come first or the losses.

## Main definitions

* `Amount.InRange` : the integers that amounts can be.
* `Amount.gains`, `Amount.losses` : what the numbers above and below zero come to.
* `Amount.sum` : amounts added up from the left.
* `Amount.Steady` : no order of the parts matters.

## Main statements

* `Amount.sum_eq_of_steady` : a steady sum is the exact one, brought into the range.
* `Amount.forall_perm_sum_eq_iff` : a sum is the same in all orders only if it is steady.
-/

namespace PointBuy.Amount

/-! ### Single operations -/

theorem val_clamp (n : Int) :
    (clamp n).val = max (-9223372036854775808) (min n 9223372036854775807) := by
  rw [clamp]
  split
  · show -9223372036854775808 = _
    omega
  · split
    · show 9223372036854775807 = _
      omega
    · show n = _
      omega

theorem val_add (a b : Amount) :
    (a + b).val = max (-9223372036854775808) (min (a.val + b.val) 9223372036854775807) :=
  val_clamp _

theorem val_sub (a b : Amount) :
    (a - b).val = max (-9223372036854775808) (min (a.val - b.val) 9223372036854775807) :=
  val_clamp _

theorem val_mul (a b : Amount) :
    (a * b).val = max (-9223372036854775808) (min (a.val * b.val) 9223372036854775807) :=
  val_clamp _

theorem val_neg (a : Amount) :
    (-a).val = max (-9223372036854775808) (min (-a.val) 9223372036854775807) :=
  val_clamp _

/-- The integers that amounts can be. -/
def InRange (n : Int) : Prop := -9223372036854775808 ≤ n ∧ n ≤ 9223372036854775807

instance (n : Int) : Decidable (InRange n) := inferInstanceAs (Decidable (_ ∧ _))

/-- Inside the range nothing is lost. -/
theorem InRange.val_clamp {n : Int} (h : InRange n) : (clamp n).val = n := val_clamp_of_le h.1 h.2

/-! ### Gains and losses -/

/-- What the numbers above zero come to. -/
def gains (ns : List Int) : Int := (ns.map (max · 0)).sum

/-- What the numbers below zero come to, without the sign. -/
def losses (ns : List Int) : Int := (ns.map fun n ↦ max (-n) 0).sum

section Numbers

variable (n : Int) (ns : List Int)

theorem gains_cons : gains (n :: ns) = max n 0 + gains ns := rfl

theorem losses_cons : losses (n :: ns) = max (-n) 0 + losses ns := rfl

theorem gains_nonneg : 0 ≤ gains ns := by
  induction ns with
  | nil => exact Int.le_refl 0
  | cons n ns ih =>
    rw [gains_cons]
    omega

theorem losses_nonneg : 0 ≤ losses ns := by
  induction ns with
  | nil => exact Int.le_refl 0
  | cons n ns ih =>
    rw [losses_cons]
    omega

theorem sum_eq_gains_sub_losses : ns.sum = gains ns - losses ns := by
  induction ns with
  | nil => rfl
  | cons n ns ih =>
    rw [List.sum_cons, gains_cons, losses_cons, ih]
    omega

variable {ns} {ns' : List Int}

theorem gains_perm (h : ns.Perm ns') : gains ns = gains ns' := (h.map _).sum_eq

theorem losses_perm (h : ns.Perm ns') : losses ns = losses ns' := (h.map _).sum_eq

end Numbers

/-! ### Sums -/

/-- Amounts added up from the left. -/
def sum (as : List Amount) : Amount := as.foldl (· + ·) 0

/-- The numbers that amounts are. -/
def vals (as : List Amount) : List Int := as.map val

section Sums

variable {as as' : List Amount}

theorem vals_cons (a : Amount) (as : List Amount) : vals (a :: as) = a.val :: vals as := rfl

/-- Where what is gained and what is lost fits into the range, nothing is cut off. -/
theorem val_foldl_of_fit {start : Amount}
    (hgains : start.val + gains (vals as) ≤ 9223372036854775807)
    (hlosses : -9223372036854775808 ≤ start.val - losses (vals as)) :
    (as.foldl (· + ·) start).val = start.val + (vals as).sum := by
  induction as generalizing start with
  | nil => exact (Int.add_zero _).symm
  | cons a as ih =>
    have hgains' := gains_nonneg (vals as)
    have hlosses' := losses_nonneg (vals as)
    rw [vals_cons, gains_cons] at hgains
    rw [vals_cons, losses_cons] at hlosses
    have hnext : (start + a).val = start.val + a.val := by
      rw [val_add]
      omega
    rw [List.foldl_cons, ih (by omega) (by omega), hnext, vals_cons, List.sum_cons, Int.add_assoc]

/-- Where nothing is lost, only the upper end is reached. -/
theorem val_foldl_of_losses {start : Amount} (h : losses (vals as) = 0) :
    (as.foldl (· + ·) start).val = min (start.val + gains (vals as)) 9223372036854775807 := by
  induction as generalizing start with
  | nil =>
    have hle := start.le_greatest
    show start.val = min (start.val + 0) _
    omega
  | cons a as ih =>
    have hgains' := gains_nonneg (vals as)
    have hlosses' := losses_nonneg (vals as)
    have hleast := start.least_le
    rw [vals_cons, losses_cons] at h
    rw [List.foldl_cons, ih (by omega), vals_cons, gains_cons, val_add]
    omega

/-- Where nothing is gained, only the lower end is reached. -/
theorem val_foldl_of_gains {start : Amount} (h : gains (vals as) = 0) :
    (as.foldl (· + ·) start).val = max (start.val - losses (vals as)) (-9223372036854775808) := by
  induction as generalizing start with
  | nil =>
    have hleast := start.least_le
    show start.val = max (start.val - 0) _
    omega
  | cons a as ih =>
    have hgains' := gains_nonneg (vals as)
    have hlosses' := losses_nonneg (vals as)
    have hle := start.le_greatest
    rw [vals_cons, gains_cons] at h
    rw [List.foldl_cons, ih (by omega), vals_cons, losses_cons, val_add]
    omega

/-- The order of the parts does not matter: gains and losses both fit into the range, or there are
only gains, or only losses. -/
def Steady (as : List Amount) : Prop :=
  (gains (vals as) ≤ 9223372036854775807 ∧ losses (vals as) ≤ 9223372036854775808) ∨
    losses (vals as) = 0 ∨ gains (vals as) = 0

instance : Decidable (Steady as) := inferInstanceAs (Decidable (_ ∨ _))

/-- **A steady sum is the exact one**, brought into the range. -/
theorem sum_eq_of_steady (h : Steady as) : sum as = clamp (vals as).sum := by
  have hgains := gains_nonneg (vals as)
  have hlosses := losses_nonneg (vals as)
  have hzero : (0 : Amount).val = 0 := rfl
  refine ext ?_
  rw [sum, val_clamp, sum_eq_gains_sub_losses]
  rcases h with ⟨hgain, hloss⟩ | hloss | hgain
  · rw [val_foldl_of_fit (by omega) (by omega), sum_eq_gains_sub_losses]
    omega
  · rw [val_foldl_of_losses hloss]
    omega
  · rw [val_foldl_of_gains hgain]
    omega

theorem Steady.sum_perm (h : Steady as) (hperm : as.Perm as') : sum as' = sum as := by
  have hvals : (vals as).Perm (vals as') := hperm.map val
  have h' : Steady as' := by
    rw [Steady, ← gains_perm hvals, ← losses_perm hvals]
    exact h
  rw [sum_eq_of_steady h, sum_eq_of_steady h', hvals.sum_eq]

/-! ### Sums that depend on the order -/

/-- Whether an amount is above zero. -/
def isGain (a : Amount) : Bool := decide (0 < a.val)

/-- The gains are those of the parts above zero, and these have no losses. -/
theorem gains_filter (as : List Amount) :
    gains (vals (as.filter isGain)) = gains (vals as) ∧ losses (vals (as.filter isGain)) = 0 := by
  induction as with
  | nil => exact ⟨rfl, rfl⟩
  | cons a as ih =>
    rw [List.filter_cons]
    split
    case isTrue h =>
      have hpos : 0 < a.val := of_decide_eq_true h
      simp only [vals_cons, gains_cons, losses_cons]
      omega
    case isFalse h =>
      have hneg : ¬ 0 < a.val := fun hpos ↦ h (decide_eq_true hpos)
      simp only [vals_cons, gains_cons]
      omega

/-- The losses are those of the other parts, and these have no gains. -/
theorem losses_filter (as : List Amount) :
    losses (vals (as.filter fun a ↦ !a.isGain)) = losses (vals as) ∧
      gains (vals (as.filter fun a ↦ !a.isGain)) = 0 := by
  induction as with
  | nil => exact ⟨rfl, rfl⟩
  | cons a as ih =>
    rw [List.filter_cons]
    split
    case isTrue h =>
      have hneg : ¬ 0 < a.val := of_decide_eq_false (Bool.not_eq_true' _ ▸ h)
      simp only [vals_cons, gains_cons, losses_cons]
      omega
    case isFalse h =>
      have hpos : 0 < a.val := of_decide_eq_true (by simpa [isGain] using h)
      simp only [vals_cons, losses_cons]
      omega

/-- **Gains first or losses first**: a sum that is not steady comes out differently. -/
theorem sum_filter_ne (h : ¬ Steady as) :
    sum (as.filter isGain ++ as.filter fun a ↦ !a.isGain) ≠
      sum ((as.filter fun a ↦ !a.isGain) ++ as.filter isGain) := by
  obtain ⟨hgains, hnoLosses⟩ := gains_filter as
  obtain ⟨hlosses, hnoGains⟩ := losses_filter as
  have hgains' := gains_nonneg (vals as)
  have hlosses' := losses_nonneg (vals as)
  have hzero : (0 : Amount).val = 0 := rfl
  have hparts : ¬ ((gains (vals as) ≤ 9223372036854775807 ∧
      losses (vals as) ≤ 9223372036854775808) ∨ losses (vals as) = 0 ∨ gains (vals as) = 0) := h
  intro heq
  have hval := congrArg val heq
  rw [sum, sum, List.foldl_append, List.foldl_append, val_foldl_of_gains hnoGains,
    val_foldl_of_losses hnoLosses, val_foldl_of_losses hnoLosses, val_foldl_of_gains hnoGains,
    hgains, hlosses, hzero] at hval
  omega

/-- **A sum is the same in all orders of its parts only if it is steady.** -/
theorem forall_perm_sum_eq_iff : (∀ as', as'.Perm as → sum as' = sum as) ↔ Steady as := by
  refine ⟨fun h ↦ ?_, fun h as' hperm ↦ h.sum_perm hperm.symm⟩
  by_contra hunsteady
  have hfirst := h _ (List.filter_append_perm isGain as)
  have hlast := h _ (List.perm_append_comm.trans (List.filter_append_perm isGain as))
  exact sum_filter_ne hunsteady (hfirst.trans hlast.symm)

end Sums

end PointBuy.Amount
