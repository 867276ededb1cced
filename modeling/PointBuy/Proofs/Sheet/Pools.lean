import PointBuy.Proofs.Cost
import PointBuy.Proofs.Sheet.Reordering

/-!
# The pools of a cost

The percentages by which effects change a cost are collected in two pools, one for each sign. Unlike
the levels that effects add, they never cancel on the way: what a pool holds is the sum of all that
has been put into it, cut off at the end of the range, and so it holds the same in every order. The
sign of a percentage is that of the exact number, which is of use only for the one amount that has
no opposite.

## Main definitions

* `Sheet.percentsOn` : the percentages by which the cost of a trait is changed, with their signs.

## Main statements

* `Sheet.collectPercents_levels` : what the pools hold.
* `Sheet.cost_from_pools` : the cost of a trait from its pools, in all orders of the effects on its
  cost, and how much of it is left at least.
-/

namespace PointBuy

open Amount (clamp gains losses)
open Cost (Pools)

/-- A percentage with the sign of the effect that it comes from. -/
def CostSign.signed : CostSign → Int → Int
  | .raise, percent => percent
  | .lower, percent => -percent

/-- Whether the effect at a place is one on a level. -/
def Database.changesLevel (db : Database) (ref : EffectRef) : Bool :=
  (db.effect? ref).any (·.kind = .level)

namespace Sheet

variable {s : Sheet} {i : Nat} {t : Trait} {refs : List EffectRef}

/-! ### What effects change a cost by -/

/-- The percentage by which an effect changes a cost, with its sign, if it changes costs and is not
absent. -/
def percent? (s : Sheet) (p : Nat × Effect) : Option Int :=
  match p.2.kind with
  | .level => none
  | .cost sign =>
    (p.2.formula.percent? s.reader (s.purchasedAt p.1)).join.map fun percent ↦
      sign.signed percent.val

/-- The percentages by which the cost of the trait at a place is changed: those of all effects on it
whose owners are purchased, with their signs, where they are not absent. -/
def percentsOn (s : Sheet) (i : Nat) : List Int :=
  ((s.database.effects.filter (s.database.isOn i)).filter (s.has ·.1)).filterMap s.percent?

/-- What the effect at a place changes a cost by, if it is active. -/
def percentAt? (s : Sheet) (ref : EffectRef) : Option Int :=
  (if s.has ref.owner then (s.database.effect? ref).map (ref.owner, ·) else none).bind s.percent?

theorem filterMap_activeEffects_percent? (t : Trait) :
    (s.activeEffects t).filterMap s.percent? = t.effectedBy.toList.filterMap s.percentAt? :=
  List.filterMap_filterMap

/-- The effects that are noted at a trait of a loaded database bring all its percentages. -/
theorem percentsOn_of_load {sources : List Source} {preferences : LoadPreferences}
    (hload : Database.load sources preferences = .ok s.database)
    (ht : s.database.trait? i = some t) :
    t.effectedBy.toList.filterMap s.percentAt? = s.percentsOn i := by
  rw [percentsOn, List.filterMap_filter, ← Database.filterMap_effectedBy_of_load hload ht]
  refine List.filterMap_congr fun ref _ ↦ ?_
  rw [percentAt?]
  cases s.database.effect? ref <;> by_cases hhas : s.has ref.owner <;> simp [hhas]

/-! ### What pools hold -/

/-- An effect on a cost puts its percentage, if it is not absent, into the pools with its sign. -/
theorem collectPercents_cons {levels : Nat → Option (Option Amount)} {owner : Nat} {effect : Effect}
    {sign : CostSign} (hkind : effect.kind = .cost sign) (percents : List Int)
    (rest : List (Nat × Effect)) :
    s.collectPercents levels (Pools.of percents) ((owner, effect) :: rest) = (do
      match ← effect.formula.percent? (s.readerFrom levels) (s.purchasedAt owner) with
      | none => s.collectPercents levels (Pools.of percents) rest
      | some percent =>
        s.collectPercents levels (Pools.of (percents ++ [sign.signed percent.val])) rest) := by
  rw [collectPercents, hkind]
  dsimp only
  rcases effect.formula.percent? (s.readerFrom levels) (s.purchasedAt owner) with - | - | percent
  · rfl
  · cases sign <;> rfl
  · have hraise : (Pools.of percents).add percent = Pools.of (percents ++ [percent.val]) := by
      rw [← Pools.of_add, Amount.clamp_val]
    have hlower : (Pools.of percents).add (-percent) = Pools.of (percents ++ [-percent.val]) :=
      Pools.of_add percents (-percent.val)
    cases sign with
    | raise => exact congrArg (s.collectPercents levels · rest) hraise
    | lower => exact congrArg (s.collectPercents levels · rest) hlower

/-- Collecting goes on from the pools of what has been collected. -/
theorem collectPercents_of (h : s.database.Checked) (percents : List Int)
    (effects : List (Nat × Effect)) :
    s.collectPercents s.levels (Pools.of percents) effects =
      some (Pools.of (percents ++ effects.filterMap s.percent?)) := by
  induction effects generalizing percents with
  | nil => rw [collectPercents, List.filterMap_nil, List.append_nil]
  | cons p rest ih =>
    obtain ⟨owner, effect⟩ := p
    rw [List.filterMap_cons, percent?]
    cases hkind : effect.kind with
    | level =>
      rw [collectPercents, hkind]
      exact ih percents
    | cost sign =>
      obtain ⟨value, hvalue⟩ : ∃ value,
          effect.formula.percent? s.reader (s.purchasedAt owner) = some value :=
        Option.ne_none_iff_exists'.1 (Formula.percent?_ne_none (reader_total h))
      rw [collectPercents_cons hkind, ← reader, hvalue]
      cases value with
      | none => exact ih percents
      | some percent =>
        refine (ih _).trans ?_
        rw [List.append_assoc]
        rfl

/-- **What the pools hold**: the sums of all percentages that active effects bring, in whatever
order. -/
theorem collectPercents_levels (h : s.database.Checked) (effects : List (Nat × Effect)) :
    s.collectPercents s.levels .empty effects = some (Pools.of (effects.filterMap s.percent?)) :=
  collectPercents_of h [] effects

/-! ### The cost from its pools -/

/-- A trait that is no attribute has a cost without the effects on it. -/
theorem exists_baseCost (h : s.database.Checked) (hcosts : t.hasCost = true) :
    ∃ base, s.baseCostFrom s.levels i t = some (some base) := by
  rw [baseCostFrom]
  rw [Trait.hasCost] at hcosts
  cases hkind : t.kind with
  | «attribute» formula => rw [hkind] at hcosts; cases hcosts
  | skill | inheritedSkill => exact ⟨_, rfl⟩
  | leveledAdvantage cost | plainAdvantage cost =>
    obtain ⟨value, hvalue⟩ := exists_integerValue h cost (s.purchasedAt i)
    dsimp only
    rw [hvalue]
    split <;> exact ⟨_, rfl⟩

/-- Effects on a cost add nothing to the level. So where only these stand in another order, the
effects add up to the same. -/
theorem bonusesOn_of_filter
    (hlevels : refs.filter s.database.changesLevel =
      t.effectedBy.toList.filter s.database.changesLevel) :
    s.bonusesOn (t.withEffectedBy refs) = s.bonusesOn t := by
  have hfilter (refs : List EffectRef) : refs.filterMap s.bonusAt? =
      (refs.filter s.database.changesLevel).filterMap s.bonusAt? := by
    rw [List.filterMap_filter]
    refine List.filterMap_congr fun ref _ ↦ ?_
    rw [Database.changesLevel, bonusAt?]
    cases heffect : s.database.effect? ref with
    | none => simp
    | some effect =>
      cases hkind : effect.kind <;> by_cases hhas : s.has ref.owner <;>
        simp [hhas, hkind, bonus?]
  rw [bonusesOn_eq, bonusesOn_eq, hfilter, hfilter t.effectedBy.toList]
  exact congrArg _ hlevels

/-- **The cost of a trait from its pools.** A trait that is no attribute has a cost, which is that
without effects, changed by the pools of all percentages that active effects on it bring. It is the
same in all orders of the effects on the cost, and no less than the fifth part of the cost without
effects, if this is not negative. -/
theorem cost_from_pools {sources : List Source} {preferences : LoadPreferences}
    (hload : Database.load sources preferences = .ok s.database)
    (ht : s.database.trait? i = some t) (hcosts : t.hasCost = true) :
    ∃ base cost, s.baseCostFrom s.levels i t = some (some base) ∧ s.cost i = some cost ∧
      cost = Cost.modified base (clamp (gains (s.percentsOn i))) (clamp (losses (s.percentsOn i))) ∧
      (∀ refs, refs.Perm t.effectedBy.toList →
        refs.filter s.database.changesLevel = t.effectedBy.toList.filter s.database.changesLevel →
        (s.reordered i refs).cost i = some cost) ∧
      (0 ≤ base.val → base.val / 5 ≤ cost.val) := by
  have h : s.database.Checked := Database.checked_of_load hload
  obtain ⟨base, hbase⟩ := exists_baseCost (i := i) h hcosts
  have hpools (refs : List EffectRef) (hrefs : refs.Perm t.effectedBy.toList) :
      s.collectPercents s.levels .empty (s.activeEffects (t.withEffectedBy refs)) =
        some (Pools.of (s.percentsOn i)) := by
    rw [collectPercents_levels h, ← percentsOn_of_load hload ht]
    exact congrArg some (Pools.of_perm
      (((activeEffects_perm hrefs).filterMap _).trans
        (.of_eq (filterMap_activeEffects_percent? t))))
  have hown := hpools _ (.refl _)
  have hcost : s.cost i = some (Cost.modified base (clamp (gains (s.percentsOn i)))
      (clamp (losses (s.percentsOn i)))) := by
    rw [cost, costFrom, ht]
    dsimp only
    rw [hbase, Option.bind_eq_bind, Option.bind_some]
    dsimp only
    rw [show s.activeEffects t = s.activeEffects (t.withEffectedBy t.effectedBy.toList) from rfl,
      hown]
    rfl
  refine ⟨base, _, hbase, hcost, rfl, fun refs hrefs hlevels ↦ ?_, fun hnonneg ↦ ?_⟩
  · have hbonuses : s.addBonuses s.levels 0 (s.activeEffects (t.withEffectedBy refs)) =
        s.addBonuses s.levels 0 (s.activeEffects t) := by
      rw [addBonuses_levels h, addBonuses_levels h]
      exact congrArg (fun values ↦ some (values.foldl (· + ·) 0)) (bonusesOn_of_filter hlevels)
    rw [cost_reordered ht h hrefs hbonuses ((hpools refs hrefs).trans hown.symm), hcost]
  · have hpool {n : Int} (hn : 0 ≤ n) : 0 ≤ (clamp n).val := by
      rw [Amount.val_clamp]
      omega
    exact Cost.fifth_le_modified hnonneg (hpool (Amount.gains_nonneg _))
      (hpool (Amount.losses_nonneg _))

/-! ### A small database with a discount -/

/-- The advantage of the small database. -/
theorem trait?_fate_fated : Database.fated.noted.trait? 1 =
    some { Database.fate with effectedBy := #[⟨1, 3⟩, ⟨1, 4⟩] } := by
  rw [Database.trait?, Database.traits_noted_fated]
  rfl

/-- Three levels of the advantage cost at least three points, in whatever order the surcharge on it
and the discount are declared. -/
theorem cost_from_pools_fated :
    Database.load [Database.fateSource] ⟨[], false⟩ = .ok Database.fated.noted ∧
      Database.fated.noted.trait? 1 =
        some { Database.fate with effectedBy := #[⟨1, 3⟩, ⟨1, 4⟩] } ∧
      Database.fate.hasCost = true ∧
      ∃ points : Amount, 3 ≤ points.val ∧
        cost ⟨Database.fated.noted, #[0, 3]⟩ 1 = some points ∧
        (reordered ⟨Database.fated.noted, #[0, 3]⟩ 1 [⟨1, 4⟩, ⟨1, 3⟩]).cost 1 = some points := by
  obtain ⟨base, points, hbase, hcost, -, horder, hfifth⟩ :=
    cost_from_pools (s := ⟨Database.fated.noted, #[0, 3]⟩) Database.load_fated
      trait?_fate_fated rfl
  obtain rfl : base = 15 := Option.some.inj (Option.some.inj (hbase.symm.trans rfl))
  refine ⟨Database.load_fated, trait?_fate_fated, rfl, points, hfifth (by decide), hcost,
    horder _ (by decide) ?_⟩
  -- both effects are on the cost
  simp only [List.filter_cons, Database.changesLevel, Database.effect?_fated]
  rfl

end Sheet
end PointBuy
