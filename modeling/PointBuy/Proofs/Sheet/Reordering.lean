import PointBuy.Proofs.Amount
import PointBuy.Proofs.Database.Effects
import PointBuy.Proofs.Sheet.Termination

/-!
# Effects in another order

The effects on a trait are active or not, and those on its level are added up one after the other.
Here the same sheet is looked at with the effects on one trait in another order
(`Sheet.reordered`). All that an evaluation reads is the same there, so a level is another one only
if the sum of the active effects on it is (`levels_reordered`), and this in turn is a matter of sums
of amounts: the sum is the same in all orders just if it is steady.

That no other trait has to be looked at rests on the evaluation graph. A step of the trait whose
effects are reordered reads levels that do not rest on its own, and so the induction that carries
the levels from one sheet to the other goes along the paths of the graph, not over all traits at
once.

## Main definitions

* `Sheet.bonuses` : what effects add to a level, those that are absent left out.
* `Sheet.reordered` : a sheet with the effects on one trait in another order.

## Main statements

* `Sheet.levels_reordered` : where the effects on a trait add up to the same, all levels are the
  same.
* `Sheet.level_reordered` : the level of a trait, in whatever order the effects on it stand.
* `Sheet.modifiers_in_any_order` : when the order of the effects on a trait does not matter.
* `Sheet.level_depends_on_order` : it does not always.
-/

namespace PointBuy

/-! ### What is picked from a list, in another order -/

section Picking

variable {α β : Type} {pick : α → Option β}

/-- What is picked from a list is picked in every order from some order of the list. -/
theorem exists_perm_filterMap_eq {as : List α} {bs : List β} (h : bs.Perm (as.filterMap pick)) :
    ∃ as' : List α, as'.Perm as ∧ as'.filterMap pick = bs := by
  induction as generalizing bs with
  | nil => exact ⟨[], .nil, h.eq_nil.symm⟩
  | cons a as ih =>
    rw [List.filterMap_cons] at h
    cases hpick : pick a with
    | none =>
      rw [hpick] at h
      obtain ⟨as', hperm, heq⟩ := ih h
      exact ⟨a :: as', hperm.cons a, by rw [List.filterMap_cons, hpick, heq]⟩
    | some b =>
      rw [hpick] at h
      obtain ⟨before, after, rfl⟩ := List.append_of_mem (h.mem_iff.2 List.mem_cons_self)
      obtain ⟨as', hperm, heq⟩ := ih (List.perm_middle.symm.trans h).cons_inv
      -- the element goes where its pick stands
      obtain ⟨as₁, as₂, rfl, hbefore, hafter⟩ := List.filterMap_eq_append_iff.1 heq
      refine ⟨as₁ ++ a :: as₂, List.perm_middle.trans (hperm.cons a), ?_⟩
      rw [List.filterMap_append, List.filterMap_cons, hpick, hbefore, hafter]

end Picking

namespace Sheet

variable {s : Sheet} {levels : Nat → Option (Option Amount)} {i j : Nat} {t t' : Trait}
  {refs : List EffectRef}

/-! ### What effects add to a level -/

/-- What an effect adds to a level, if it changes levels and is not absent. -/
def bonus? (s : Sheet) (p : Nat × Effect) : Option Amount :=
  match p.2.kind with
  | .level => (p.2.formula.integer? s.reader (s.purchasedAt p.1)).join
  | .cost _ => none

/-- What effects add to a level, those that are absent left out. -/
def bonuses (s : Sheet) (effects : List (Nat × Effect)) : List Amount := effects.filterMap s.bonus?

/-- What the active effects on a trait add to its level. -/
def bonusesOn (s : Sheet) (t : Trait) : List Amount := s.bonuses (s.activeEffects t)

/-- What the effect at a place adds to a level, if it is active. -/
def bonusAt? (s : Sheet) (ref : EffectRef) : Option Amount :=
  (if s.has ref.owner then (s.database.effect? ref).map (ref.owner, ·) else none).bind s.bonus?

theorem bonusesOn_eq (t : Trait) : s.bonusesOn t = t.effectedBy.toList.filterMap s.bonusAt? :=
  List.filterMap_filterMap

/-- An integer in a formula of a checked database is not given up. -/
theorem exists_integerValue (h : s.database.Checked) (f : Formula) (own : Amount) :
    ∃ value, f.integer? (s.readerFrom s.levels) own = some value :=
  Option.ne_none_iff_exists'.1 (Formula.integer?_ne_none (reader_total h))

/-- The effects on a level are added up from the left. -/
theorem addBonuses_levels (h : s.database.Checked) (effects : List (Nat × Effect)) (sum : Amount) :
    s.addBonuses s.levels sum effects = some ((s.bonuses effects).foldl (· + ·) sum) := by
  induction effects generalizing sum with
  | nil => rfl
  | cons p rest ih =>
    obtain ⟨owner, effect⟩ := p
    rw [addBonuses, bonuses, List.filterMap_cons, bonus?]
    cases hkind : effect.kind with
    | cost => exact ih sum
    | level =>
      obtain ⟨value, hvalue⟩ := exists_integerValue h effect.formula (s.purchasedAt owner)
      dsimp only
      rw [reader, hvalue]
      cases value <;> exact ih _

/-- Effects in another order are active in another order. -/
theorem activeEffects_perm (hrefs : refs.Perm t.effectedBy.toList) :
    (s.activeEffects (t.withEffectedBy refs)).Perm (s.activeEffects t) :=
  hrefs.filterMap _

theorem bonusesOn_perm (hrefs : refs.Perm t.effectedBy.toList) :
    (s.bonusesOn (t.withEffectedBy refs)).Perm (s.bonusesOn t) :=
  (activeEffects_perm hrefs).filterMap _

/-! ### The same sheet with effects in another order -/

/-- The sheet over the database in which other effects are noted at the trait at a place. -/
def reordered (s : Sheet) (i : Nat) (refs : List EffectRef) : Sheet :=
  ⟨s.database.withEffectedBy i refs, s.purchased⟩

theorem readerFrom_reordered : (s.reordered i refs).readerFrom levels = s.readerFrom levels := by
  have htruth (j : Nat) : (s.reordered i refs).truthFrom levels j = s.truthFrom levels j := by
    rw [truthFrom, truthFrom, reordered, Database.map_trait?_withEffectedBy fun _ ↦ rfl]
    rfl
  rw [readerFrom, readerFrom]
  simp only [htruth]
  rfl

theorem baseFrom_reordered (hkind : t'.kind = t.kind) :
    (s.reordered i refs).baseFrom levels j t' = s.baseFrom levels j t := by
  have hroot : (((s.reordered i refs).database.inheritanceRoot? j).bind
        (s.reordered i refs).database.trait?).map Trait.kind =
      ((s.database.inheritanceRoot? j).bind s.database.trait?).map Trait.kind := by
    rw [reordered, Database.inheritanceRoot?_withEffectedBy, Option.map_bind, Option.map_bind]
    exact Option.bind_congr fun root _ ↦ Database.map_trait?_withEffectedBy fun _ ↦ rfl
  have hdifficulty : (s.reordered i refs).database.difficulty? j = s.database.difficulty? j :=
    Database.difficulty?_withEffectedBy
  rw [baseFrom, baseFrom, hkind, hroot, hdifficulty, readerFrom_reordered]
  rfl

theorem baseCostFrom_reordered (hkind : t'.kind = t.kind) :
    (s.reordered i refs).baseCostFrom levels j t' = s.baseCostFrom levels j t := by
  rw [baseCostFrom, baseCostFrom, hkind, readerFrom_reordered]
  rfl

theorem activeEffects_reordered (t : Trait) :
    (s.reordered i refs).activeEffects t = s.activeEffects t := by
  rw [activeEffects, activeEffects]
  refine List.filterMap_congr fun ref _ ↦ ?_
  rw [reordered, Database.effect?_withEffectedBy]
  rfl

theorem addBonuses_reordered (sum : Amount) (effects : List (Nat × Effect)) :
    (s.reordered i refs).addBonuses levels sum effects = s.addBonuses levels sum effects := by
  induction effects generalizing sum with
  | nil => rfl
  | cons p rest ih =>
    rw [addBonuses, addBonuses, readerFrom_reordered]
    simp only [ih]
    rfl

theorem collectPercents_reordered (pools : Cost.Pools) (effects : List (Nat × Effect)) :
    (s.reordered i refs).collectPercents levels pools effects =
      s.collectPercents levels pools effects := by
  induction effects generalizing pools with
  | nil => rfl
  | cons p rest ih =>
    rw [collectPercents, collectPercents, readerFrom_reordered]
    simp only [ih]
    rfl

section Trait

variable (ht : s.database.trait? i = some t)

include ht

theorem reordered_self : s.reordered i t.effectedBy.toList = s :=
  congrArg (Sheet.mk · s.purchased) (Database.withEffectedBy_self ht)

theorem trait?_reordered :
    (s.reordered i refs).database.trait? i = some (t.withEffectedBy refs) := by
  rw [reordered, Database.trait?_withEffectedBy, ht, Option.map_some, if_pos rfl]

/-- One step of a level is the same, but for the trait itself, and for this too if the effects on it
add up to the same. -/
theorem levelFrom_reordered (j : Nat)
    (hbonuses : j = i → s.addBonuses levels 0 (s.activeEffects (t.withEffectedBy refs)) =
      s.addBonuses levels 0 (s.activeEffects t)) :
    (s.reordered i refs).levelFrom levels j = s.levelFrom levels j := by
  have htrait : (s.reordered i refs).database.trait? j =
      (s.database.trait? j).map fun u ↦ if i = j then u.withEffectedBy refs else u :=
    s.database.trait?_withEffectedBy i refs j
  rw [levelFrom, levelFrom, htrait]
  cases hj : s.database.trait? j with
  | none => rfl
  | some u =>
    rw [Option.map_some]
    dsimp only
    rw [baseFrom_reordered (t := u) (by split <;> rfl), activeEffects_reordered,
      addBonuses_reordered]
    split
    case isTrue hij =>
      obtain rfl := Option.some.inj (ht.symm.trans (hij ▸ hj))
      rw [hbonuses hij.symm]
    case isFalse => rfl

/-- One step of a cost is the same if the effects come to the same percentages. -/
theorem costFrom_reordered
    (hpercents : s.collectPercents levels .empty (s.activeEffects (t.withEffectedBy refs)) =
      s.collectPercents levels .empty (s.activeEffects t)) :
    (s.reordered i refs).costFrom levels i = s.costFrom levels i := by
  have hbase : (s.reordered i refs).baseCostFrom levels i (t.withEffectedBy refs) =
      s.baseCostFrom levels i t := baseCostFrom_reordered rfl
  rw [costFrom, costFrom, trait?_reordered ht, ht]
  dsimp only
  rw [hbase, activeEffects_reordered, collectPercents_reordered, hpercents]

/-! ### All steps -/

variable (h : s.database.Checked) (hrefs : refs.Perm t.effectedBy.toList)

include h hrefs

/-- Within a bound that no path in the evaluation graph reaches, a level is that of the sheet with
its effects in their own order, if it does not rest on the level of the trait, or the effects on
that add up to the same. -/
theorem levelWithin_reordered {bound : Nat} (hj : j < s.database.size)
    (hpaths : ∀ path, (j :: path).IsChain s.database.evaluationGraph.Points → path.length < bound)
    (hbonuses : Relation.ReflTransGen s.database.evaluationGraph.Points j i →
      s.addBonuses s.levels 0 (s.activeEffects (t.withEffectedBy refs)) =
        s.addBonuses s.levels 0 (s.activeEffects t)) :
    (s.reordered i refs).levelWithin bound j = s.levels j := by
  induction bound generalizing j with
  | zero => exact absurd (hpaths [] (.singleton j)) (Nat.lt_irrefl 0)
  | succ bound ih =>
    have hnext (k : Nat) (hk : (s.reordered i refs).database.evaluationGraph.Points j k) :
        (s.reordered i refs).levelWithin bound k = s.levels k := by
      have hpoints := Database.points_withEffectedBy ht hrefs hk
      refine ih (h.lt_size_of_points hpoints) (fun path hpath ↦ ?_)
        fun hreaches ↦ hbonuses (.head hpoints hreaches)
      have hlt := hpaths (k :: path) (.cons_cons hpoints hpath)
      rw [List.length_cons] at hlt
      omega
    rw [levelWithin, levelFrom_congr_levels hnext,
      levelFrom_reordered ht j fun hji ↦ hbonuses (hji ▸ .refl)]
    exact levelFrom_levels h hj

/-- **Where the effects on a trait add up to the same, all levels are the same.** -/
theorem levels_reordered
    (hbonuses : s.addBonuses s.levels 0 (s.activeEffects (t.withEffectedBy refs)) =
      s.addBonuses s.levels 0 (s.activeEffects t)) (hj : j < s.database.size) :
    (s.reordered i refs).levels j = s.levels j := by
  have hsize : (s.reordered i refs).database.size = s.database.size :=
    Database.size_withEffectedBy
  rw [levels, hsize]
  refine levelWithin_reordered ht h hrefs hj (fun path hpath ↦ ?_) fun _ ↦ hbonuses
  have hle := h.length_le_size hj hpath
  rw [List.length_cons] at hle
  omega

/-- **In whatever order the effects on a trait stand**, its level is the sum of what it starts from
and of what they add in that order. What they add does not change, since no level that they read
rests on the level of the trait. -/
theorem level_reordered :
    (s.reordered i refs).level i = (s.baseFrom s.levels i t).join.map
      (· + Amount.sum (s.bonusesOn (t.withEffectedBy refs))) := by
  have hi : i < s.database.size := Database.lt_size_of_trait? ht
  obtain ⟨bound, hbound⟩ := Nat.exists_eq_add_of_lt hi
  have hnext (k : Nat) (hk : (s.reordered i refs).database.evaluationGraph.Points i k) :
      (s.reordered i refs).levelWithin (i + bound) k = s.levels k := by
    have hpoints := Database.points_withEffectedBy ht hrefs hk
    refine levelWithin_reordered ht h hrefs (h.lt_size_of_points hpoints) (fun path hpath ↦ ?_)
      fun hreaches ↦ absurd (Relation.TransGen.head' hpoints hreaches) (h.acyclic_evaluation i)
    have hle := h.length_le_size hi (.cons_cons hpoints hpath)
    rw [List.length_cons, List.length_cons] at hle
    omega
  have hsize : (s.reordered i refs).database.size = i + bound + 1 :=
    Database.size_withEffectedBy.trans hbound
  have hbase : (s.reordered i refs).baseFrom s.levels i (t.withEffectedBy refs) =
      s.baseFrom s.levels i t := baseFrom_reordered rfl
  rw [level, levels, hsize, levelWithin, levelFrom_congr_levels hnext, levelFrom,
    trait?_reordered ht]
  dsimp only
  rw [hbase, activeEffects_reordered, addBonuses_reordered, addBonuses_levels h]
  rcases s.baseFrom s.levels i t with - | - | base <;> rfl

/-- The cost of a trait is the same if the effects on it add up to the same and come to the same
percentages. -/
theorem cost_reordered
    (hbonuses : s.addBonuses s.levels 0 (s.activeEffects (t.withEffectedBy refs)) =
      s.addBonuses s.levels 0 (s.activeEffects t))
    (hpercents : s.collectPercents s.levels .empty (s.activeEffects (t.withEffectedBy refs)) =
      s.collectPercents s.levels .empty (s.activeEffects t)) :
    (s.reordered i refs).cost i = s.cost i := by
  have hsee (f : Formula) : SeeAlike (s.reordered i refs) (s.reordered i refs)
      (s.reordered i refs).levels s.levels ((s.reordered i refs).database.placesIn f) := by
    intro j hj
    obtain ⟨name, -, hname⟩ := List.mem_filterMap.1 hj
    exact ⟨rfl, levels_reordered ht h hrefs hbonuses (h.indexed.lt_size hname)⟩
  have hlevels : (s.reordered i refs).costFrom (s.reordered i refs).levels i =
      (s.reordered i refs).costFrom s.levels i :=
    costFrom_congr rfl rfl (fun _ _ _ _ ↦ rfl) (fun _ _ f _ ↦ hsee f)
      fun _ _ _ _ effect _ ↦ hsee effect.formula
  rw [cost, cost, hlevels, costFrom_reordered ht hpercents]

end Trait

/-! ### Orders that do not matter -/

/-- All orders of the effects on a trait add up to the same just if all orders of what they add do,
for every order of what they add is that of the effects in some order. -/
theorem forall_perm_sum_bonusesOn_iff :
    (∀ refs, refs.Perm t.effectedBy.toList →
        Amount.sum (s.bonusesOn (t.withEffectedBy refs)) = Amount.sum (s.bonusesOn t)) ↔
      ∀ as, as.Perm (s.bonusesOn t) → Amount.sum as = Amount.sum (s.bonusesOn t) := by
  refine ⟨fun h as hperm ↦ ?_, fun h refs hrefs ↦ h _ (bonusesOn_perm hrefs)⟩
  rw [bonusesOn_eq] at hperm
  obtain ⟨refs, hrefs, rfl⟩ := exists_perm_filterMap_eq hperm
  have hsame := h refs hrefs
  rwa [bonusesOn_eq, Trait.withEffectedBy, List.toList_toArray] at hsame

/-- **When the order of the effects on a trait does not matter.** In every order, its level is the
sum of what it starts from and of what the effects add in that order. All orders add up to the same
just if they add up steadily: what they gain and what they lose fits into the range, or they only
gain, or only lose. And then all levels over a loaded database are the same in every order. -/
theorem modifiers_in_any_order {sources : List Source} {preferences : LoadPreferences}
    (hload : Database.load sources preferences = .ok s.database)
    (ht : s.database.trait? i = some t) :
    (∀ refs, refs.Perm t.effectedBy.toList →
      (s.reordered i refs).level i = (s.baseFrom s.levels i t).join.map
        (· + Amount.sum (s.bonusesOn (t.withEffectedBy refs)))) ∧
    ((∀ refs, refs.Perm t.effectedBy.toList →
        Amount.sum (s.bonusesOn (t.withEffectedBy refs)) = Amount.sum (s.bonusesOn t)) ↔
      Amount.Steady (s.bonusesOn t)) ∧
    (Amount.Steady (s.bonusesOn t) → ∀ refs, refs.Perm t.effectedBy.toList →
      ∀ j < s.database.size, (s.reordered i refs).level j = s.level j) := by
  have h : s.database.Checked := Database.checked_of_load hload
  have hsame : (∀ refs, refs.Perm t.effectedBy.toList →
      Amount.sum (s.bonusesOn (t.withEffectedBy refs)) = Amount.sum (s.bonusesOn t)) ↔
        Amount.Steady (s.bonusesOn t) :=
    forall_perm_sum_bonusesOn_iff.trans Amount.forall_perm_sum_eq_iff
  refine ⟨fun refs hrefs ↦ level_reordered ht h hrefs, hsame, fun hsteady refs hrefs j hj ↦ ?_⟩
  have hbonuses : s.addBonuses s.levels 0 (s.activeEffects (t.withEffectedBy refs)) =
      s.addBonuses s.levels 0 (s.activeEffects t) := by
    rw [addBonuses_levels h, addBonuses_levels h]
    exact congrArg some (hsame.2 hsteady refs hrefs)
  rw [level, level, levels_reordered ht h hrefs hbonuses hj]

/-! ### A small database with several effects -/

/-- What the effects on the attribute of the small database add, if their owner is purchased. -/
theorem bonusAt?_fated (own : Amount) (h : own.val ≠ 0) :
    bonusAt? ⟨Database.fated.noted, #[0, own]⟩ ⟨1, 0⟩ = some 9223372036854775800 ∧
      bonusAt? ⟨Database.fated.noted, #[0, own]⟩ ⟨1, 1⟩ = some (4 * own) ∧
      bonusAt? ⟨Database.fated.noted, #[0, own]⟩ ⟨1, 2⟩ = some (-own) := by
  have hhas : has ⟨Database.fated.noted, #[0, own]⟩ 1 = true := bne_iff_ne.2 h
  simp only [bonusAt?, hhas, Database.effect?_fated, if_true]
  exact ⟨rfl, rfl, rfl⟩

/-- The attribute of that database. -/
theorem trait?_might_fated : Database.fated.noted.trait? 0 =
    some { Database.might with effectedBy := #[⟨1, 0⟩, ⟨1, 1⟩, ⟨1, 2⟩] } := by
  rw [Database.trait?, Database.traits_noted_fated]
  rfl

/-- With one level of the advantage the effects on the attribute add up steadily, and so the level
of the attribute is the same if they are declared the other way round. -/
theorem modifiers_in_any_order_fated :
    Database.load [Database.fateSource] ⟨[], false⟩ = .ok Database.fated.noted ∧
      Database.fated.noted.trait? 0 =
        some { Database.might with effectedBy := #[⟨1, 0⟩, ⟨1, 1⟩, ⟨1, 2⟩] } ∧
      (reordered ⟨Database.fated.noted, #[0, 1]⟩ 0 [⟨1, 2⟩, ⟨1, 1⟩, ⟨1, 0⟩]).level 0 =
        level ⟨Database.fated.noted, #[0, 1]⟩ 0 := by
  obtain ⟨-, -, hsteady⟩ := modifiers_in_any_order (s := ⟨Database.fated.noted, #[0, 1]⟩)
    Database.load_fated trait?_might_fated
  obtain ⟨hfirst, hsecond, hthird⟩ := bonusAt?_fated 1 (by decide)
  refine ⟨Database.load_fated, trait?_might_fated, hsteady ?_ _ (by decide) 0 ?_⟩
  · have hbonuses : bonusesOn ⟨Database.fated.noted, #[0, 1]⟩
        { Database.might with effectedBy := #[⟨1, 0⟩, ⟨1, 1⟩, ⟨1, 2⟩] } =
        [9223372036854775800, 4 * 1, -1] := by
      simp only [bonusesOn_eq, List.filterMap_cons, hfirst, hsecond, hthird, List.filterMap_nil]
    rw [hbonuses]
    decide
  · exact Database.lt_size_of_trait? trait?_might_fated

/-- The order of effects matters. With two levels of the advantage, the attribute has another level
if the effect that lowers it is declared before the second one that raises it. The exact sum, which
lies in the range, is that of the second order. -/
theorem level_depends_on_order :
    Database.load [Database.fateSource] ⟨[], false⟩ = .ok Database.fated.noted ∧
      Database.fated.noted.trait? 0 =
        some { Database.might with effectedBy := #[⟨1, 0⟩, ⟨1, 1⟩, ⟨1, 2⟩] } ∧
      level ⟨Database.fated.noted, #[0, 2]⟩ 0 = some 9223372036854775805 ∧
      (reordered ⟨Database.fated.noted, #[0, 2]⟩ 0 [⟨1, 0⟩, ⟨1, 2⟩, ⟨1, 1⟩]).level 0 =
        some 9223372036854775806 := by
  obtain ⟨hfirst, hsecond, hthird⟩ := bonusAt?_fated 2 (by decide)
  have h : Database.fated.noted.Checked := Database.checked_of_load Database.load_fated
  have hlevel (refs : List EffectRef)
      (hrefs : refs.Perm [(⟨1, 0⟩ : EffectRef), ⟨1, 1⟩, ⟨1, 2⟩]) :
      (reordered ⟨Database.fated.noted, #[0, 2]⟩ 0 refs).level 0 =
        some (0 + Amount.sum (refs.filterMap (bonusAt? ⟨Database.fated.noted, #[0, 2]⟩))) := by
    rw [level_reordered trait?_might_fated h hrefs, bonusesOn_eq]
    rfl
  have hown : reordered ⟨Database.fated.noted, #[0, 2]⟩ 0 [⟨1, 0⟩, ⟨1, 1⟩, ⟨1, 2⟩] =
      ⟨Database.fated.noted, #[0, 2]⟩ :=
    reordered_self (s := ⟨Database.fated.noted, #[0, 2]⟩) trait?_might_fated
  refine ⟨Database.load_fated, trait?_might_fated, ?_, ?_⟩
  · rw [← hown, hlevel _ (.refl _)]
    simp only [List.filterMap_cons, hfirst, hsecond, hthird, List.filterMap_nil]
    decide
  · rw [hlevel _ (by decide)]
    simp only [List.filterMap_cons, hfirst, hsecond, hthird, List.filterMap_nil]
    decide

end Sheet
end PointBuy
