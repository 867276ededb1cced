import PointBuy.Proofs.Formula.Exact
import PointBuy.Proofs.Sheet.Pools

/-!
# Exact levels and costs

The levels and costs of a sheet are defined once more over all integers, step by step as before, but
without a range: quotients are rounded toward zero, the hundredth part of a product is rounded down,
and absent operands are left out or make absent results. The integers that a level or a cost of the
sheet would bring into the range are passed on the way (`Reckoning`), with those that are passed for
the levels it reads of other traits:

* the results of operators, in conditions too, and the products of percentages with their scales;
* for a level, what a skill starts from with its difficulty and then with its own levels, each sum
  of bonuses on the way, and the level itself;
* for a cost, that of the levels of a skill, what each pool holds, the product with the percentage
  by which the cost changes, and the cost itself.

What lies in the range as soon as these do is not passed, like that percentage, and the hundredth
part of the product.

As long as no integer that is passed lies beyond the range, nothing is brought into it, and levels
and costs are the exact ones. This goes step by step, and for levels by induction on the bound on
the steps. It does not need a loaded database, but only over one does the exact computation of every
level come to an end (`exactLevel_settles`): it follows the evaluation graph as the other one does.

## Main definitions

* `Sheet.exactLevelWithin` : the exact level of a trait, with a bound on the steps.
* `Sheet.exactLevel`, `Sheet.exactCost` : what follows exactly from the purchases.

## Main statements

* `Sheet.levelWithin_follows`, `Sheet.cost_follows` : levels and costs follow the exact ones.
* `Sheet.exact_within_range` : where all that is computed on the way lies in the range, levels and
  costs over a loaded database are exact.
-/

namespace PointBuy

open Amount (InRange clamp gains losses)
open Reckoning

/-- The exact cost of the levels of a skill. Two levels less lie in the range in any case. -/
def Cost.exactOfSkill (levels : Int) : Reckoning Int :=
  if levels < 3 then pure levels else passing ((levels - 2) * 4)

theorem Cost.exactOfSkill_settles (levels : Int) : Settles (Cost.exactOfSkill levels) := by
  rw [exactOfSkill]
  split
  · exact settles_pure _
  · exact settles_passing _

/-- **The cost of a skill follows the exact one.** -/
theorem Cost.ofSkill_follows (levels : Amount) :
    Follows (fun n a ↦ a.val = n) (Cost.exactOfSkill levels.val) (some (Cost.ofSkill levels)) := by
  rw [exactOfSkill, ofSkill]
  split
  case isTrue => exact follows_pure rfl
  case isFalse hmany =>
    refine follows_passing (f := pure) fun hcost ↦ follows_pure ?_
    have hval : (levels - 2).val = levels.val - 2 := by
      have hle := levels.le_greatest
      have htwo : (2 : Amount).val = 2 := rfl
      rw [Amount.val_sub]
      omega
    show (clamp ((levels - 2).val * 4)).val = _
    rw [hval, hcost.val_clamp]

namespace Sheet

open Cost (Pools)
open Formula (ExactReader)

/-! ### One exact step -/

section Step

variable (s : Sheet) (levels : Nat → Reckoning (Option Int))

/-- Whether a trait counts as true, by its exact level. -/
def exactTruthFrom (i : Nat) : Reckoning Bool :=
  match (s.database.trait? i).map Trait.kind with
  | some (.plainAdvantage _) => pure (s.has i)
  | some (.skill ..) | some (.inheritedSkill ..) => do return (← levels i).isSome
  | some (.leveledAdvantage _) | some (.attribute _) | none => pure false

/-- What formulas read, by the exact levels of traits. -/
def exactReaderFrom : ExactReader where
  level name :=
    match s.database.indexOf? name with
    | some i => levels i
    | none => pure none
  truth name :=
    match s.database.indexOf? name with
    | some i => s.exactTruthFrom levels i
    | none => pure false

/-- The exact level of a trait without the effects on it. -/
def exactBaseFrom (i : Nat) (t : Trait) : Reckoning (Option Int) :=
  let own := (s.purchasedAt i).val
  match t.kind with
  | .leveledAdvantage _ | .plainAdvantage _ => pure (some own)
  | .attribute formula => formula.exactInteger (s.exactReaderFrom levels) own
  | .skill .. | .inheritedSkill .. =>
    if !s.has i then pure none
    else
      match ((s.database.inheritanceRoot? i).bind s.database.trait?).map Trait.kind,
          s.database.difficulty? i with
      | some (.skill _ base _), some difficulty => do
        match ← base.exactInteger (s.exactReaderFrom levels) own with
        | none => return none
        | some base =>
          -- a level adds twice, and either sum may leave the range
          let unlearned ← passing (base + difficulty.offset.val)
          return some (← passing (unlearned + own))
      | _, _ => pure none

/-- Adds up exactly what effects add to a level, those that are absent left out. -/
def exactBonuses : Int → List (Nat × Effect) → Reckoning Int
  | sum, [] => pure sum
  | sum, (owner, effect) :: rest =>
    match effect.kind with
    | .cost _ => exactBonuses sum rest
    | .level => do
      match ← effect.formula.exactInteger (s.exactReaderFrom levels) (s.purchasedAt owner).val with
      | some bonus => passing (sum + bonus) >>= (exactBonuses · rest)
      | none => exactBonuses sum rest

/-- The exact level of a trait, by the exact levels of the traits that it is computed from. -/
def exactLevelFrom (i : Nat) : Reckoning (Option Int) :=
  match s.database.trait? i with
  | none => pure none
  | some t => do
    match ← s.exactBaseFrom levels i t with
    | none => return none
    | some base =>
      let bonuses ← s.exactBonuses levels 0 (s.activeEffects t)
      return some (← passing (base + bonuses))

/-- The percentages by which effects change a cost, with their signs, those that are absent left
out. -/
def exactPercents : List (Nat × Effect) → Reckoning (List Int)
  | [] => pure []
  | (owner, effect) :: rest =>
    match effect.kind with
    | .level => exactPercents rest
    | .cost sign => do
      match ← effect.formula.exactPercent (s.exactReaderFrom levels) (s.purchasedAt owner).val with
      | some percent => return sign.signed percent :: (← exactPercents rest)
      | none => exactPercents rest

/-- The exact cost of a trait without the effects on it. Attributes have none. -/
def exactBaseCostFrom (i : Nat) (t : Trait) : Reckoning (Option Int) :=
  let own := (s.purchasedAt i).val
  match t.kind with
  | .attribute _ => pure none
  | .leveledAdvantage cost | .plainAdvantage cost =>
    if !s.has i then pure (some 0)
    else do return some ((← cost.exactInteger (s.exactReaderFrom levels) own).getD 0)
  | .skill .. | .inheritedSkill .. => do return some (← Cost.exactOfSkill own)

/-- The exact cost of a trait, by the exact levels of the traits that it is computed from. -/
def exactCostFrom (i : Nat) : Reckoning (Option Int) :=
  match s.database.trait? i with
  | none => pure none
  | some t => do
    match ← s.exactBaseCostFrom levels i t with
    | none => return none
    | some base =>
      let percents ← s.exactPercents levels (s.activeEffects t)
      let surcharge ← passing (gains percents)
      let discount ← passing (losses percents)
      let product ← passing (base * (surcharge - min discount 80))
      return some (← passing (base + product / 100))

end Step

/-! ### All exact steps -/

/-- The exact level of a trait, where levels may rest on levels over fewer than `bound` steps. -/
def exactLevelWithin (s : Sheet) : (bound : Nat) → Nat → Reckoning (Option Int)
  | 0, _ => giveUp
  | bound + 1, i => s.exactLevelFrom (s.exactLevelWithin bound) i

/-- The exact level of a trait. -/
def exactLevel (s : Sheet) : Nat → Reckoning (Option Int) := s.exactLevelWithin s.database.size

/-- The exact cost of a trait. -/
def exactCost (s : Sheet) (i : Nat) : Reckoning (Option Int) := s.exactCostFrom s.exactLevel i

/-! ### Steps follow exact steps -/

section Follows

variable {s : Sheet} {exactLevels : Nat → Reckoning (Option Int)}
  {levels : Nat → Option (Option Amount)} {i : Nat} {t : Trait}
  (h : ∀ j, Follows Same (exactLevels j) (levels j))

include h

theorem truthFrom_follows : Follows Eq (s.exactTruthFrom exactLevels i) (s.truthFrom levels i) := by
  have hlearned : Follows Eq (do return (← exactLevels i).isSome : Reckoning Bool)
      ((levels i).map Option.isSome) := by
    rw [Option.map_eq_bind]
    refine follows_bind (h i) fun _ level hsame ↦ ?_
    cases hsame
    exact follows_pure Option.isSome_map
  rw [exactTruthFrom, truthFrom]
  rcases (s.database.trait? i).map Trait.kind with - | kind
  · exact follows_pure rfl
  · cases kind with
    | skill | inheritedSkill => exact hlearned
    | leveledAdvantage | plainAdvantage | «attribute» => exact follows_pure rfl

theorem readerFrom_followed :
    (s.exactReaderFrom exactLevels).FollowedBy (s.readerFrom levels) where
  level name := by
    rw [exactReaderFrom, readerFrom]
    dsimp only
    cases s.database.indexOf? name with
    | none => exact follows_pure rfl
    | some i => exact h i
  truth name := by
    rw [exactReaderFrom, readerFrom]
    dsimp only
    cases s.database.indexOf? name with
    | none => exact follows_pure rfl
    | some i => exact truthFrom_follows h

/-- An integer in a formula that is read from exact levels. -/
theorem integerFrom_follows (f : Formula) (own : Amount) :
    Follows Same (f.exactInteger (s.exactReaderFrom exactLevels) own.val)
      (f.integer? (s.readerFrom levels) own) :=
  Formula.integer?_follows (readerFrom_followed h)

theorem baseFrom_follows :
    Follows Same (s.exactBaseFrom exactLevels i t) (s.baseFrom levels i t) := by
  rw [exactBaseFrom, baseFrom]
  cases t.kind with
  | leveledAdvantage | plainAdvantage => exact follows_pure rfl
  | «attribute» formula => exact integerFrom_follows h formula _
  | skill | inheritedSkill =>
    dsimp only
    rcases s.has i with - | -
    · exact follows_pure rfl
    · rcases ((s.database.inheritanceRoot? i).bind s.database.trait?).map Trait.kind with
        - | ⟨_, base, _⟩ | - | - | - | -
      case some.skill =>
        cases s.database.difficulty? i with
        | none => exact follows_pure rfl
        | some difficulty =>
          refine follows_bind_same (integerFrom_follows h base _) (follows_pure rfl) fun base ↦ ?_
          refine follows_passing fun hunlearned ↦ follows_passing fun hlevel ↦
            follows_pure (congrArg some ?_)
          have hval : (base + difficulty.offset).val = base.val + difficulty.offset.val :=
            hunlearned.val_clamp
          show (clamp ((base + difficulty.offset).val + (s.purchasedAt i).val)).val = _
          rw [hval, hlevel.val_clamp]
      all_goals exact follows_pure rfl

theorem addBonuses_follows (sum : Amount) (effects : List (Nat × Effect)) :
    Follows (fun n a ↦ a.val = n) (s.exactBonuses exactLevels sum.val effects)
      (s.addBonuses levels sum effects) := by
  induction effects generalizing sum with
  | nil => exact follows_pure rfl
  | cons p rest ih =>
    obtain ⟨owner, effect⟩ := p
    rw [exactBonuses, addBonuses]
    cases effect.kind with
    | cost => exact ih sum
    | level =>
      refine follows_bind_same (integerFrom_follows h effect.formula _) (ih sum) fun bonus ↦
        follows_passing fun hsum ↦ ?_
      have hval : (sum + bonus).val = sum.val + bonus.val := hsum.val_clamp
      rw [← hval]
      exact ih (sum + bonus)

/-- **One step of a level follows the exact step.** -/
theorem levelFrom_follows :
    Follows Same (s.exactLevelFrom exactLevels i) (s.levelFrom levels i) := by
  rw [exactLevelFrom, levelFrom]
  cases s.database.trait? i with
  | none => exact follows_pure rfl
  | some t =>
    refine follows_bind_same (baseFrom_follows h) (follows_pure rfl) fun base ↦
      follows_bind (addBonuses_follows h 0 _) fun _ bonuses hval ↦ ?_
    cases hval
    exact follows_passing fun hlevel ↦ follows_pure (congrArg some hlevel.val_clamp)

/-- The pools hold the percentages that have been collected, whether or not what these come to lies
in the range. -/
theorem collectPercents_follows (percents : List Int) (effects : List (Nat × Effect)) :
    Follows (fun more pools ↦ pools = Pools.of (percents ++ more))
      (s.exactPercents exactLevels effects)
      (s.collectPercents levels (Pools.of percents) effects) := by
  induction effects generalizing percents with
  | nil => exact follows_pure (by rw [List.append_nil])
  | cons p rest ih =>
    obtain ⟨owner, effect⟩ := p
    rw [exactPercents]
    cases hkind : effect.kind with
    | level =>
      rw [collectPercents, hkind]
      exact ih percents
    | cost sign =>
      rw [collectPercents_cons hkind]
      refine follows_bind_same (Formula.percent?_follows (readerFrom_followed h)) (ih percents)
        fun percent ↦ follows_map (ih _) fun more pools heq ↦ ?_
      rw [heq, List.append_assoc]
      rfl

theorem baseCostFrom_follows :
    Follows Same (s.exactBaseCostFrom exactLevels i t) (s.baseCostFrom levels i t) := by
  have hskill : Follows Same (do return some (← Cost.exactOfSkill (s.purchasedAt i).val))
      (some (some (Cost.ofSkill (s.purchasedAt i)))) :=
    follows_bind (g := fun cost ↦ some (some cost)) (Cost.ofSkill_follows _)
      fun _ _ hval ↦ follows_pure (congrArg some hval)
  rw [exactBaseCostFrom, baseCostFrom]
  cases t.kind with
  | «attribute» => exact follows_pure rfl
  | skill | inheritedSkill => exact hskill
  | leveledAdvantage cost | plainAdvantage cost =>
    dsimp only
    cases s.has i with
    | false => exact follows_pure rfl
    | true =>
      exact follows_bind_same (integerFrom_follows h cost _) (follows_pure rfl)
        fun _ ↦ follows_pure rfl

/-- **One step of a cost follows the exact step.** -/
theorem costFrom_follows :
    Follows Same (s.exactCostFrom exactLevels i) (s.costFrom levels i) := by
  rw [exactCostFrom, costFrom]
  cases s.database.trait? i with
  | none => exact follows_pure rfl
  | some t =>
    refine follows_bind_same (baseCostFrom_follows h) (follows_pure rfl) fun base ↦
      follows_bind (collectPercents_follows h [] _) fun percents pools heq ↦ ?_
    cases heq
    -- the pools are cut off sums, and only now known to lie in the range
    refine follows_passing fun hsurcharge ↦ follows_passing fun hdiscount ↦
      follows_passing fun hproduct ↦ follows_passing fun hcost ↦
        follows_pure (congrArg some ?_)
    show (Cost.modified base (clamp (gains percents)) (clamp (losses percents))).val = _
    rw [Cost.modified_eq_of_inRange (Amount.gains_nonneg _) (Amount.losses_nonneg _) hsurcharge
      hdiscount hproduct]
    exact hcost.val_clamp

end Follows

/-- **A level follows the exact level**, however many steps are allowed. -/
theorem levelWithin_follows (s : Sheet) (bound : Nat) (i : Nat) :
    Follows Same (s.exactLevelWithin bound i) (s.levelWithin bound i) := by
  induction bound generalizing i with
  | zero => exact follows_giveUp _
  | succ bound ih => exact levelFrom_follows ih

/-- **A cost follows the exact cost.** -/
theorem cost_follows (s : Sheet) (i : Nat) :
    Follows Same (s.exactCost i) (s.costFrom s.levels i) :=
  costFrom_follows (s.levelWithin_follows s.database.size)

/-! ### Exact steps that are not given up -/

section Settles

variable {s : Sheet} {levels : Nat → Reckoning (Option Int)} {i : Nat} {t : Trait}

theorem exactTruthFrom_settles (h : Settles (levels i)) : Settles (s.exactTruthFrom levels i) := by
  rw [exactTruthFrom]
  split
  case h_2 | h_3 => exact settles_bind h fun _ ↦ settles_pure _
  all_goals exact settles_pure _

/-- A formula reads its places only. -/
theorem exactReaderFrom_settles {f : Formula}
    (h : ∀ j ∈ s.database.placesIn f, Settles (levels j)) :
    (s.exactReaderFrom levels).Settles f.mentions := by
  intro name hname
  simp only [exactReaderFrom]
  cases hplace : s.database.indexOf? name with
  | none => exact ⟨settles_pure _, settles_pure _⟩
  | some i =>
    have hi := h i (List.mem_filterMap.2 ⟨name, hname, hplace⟩)
    exact ⟨hi, exactTruthFrom_settles hi⟩

theorem exactBaseFrom_settles
    (h : ∀ f, s.database.baseFormula? i t = some f →
      ∀ j ∈ s.database.placesIn f, Settles (levels j)) :
    Settles (s.exactBaseFrom levels i t) := by
  have hskill (hskill : t.isSkill = true) (difficulty : Difficulty) (base : Formula)
      (category : Bool) (hroot : ((s.database.inheritanceRoot? i).bind s.database.trait?).map
        Trait.kind = some (.skill difficulty base category)) :
      Settles (base.exactInteger (s.exactReaderFrom levels) (s.purchasedAt i).val) :=
    Formula.exactInteger_settles
      (exactReaderFrom_settles (h base (baseFormula?_of_root hskill hroot)))
  rw [exactBaseFrom]
  cases hkind : t.kind with
  | leveledAdvantage | plainAdvantage => exact settles_pure _
  | «attribute» formula =>
    refine Formula.exactInteger_settles (exactReaderFrom_settles (h formula ?_))
    rw [Database.baseFormula?, hkind]
  | skill | inheritedSkill =>
    have h := hskill (show t.isSkill = true by rw [Trait.isSkill, hkind])
    dsimp only
    split
    · exact settles_pure _
    · split
      case h_2 => exact settles_pure _
      case h_1 hroot _ =>
        exact settles_bind_optional (h _ _ _ hroot) (settles_pure _) fun _ ↦
          settles_bind (settles_passing _) fun _ ↦
            settles_bind (settles_passing _) fun _ ↦ settles_pure _

theorem exactBonuses_settles {effects : List (Nat × Effect)}
    (h : ∀ p ∈ effects, p.2.kind = .level →
      ∀ j ∈ s.database.placesIn p.2.formula, Settles (levels j)) (sum : Int) :
    Settles (s.exactBonuses levels sum effects) := by
  induction effects generalizing sum with
  | nil => exact settles_pure _
  | cons p rest ih =>
    obtain ⟨owner, effect⟩ := p
    obtain ⟨heffect, hrest⟩ := List.forall_mem_cons.1 h
    rw [exactBonuses]
    cases hkind : effect.kind with
    | cost => exact ih hrest sum
    | level =>
      have hbonus : Settles (effect.formula.exactInteger (s.exactReaderFrom levels)
          (s.purchasedAt owner).val) :=
        Formula.exactInteger_settles (exactReaderFrom_settles (heffect hkind))
      exact settles_bind_optional hbonus (ih hrest sum) fun _ ↦
        settles_bind (settles_passing _) fun sum ↦ ih hrest sum

/-- An exact step is not given up if none of the levels is that the evaluation graph points to. -/
theorem exactLevelFrom_settles
    (h : ∀ j, s.database.evaluationGraph.Points i j → Settles (levels j)) :
    Settles (s.exactLevelFrom levels i) := by
  rw [exactLevelFrom]
  cases ht : s.database.trait? i with
  | none => exact settles_pure _
  | some t =>
    have hformula (f : Formula) (hf : f ∈ s.database.levelFormulas i t) (j : Nat)
        (hj : j ∈ s.database.placesIn f) : Settles (levels j) :=
      h j (Database.mem_evaluationGraph.2 ⟨t, ht, f, hf, hj⟩)
    have hbase : Settles (s.exactBaseFrom levels i t) :=
      exactBaseFrom_settles fun f hf ↦ hformula f (Database.mem_levelFormulas_iff.2 (.inl hf))
    have hbonuses : Settles (s.exactBonuses levels 0 (s.activeEffects t)) := by
      refine exactBonuses_settles (fun p hp hkind ↦ hformula _ ?_) 0
      obtain ⟨ref, href, -, -, heffect⟩ := mem_activeEffects.1 hp
      exact Database.mem_levelFormulas_iff.2 (.inr ⟨ref, href, p.2, heffect, hkind, rfl⟩)
    exact settles_bind_optional hbase (settles_pure _) fun _ ↦
      settles_bind hbonuses fun _ ↦ settles_bind (settles_passing _) fun _ ↦ settles_pure _

/-- A bound that no path in the evaluation graph reaches is enough for an exact level. -/
theorem exactLevelWithin_settles {bound : Nat}
    (h : ∀ path, (i :: path).IsChain s.database.evaluationGraph.Points → path.length < bound) :
    Settles (s.exactLevelWithin bound i) := by
  induction bound generalizing i with
  | zero => exact absurd (h [] (.singleton i)) (Nat.lt_irrefl 0)
  | succ bound ih =>
    refine exactLevelFrom_settles fun j hj ↦ ih fun path hpath ↦ ?_
    have hlt := h (j :: path) (.cons_cons hj hpath)
    rw [List.length_cons] at hlt
    omega

section Formulas

variable (h : ∀ f, ∀ j ∈ s.database.placesIn f, Settles (levels j))

include h

theorem exactPercents_settles (effects : List (Nat × Effect)) :
    Settles (s.exactPercents levels effects) := by
  induction effects with
  | nil => exact settles_pure _
  | cons p rest ih =>
    rw [exactPercents]
    cases p.2.kind with
    | level => exact ih
    | cost sign =>
      exact settles_bind_optional (Formula.exactPercent_settles (exactReaderFrom_settles (h _)))
        ih fun _ ↦ settles_bind ih fun _ ↦ settles_pure _

theorem exactBaseCostFrom_settles : Settles (s.exactBaseCostFrom levels i t) := by
  rw [exactBaseCostFrom]
  cases t.kind with
  | «attribute» => exact settles_pure _
  | leveledAdvantage cost | plainAdvantage cost =>
    dsimp only
    split
    · exact settles_pure _
    · exact settles_bind (Formula.exactInteger_settles (exactReaderFrom_settles (h cost)))
        fun _ ↦ settles_pure _
  | skill | inheritedSkill =>
    exact settles_bind (Cost.exactOfSkill_settles _) fun _ ↦ settles_pure _

/-- An exact cost is not given up if none of the levels is that a formula may read. -/
theorem exactCostFrom_settles : Settles (s.exactCostFrom levels i) := by
  rw [exactCostFrom]
  cases s.database.trait? i with
  | none => exact settles_pure _
  | some t =>
    exact settles_bind_optional (exactBaseCostFrom_settles h) (settles_pure _) fun _ ↦
      settles_bind (exactPercents_settles h _) fun _ ↦
        settles_bind (settles_passing _) fun _ ↦ settles_bind (settles_passing _) fun _ ↦
          settles_bind (settles_passing _) fun _ ↦ settles_bind (settles_passing _) fun _ ↦
            settles_pure _

end Formulas

variable (h : s.database.Checked)

include h

/-- **Every exact level over a checked database comes to an end.** -/
theorem exactLevel_settles (hi : i < s.database.size) : Settles (s.exactLevel i) := by
  refine exactLevelWithin_settles fun path hpath ↦ ?_
  have hle := h.length_le_size hi hpath
  rw [List.length_cons] at hle
  omega

/-- **Every exact cost over a checked database comes to an end.** -/
theorem exactCost_settles : Settles (s.exactCost i) :=
  exactCostFrom_settles fun _ _ hj ↦ by
    obtain ⟨name, -, hname⟩ := List.mem_filterMap.1 hj
    exact exactLevel_settles h (h.indexed.lt_size hname)

end Settles

/-! ### Exact levels and costs -/

/-- **Where all that is computed on the way lies in the range, levels and costs are exact.** Over a
loaded database the exact computation of the level and of the cost of each trait comes to an end. If
all integers that it passes lie in the range, it comes to the level or the cost. -/
theorem exact_within_range {s : Sheet} {i : Nat} {sources : List Source}
    {preferences : LoadPreferences} (hload : Database.load sources preferences = .ok s.database)
    (hi : i < s.database.size) :
    (∃ level passed, (s.exactLevel i).run = some (level, passed) ∧
      ((∀ n ∈ passed, InRange n) → (s.level i).map Amount.val = level)) ∧
    ∃ cost passed, (s.exactCost i).run = some (cost, passed) ∧
      ((∀ n ∈ passed, InRange n) → (s.cost i).map Amount.val = cost) := by
  have h : s.database.Checked := Database.checked_of_load hload
  obtain ⟨level, passed, hlevel⟩ := exactLevel_settles h hi
  obtain ⟨cost, passed', hcost⟩ := exactCost_settles (i := i) h
  refine ⟨⟨level, passed, hlevel, fun hrange ↦ ?_⟩, cost, passed', hcost, fun hrange ↦ ?_⟩
  · obtain ⟨value, hvalue, hsame⟩ :=
      s.levelWithin_follows s.database.size i level passed hlevel hrange
    rw [Sheet.level, levels, hvalue]
    exact hsame
  · obtain ⟨value, hvalue, hsame⟩ := s.cost_follows i cost passed' hcost hrange
    rw [Sheet.cost, hvalue]
    exact hsame

/-! ### A small database within the range -/

/-- What the exact level of the attribute of the small database passes, with one level of the
advantage. -/
theorem run_exactLevel_fated : (exactLevel ⟨Database.fated.noted, #[0, 1]⟩ 0).run =
    some (some 9223372036854775803, [9223372036854775800, 4, 9223372036854775804, -1,
      9223372036854775803, 9223372036854775803]) := by
  have hsize : Database.fated.noted.size = 2 := congrArg Array.size Database.traits_noted_fated
  have heffects : activeEffects ⟨Database.fated.noted, #[0, 1]⟩
      { Database.might with effectedBy := #[⟨1, 0⟩, ⟨1, 1⟩, ⟨1, 2⟩] } =
      (Database.fateEffects.take 3).map (1, ·) := by
    simp only [activeEffects, List.filterMap_cons, List.filterMap_nil, Database.effect?_fated]
    rfl
  rw [exactLevel, hsize, exactLevelWithin, exactLevelFrom, trait?_might_fated]
  dsimp only
  rw [heffects]
  rfl

/-- What the exact cost of the advantage passes: its cost, the pools, the product and the sum. -/
theorem run_exactCost_fated : (exactCost ⟨Database.fated.noted, #[0, 1]⟩ 1).run =
    some (some 6, [5, 50, 20, 150, 6]) := by
  have heffects : activeEffects ⟨Database.fated.noted, #[0, 1]⟩
      { Database.fate with effectedBy := #[⟨1, 3⟩, ⟨1, 4⟩] } =
      (Database.fateEffects.drop 3).map (1, ·) := by
    simp only [activeEffects, List.filterMap_cons, List.filterMap_nil, Database.effect?_fated]
    rfl
  rw [exactCost, exactCostFrom, trait?_fate_fated]
  dsimp only
  rw [heffects]
  rfl

/-- With one level of the advantage, all lies in the range. -/
theorem exact_within_range_fated :
    Database.load [Database.fateSource] ⟨[], false⟩ = .ok Database.fated.noted ∧
      1 < Database.fated.noted.size ∧
      (level ⟨Database.fated.noted, #[0, 1]⟩ 0).map Amount.val = some 9223372036854775803 ∧
      (cost ⟨Database.fated.noted, #[0, 1]⟩ 1).map Amount.val = some 6 := by
  have hmight := Database.lt_size_of_trait? trait?_might_fated
  have hfate := Database.lt_size_of_trait? trait?_fate_fated
  obtain ⟨⟨might, passed, hlevel, hexact⟩, -⟩ :=
    exact_within_range (s := ⟨Database.fated.noted, #[0, 1]⟩) Database.load_fated hmight
  obtain ⟨-, fate, passed', hcost, hexact'⟩ :=
    exact_within_range (s := ⟨Database.fated.noted, #[0, 1]⟩) Database.load_fated hfate
  cases hlevel.symm.trans run_exactLevel_fated
  cases hcost.symm.trans run_exactCost_fated
  exact ⟨Database.load_fated, hfate, hexact (by decide), hexact' (by decide)⟩

end Sheet
end PointBuy
