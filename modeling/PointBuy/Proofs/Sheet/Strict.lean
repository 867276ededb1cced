import PointBuy.Proofs.Database.Lineage
import PointBuy.Proofs.Formula.Strict
import PointBuy.Proofs.Sheet.Termination

/-!
# Strict levels and costs

The levels, truths and costs of a sheet, computed step by step as before, but with strict values of
formulas: a name that is not defined or stands in the place of another sort, a skill without a root
and a level that would need too many steps are defects, and stop the computation.

Over a checked database there is no defect. Every stored formula has its sort, so one step of a
strict level is one step of the level if the levels that it reads are (`strictLevelFrom_eq`), and by
induction on the bound all strict levels are levels.

## Main definitions

* `Sheet.strictLevelWithin` : the strict level of a trait, with a bound on the steps.
* `Sheet.strictLevels`, `Sheet.strictCost` : what follows strictly from the purchases.

## Main statements

* `Sheet.strictLevels_eq`, `Sheet.strictCost_eq` : strict levels and costs over a checked database
  are levels and costs.
* `Sheet.strictReader_agrees` : so are the strict values of its formulas.
-/

namespace PointBuy.Sheet

open Formula (StrictReader known known_bind)

/-! ### One strict step -/

section Step

variable (s : Sheet) (levels : Nat → Except Defect (Option Amount))

/-- Whether a trait of that name counts as true, by its level. -/
def strictTruthFrom (name : String) (i : Nat) : Except Defect Bool :=
  match (s.database.trait? i).map Trait.kind with
  | some (.plainAdvantage _) => .ok (s.has i)
  | some (.skill ..) | some (.inheritedSkill ..) => (levels i).map Option.isSome
  | some (.leveledAdvantage _) | some (.attribute _) => .error (.notTruthName name)
  | none => .error (.undefinedName name)

/-- The level of a trait of that name, in the place of an integer. -/
def strictIntegerFrom (name : String) (i : Nat) : Except Defect (Option Amount) :=
  match (s.database.trait? i).map Trait.kind with
  | some (.plainAdvantage _) => .error (.notIntegerName name)
  | some (.skill ..) | some (.inheritedSkill ..) | some (.leveledAdvantage _)
  | some (.attribute _) => levels i
  | none => .error (.undefinedName name)

/-- What formulas read, by the levels of traits. -/
def strictReaderFrom : StrictReader where
  level name :=
    match s.database.indexOf? name with
    | some i => s.strictIntegerFrom levels name i
    | none => .error (.undefinedName name)
  truth name :=
    match s.database.indexOf? name with
    | some i => s.strictTruthFrom levels name i
    | none => .error (.undefinedName name)

/-- The level of a trait without the effects on it. -/
def strictBaseFrom (i : Nat) (t : Trait) : Except Defect (Option Amount) :=
  let own := s.purchasedAt i
  match t.kind with
  | .leveledAdvantage _ | .plainAdvantage _ => .ok (some own)
  | .attribute formula => formula.strictInteger (s.strictReaderFrom levels) own
  | .skill .. | .inheritedSkill .. =>
    if !s.has i then .ok none
    else
      match ((s.database.inheritanceRoot? i).bind s.database.trait?).map Trait.kind,
          s.database.difficulty? i with
      | some (.skill _ base _), some difficulty => do
        return (← base.strictInteger (s.strictReaderFrom levels) own).map
          (· + difficulty.offset + own)
      | _, _ => .error (.noRoot i)

/-- Adds up what effects add to a level, those that are absent left out. -/
def strictBonuses : Amount → List (Nat × Effect) → Except Defect Amount
  | sum, [] => .ok sum
  | sum, (owner, effect) :: rest =>
    match effect.kind with
    | .cost _ => strictBonuses sum rest
    | .level => do
      let bonus ← effect.formula.strictInteger (s.strictReaderFrom levels) (s.purchasedAt owner)
      match bonus with
      | some bonus => strictBonuses (sum + bonus) rest
      | none => strictBonuses sum rest

/-- The level of a trait, by the levels of the traits that it is computed from. -/
def strictLevelFrom (i : Nat) (t : Trait) : Except Defect (Option Amount) := do
  match ← s.strictBaseFrom levels i t with
  | none => return none
  | some base => return some (base + (← s.strictBonuses levels 0 (s.activeEffects t)))

/-- Collects the percentages by which effects change a cost, those that are absent left out. -/
def strictPercents : Cost.Pools → List (Nat × Effect) → Except Defect Cost.Pools
  | pools, [] => .ok pools
  | pools, (owner, effect) :: rest =>
    match effect.kind with
    | .level => strictPercents pools rest
    | .cost sign => do
      let percent ← effect.formula.strictPercent (s.strictReaderFrom levels) (s.purchasedAt owner)
      match percent, sign with
      | some percent, .raise => strictPercents (pools.add percent) rest
      | some percent, .lower => strictPercents (pools.add (-percent)) rest
      | none, _ => strictPercents pools rest

/-- The cost of a trait without the effects on it. Attributes have none. -/
def strictBaseCostFrom (i : Nat) (t : Trait) : Except Defect (Option Amount) :=
  let own := s.purchasedAt i
  match t.kind with
  | .attribute _ => .ok none
  | .leveledAdvantage cost | .plainAdvantage cost =>
    if !s.has i then .ok (some 0)
    else do return some ((← cost.strictInteger (s.strictReaderFrom levels) own).getD 0)
  | .skill .. | .inheritedSkill .. => .ok (some (Cost.ofSkill own))

/-- The cost of a trait, by the levels of the traits that it is computed from. -/
def strictCostFrom (i : Nat) (t : Trait) : Except Defect (Option Amount) := do
  match ← s.strictBaseCostFrom levels i t with
  | none => return none
  | some base =>
    let pools ← s.strictPercents levels .empty (s.activeEffects t)
    return some (Cost.modified base pools.surcharge pools.discount)

end Step

/-! ### All strict steps -/

/-- The strict level of a trait, where levels may rest on levels over fewer than `bound` steps. -/
def strictLevelWithin (s : Sheet) : (bound : Nat) → Nat → Except Defect (Option Amount)
  | 0, _ => .error .endless
  | bound + 1, i =>
    match s.database.trait? i with
    | none => .ok none
    | some t => s.strictLevelFrom (s.strictLevelWithin bound) i t

/-- The strict levels of all traits that formulas may read. -/
def strictLevels (s : Sheet) : Nat → Except Defect (Option Amount) :=
  s.strictLevelWithin s.database.size

/-- What formulas read, strictly. -/
def strictReader (s : Sheet) : StrictReader := s.strictReaderFrom s.strictLevels

/-- The strict cost of a trait. -/
def strictCost (s : Sheet) (i : Nat) : Except Defect (Option Amount) :=
  match s.database.trait? i with
  | none => .ok none
  | some t => s.strictCostFrom s.strictLevels i t

/-! ### Strict steps are steps -/

section Checked

variable {s : Sheet} {levels : Nat → Option (Option Amount)}
  {strict : Nat → Except Defect (Option Amount)} {i : Nat} {t : Trait}
  (h : s.database.Checked) (hlevels : ∀ i < s.database.size, strict i = known (levels i))

include h hlevels

/-- Names of a sort are read without a defect. -/
theorem strictReaderFrom_follows (owner : Trait) :
    (s.strictReaderFrom strict).Follows ⟨s.database, owner⟩ (s.readerFrom levels) where
  level {name t} found admitted := by
    obtain ⟨i, hi, ht⟩ := Option.bind_eq_some_iff.1 found
    have hlevel := hlevels i (h.indexed.lt_size hi)
    simp only [strictReaderFrom, readerFrom, hi, strictIntegerFrom, ht, Option.map_some]
    cases hkind : t.kind with
    | plainAdvantage =>
      rw [hkind] at admitted
      cases admitted
    | skill | inheritedSkill | leveledAdvantage | «attribute» => exact hlevel
  truth {name t} found admitted := by
    obtain ⟨i, hi, ht⟩ := Option.bind_eq_some_iff.1 found
    have hlevel := hlevels i (h.indexed.lt_size hi)
    simp only [strictReaderFrom, readerFrom, hi, strictTruthFrom, truthFrom, ht, Option.map_some]
    cases hkind : t.kind with
    | leveledAdvantage | «attribute» =>
      rw [hkind] at admitted
      cases admitted
    | plainAdvantage => rfl
    | skill | inheritedSkill =>
      dsimp only
      rw [hlevel]
      cases levels i <;> rfl

/-- A formula that has been checked as a sort has the same strict value. -/
theorem agrees_of_check {owner : Trait} {sort : ValueSort} {f : Formula} (own : Amount)
    (hf : Scope.check ⟨s.database, owner⟩ sort f = .ok ()) :
    Formula.Agrees (s.strictReaderFrom strict) (s.readerFrom levels) own sort f :=
  Formula.agrees_of_sorted (strictReaderFrom_follows h hlevels owner) (Scope.sorted_of_check hf)

theorem strictBaseFrom_eq (ht : s.database.trait? i = some t) :
    s.strictBaseFrom strict i t = known (s.baseFrom levels i t) := by
  -- a skill has all that the strict evaluation asks for at the end of its chain of inheritance
  have hskill (hskill : t.isSkill = true) :
      ∃ difficulty base category offset,
        ((s.database.inheritanceRoot? i).bind s.database.trait?).map Trait.kind =
          some (.skill difficulty base category) ∧
        s.database.difficulty? i = some offset ∧
        base.strictInteger (s.strictReaderFrom strict) (s.purchasedAt i) =
          known (base.integer? (s.readerFrom levels) (s.purchasedAt i)) := by
    obtain ⟨root, r, difficulty, base, category, hroot, hr, hkind⟩ := h.exists_root ht hskill
    obtain ⟨offset, hoffset⟩ := h.exists_difficulty ht hskill
    have hbase : r.ownFormula? = some base := by rw [Trait.ownFormula?, hkind]
    refine ⟨difficulty, base, category, offset, ?_, hoffset, ?_⟩
    · rw [hroot, Option.bind_some, hr, Option.map_some, hkind]
    · exact agrees_of_check h hlevels _ (h.own hr hbase)
  rw [strictBaseFrom, baseFrom]
  cases hkind : t.kind with
  | leveledAdvantage | plainAdvantage => rfl
  | «attribute» formula =>
    have hown : t.ownFormula? = some formula := by rw [Trait.ownFormula?, hkind]
    exact agrees_of_check h hlevels _ (h.own ht hown)
  | skill | inheritedSkill =>
    obtain ⟨difficulty, base, category, offset, hroot, hoffset, hbase⟩ :=
      hskill (show t.isSkill = true by rw [Trait.isSkill, hkind])
    dsimp only
    split
    · rfl
    · rw [hroot, hoffset]
      dsimp only
      rw [hbase, known_bind]
      rfl

omit hlevels in
/-- The formula of an active effect has been checked among the formulas of its owner. -/
theorem check_of_mem_activeEffects (ht : s.database.trait? i = some t) {p : Nat × Effect}
    (hp : p ∈ s.activeEffects t) :
    ∃ owner, Scope.check ⟨s.database, owner⟩ (Database.sortOf p.2.kind) p.2.formula = .ok () := by
  obtain ⟨ref, href, -, -, heffect⟩ := mem_activeEffects.1 hp
  obtain ⟨owner, effect, -, heffect', hadmitted⟩ := h.linked ht href
  obtain rfl := Option.some.inj (heffect'.symm.trans heffect)
  exact ⟨owner, hadmitted.sorted⟩

theorem strictBonuses_eq {effects : List (Nat × Effect)}
    (heffects : ∀ p ∈ effects, ∃ owner,
      Scope.check ⟨s.database, owner⟩ (Database.sortOf p.2.kind) p.2.formula = .ok ())
    (sum : Amount) :
    s.strictBonuses strict sum effects = known (s.addBonuses levels sum effects) := by
  induction effects generalizing sum with
  | nil => rfl
  | cons p rest ih =>
    obtain ⟨place, effect⟩ := p
    obtain ⟨⟨owner, hcheck⟩, heffects⟩ := List.forall_mem_cons.1 heffects
    rw [strictBonuses, addBonuses]
    cases hkind : effect.kind with
    | cost => exact ih heffects sum
    | level =>
      rw [hkind] at hcheck
      have hbonus := agrees_of_check h hlevels (s.purchasedAt place) hcheck
      dsimp only [Database.sortOf, Formula.Agrees] at hbonus ⊢
      rw [hbonus, known_bind]
      congr 1
      funext bonus
      cases bonus <;> exact ih heffects _

theorem strictPercents_eq {effects : List (Nat × Effect)}
    (heffects : ∀ p ∈ effects, ∃ owner,
      Scope.check ⟨s.database, owner⟩ (Database.sortOf p.2.kind) p.2.formula = .ok ())
    (pools : Cost.Pools) :
    s.strictPercents strict pools effects = known (s.collectPercents levels pools effects) := by
  induction effects generalizing pools with
  | nil => rfl
  | cons p rest ih =>
    obtain ⟨place, effect⟩ := p
    obtain ⟨⟨owner, hcheck⟩, heffects⟩ := List.forall_mem_cons.1 heffects
    rw [strictPercents, collectPercents]
    cases hkind : effect.kind with
    | level => exact ih heffects pools
    | cost sign =>
      rw [hkind] at hcheck
      have hpercent := agrees_of_check h hlevels (s.purchasedAt place) hcheck
      dsimp only [Database.sortOf, Formula.Agrees] at hpercent ⊢
      rw [hpercent, known_bind]
      congr 1
      funext percent
      cases percent <;> cases sign <;> exact ih heffects _

/-- **A strict step is a step.** -/
theorem strictLevelFrom_eq (ht : s.database.trait? i = some t) :
    s.strictLevelFrom strict i t = known (s.levelFrom levels i) := by
  have hbonuses := strictBonuses_eq h hlevels (fun _ hp ↦ check_of_mem_activeEffects h ht hp) 0
  rw [strictLevelFrom, levelFrom, ht, strictBaseFrom_eq h hlevels ht, known_bind, hbonuses]
  congr 1
  funext base
  cases base with
  | none => rfl
  | some base => cases s.addBonuses levels 0 (s.activeEffects t) <;> rfl

theorem strictCostFrom_eq (ht : s.database.trait? i = some t) :
    s.strictCostFrom strict i t = known (s.costFrom levels i) := by
  have hpercents :=
    strictPercents_eq h hlevels (fun _ hp ↦ check_of_mem_activeEffects h ht hp) .empty
  have hbase : s.strictBaseCostFrom strict i t = known (s.baseCostFrom levels i t) := by
    rw [strictBaseCostFrom, baseCostFrom]
    cases hkind : t.kind with
    | «attribute» | skill | inheritedSkill => rfl
    | leveledAdvantage cost | plainAdvantage cost =>
      have hown : t.ownFormula? = some cost := by rw [Trait.ownFormula?, hkind]
      have hcost := agrees_of_check h hlevels (s.purchasedAt i) (h.own ht hown)
      dsimp only [Formula.Agrees] at hcost ⊢
      split
      · rfl
      · rw [hcost, known_bind]
        rfl
  rw [strictCostFrom, costFrom, ht, hbase, known_bind, hpercents]
  congr 1
  funext base
  cases base with
  | none => rfl
  | some base => cases s.collectPercents levels .empty (s.activeEffects t) <;> rfl

end Checked

/-! ### Sheets over checked databases -/

section Sheets

variable {s : Sheet} {i : Nat} {t : Trait} (h : s.database.Checked)

include h

/-- **Strict levels are levels**, by induction on the bound. -/
theorem strictLevelWithin_eq (bound : Nat) (hi : i < s.database.size) :
    s.strictLevelWithin bound i = known (s.levelWithin bound i) := by
  induction bound generalizing i with
  | zero => rfl
  | succ bound ih =>
    have ht : s.database.trait? i = some s.database.traits[i] := Array.getElem?_eq_getElem hi
    rw [strictLevelWithin, levelWithin, ht]
    exact strictLevelFrom_eq h (fun i hi ↦ ih hi) ht

theorem strictLevels_eq_known (hi : i < s.database.size) :
    s.strictLevels i = known (s.levels i) :=
  strictLevelWithin_eq h _ hi

theorem strictLevels_eq (hi : i < s.database.size) : s.strictLevels i = .ok (s.level i) := by
  rw [strictLevels_eq_known h hi, levels_eq_some_level h hi]
  rfl

theorem strictCost_eq (ht : s.database.trait? i = some t) : s.strictCost i = .ok (s.cost i) := by
  obtain ⟨value, hvalue⟩ := Option.ne_none_iff_exists'.1 (costFrom_levels_ne_none h (i := i))
  rw [strictCost, ht, cost, hvalue]
  exact (strictCostFrom_eq h (fun _ hi ↦ strictLevels_eq_known h hi) ht).trans
    (congrArg known hvalue)

theorem strictReader_agrees {owner : Trait} {sort : ValueSort} {f : Formula} (own : Amount)
    (hf : Scope.check ⟨s.database, owner⟩ sort f = .ok ()) :
    Formula.Agrees s.strictReader s.reader own sort f :=
  agrees_of_check h (fun _ hi ↦ strictLevels_eq_known h hi) own hf

end Sheets

end PointBuy.Sheet
