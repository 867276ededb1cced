import PointBuy.Proofs.Sheet.Strict

/-!
# Loading is sound

A database that can be loaded needs no defaults: whatever has been purchased, no evaluation over it
reads a name that is not defined, or a value in the place of another sort, or divides by zero, or
loses its way along a chain of inheritance (`Sound`). This is stated by the strict values, which
stop at any such step and yet are the values.

So the only thing that can be absent is the level of a skill that nobody has learned. Where all
skills are learned, integers are never absent (`integer?_ne_absent`), by induction on the sort of a
formula and, from one level to the next, on the bound of the steps. A percentage is absent only
where one of the integers that scale it is.

## Main statements

* `Sheet.Sound` : no evaluation over a sheet meets a defect.
* `Sheet.sound_of_load` : this is so over every loaded database, and where all skills are learned,
  nothing is absent.
-/

namespace PointBuy

/-! ### Formulas that are never absent -/

namespace Formula

variable {scope : Scope} {reader : Reader} {own : Amount} {f : Formula}

/-- An operator that has a result on all values of its operands is not absent where they are not. -/
theorem binary_ne_absent {op : Operator} {left right : Formula}
    (hresult : ∀ a b, right.integer? reader own = some (some b) → ∃ c, op.apply? a b = some c)
    (hl : left.integer? reader own ≠ some none) (hr : right.integer? reader own ≠ some none) :
    (binary op left right).integer? reader own ≠ some none := by
  rw [integer?]
  rcases hleft : left.integer? reader own with - | - | a
  · simp
  · exact absurd hleft hl
  · rcases hright : right.integer? reader own with - | - | b
    · simp
    · exact absurd hright hr
    · obtain ⟨c, hc⟩ := hresult a b hright
      simp [hc]

/-- **An integer is absent only where a name that it reads is.** -/
theorem integer?_ne_absent (hreader : ∀ {name t}, scope.database.find? name = some t →
      Scope.admits .integer t.kind = true → reader.level name ≠ some none)
    (h : scope.Sorted .integer f) : f.integer? reader own ≠ some none := by
  generalize hsort : ValueSort.integer = sort at h
  induction h with
  | integer | level => simp [integer?]
  | name found admitted =>
    subst hsort
    exact hreader found admitted
  | @negate operand _ ih =>
    rw [integer?]
    rcases hoperand : operand.integer? reader own with - | - | a
    · simp
    · exact absurd hoperand (ih rfl)
    · simp
  | @arithmetic op left right harithmetic _ _ ihl ihr =>
    refine binary_ne_absent (fun a b _ ↦ ?_) (ihl rfl) (ihr rfl)
    cases op
    case add | subtract | multiply => exact ⟨_, rfl⟩
    all_goals cases harithmetic
  | @divide left divisor nonzero _ ihl =>
    refine binary_ne_absent (fun a b hright ↦ ?_) (ihl rfl) (by simp [integer?])
    obtain rfl := Option.some.inj (Option.some.inj hright)
    exact ⟨_, if_neg nonzero⟩
  | @conditional sort condition whenTrue whenFalse _ _ _ _ _ iht ihf =>
    rw [integer?]
    rcases condition.truth? reader own with - | - | -
    · simp
    · exact ihf hsort
    · exact iht hsort
  | percent | boolean | comparison | and | or | scaledLeft | scaledRight => cases hsort

/-- The scales of a percentage are integers. -/
theorem Scaled.sorted {scales : List Formula} {literal : Amount}
    (h : Scaled scope scales literal f) : ∀ scale ∈ scales, scope.Sorted .integer scale := by
  induction h with
  | literal => exact fun _ hscale ↦ nomatch hscale
  | left _ ofScale _ ih => exact List.forall_mem_cons.2 ⟨ofScale, ih⟩
  | right _ ofScale _ ih => exact List.forall_mem_cons.2 ⟨ofScale, ih⟩

end Formula

namespace Sheet

variable {s : Sheet} {levels : Nat → Option (Option Amount)} {i : Nat} {t : Trait}

/-! ### Sheets on which all skills are learned -/

/-- Each skill has a purchased level. -/
def Learned (s : Sheet) : Prop :=
  ∀ i t, s.database.trait? i = some t → t.isSkill = true → (s.purchasedAt i).val ≠ 0

section Learned

variable (h : s.database.Checked)

include h

/-- Names of integers are not absent where levels are not. -/
theorem readerFrom_ne_absent (hlevels : ∀ i < s.database.size, levels i ≠ some none)
    {name : String} (found : s.database.find? name = some t) :
    (s.readerFrom levels).level name ≠ some none := by
  obtain ⟨i, hi, -⟩ := Option.bind_eq_some_iff.1 found
  simp only [readerFrom, hi]
  exact hlevels i (h.indexed.lt_size hi)

/-- A checked integer is not absent where levels are not. -/
theorem integer?_ne_absent_of_check (hlevels : ∀ i < s.database.size, levels i ≠ some none)
    {owner : Trait} {f : Formula} (own : Amount)
    (hf : Scope.check ⟨s.database, owner⟩ .integer f = .ok ()) :
    f.integer? (s.readerFrom levels) own ≠ some none :=
  Formula.integer?_ne_absent (fun found _ ↦ readerFrom_ne_absent h hlevels found)
    (Scope.sorted_of_check hf)

/-- One step keeps levels from being absent. -/
theorem levelFrom_ne_absent (hlearned : s.Learned)
    (hlevels : ∀ i < s.database.size, levels i ≠ some none) (ht : s.database.trait? i = some t) :
    s.levelFrom levels i ≠ some none := by
  have hbase : s.baseFrom levels i t ≠ some none := by
    rw [baseFrom]
    cases hkind : t.kind with
    | leveledAdvantage | plainAdvantage => simp
    | «attribute» formula =>
      have hown : t.ownFormula? = some formula := by rw [Trait.ownFormula?, hkind]
      exact integer?_ne_absent_of_check h hlevels _ (h.own ht hown)
    | skill | inheritedSkill =>
      -- a skill that is learned starts from a formula, at the end of its chain of inheritance
      have hskill : t.isSkill = true := by rw [Trait.isSkill, hkind]
      obtain ⟨root, r, difficulty, base, category, hroot, hr, hrkind⟩ := h.exists_root ht hskill
      obtain ⟨offset, hoffset⟩ := h.exists_difficulty ht hskill
      have hhas : s.has i = true := bne_iff_ne.2 (hlearned i t ht hskill)
      have hown : r.ownFormula? = some base := by rw [Trait.ownFormula?, hrkind]
      have hinteger : base.integer? (s.readerFrom levels) (s.purchasedAt i) ≠ some none :=
        integer?_ne_absent_of_check h hlevels _ (h.own hr hown)
      simp only [hhas, hroot, hoffset, Option.bind_some, hr, Option.map_some, hrkind]
      rcases hvalue : base.integer? (s.readerFrom levels) (s.purchasedAt i) with - | - | value
      · simp
      · exact absurd hvalue hinteger
      · simp
  rw [levelFrom, ht]
  dsimp only
  rcases hvalue : s.baseFrom levels i t with - | - | base
  · simp
  · exact absurd hvalue hbase
  · cases s.addBonuses levels 0 (s.activeEffects t) <;> simp

theorem levelWithin_ne_absent (hlearned : s.Learned) (bound : Nat) (hi : i < s.database.size) :
    s.levelWithin bound i ≠ some none := by
  induction bound generalizing i with
  | zero => simp [levelWithin]
  | succ bound ih =>
    exact levelFrom_ne_absent h hlearned (fun i hi ↦ ih hi) (Array.getElem?_eq_getElem hi)

/-- **Where all skills are learned, every trait has a level.** -/
theorem level_isSome (hlearned : s.Learned) (hi : i < s.database.size) :
    (s.level i).isSome = true := by
  have hne : s.levels i ≠ some none := levelWithin_ne_absent h hlearned _ hi
  rw [levels_eq_some_level h hi] at hne
  exact Option.isSome_iff_ne_none.2 fun hnone ↦ hne (congrArg some hnone)

/-- Where all skills are learned, every change of a cost has its percentage. -/
theorem exists_percent (hlearned : s.Learned) {owner : Trait} {f : Formula} (own : Amount)
    (hf : Scope.check ⟨s.database, owner⟩ .percent f = .ok ()) :
    ∃ percent, f.percent? s.reader own = some (some percent) := by
  obtain ⟨scales, literal, hscaled⟩ := Formula.exists_scaled (Scope.sorted_of_check hf)
  obtain ⟨value, hvalue⟩ : ∃ value, f.percent? s.reader own = some value :=
    Option.ne_none_iff_exists'.1 (Formula.percent?_ne_none (reader_total h))
  cases value with
  | some percent => exact ⟨percent, hvalue⟩
  | none =>
    -- then one of the integers that scale it would be absent
    obtain ⟨scale, hscale, habsent⟩ := (hscaled.percent?_eq_none_iff (reader_total h)).1 hvalue
    have hsorted := hscaled.sorted scale hscale
    refine absurd habsent (Formula.integer?_ne_absent (fun found _ ↦ ?_) hsorted)
    exact readerFrom_ne_absent h (fun _ hi ↦ levelWithin_ne_absent h hlearned _ hi) found

end Learned

/-! ### Sound sheets -/

/-- **No evaluation over a sheet meets a defect**: strict values are there, and are the values. -/
structure Sound (s : Sheet) : Prop where
  /-- The level of a trait. -/
  level : ∀ i < s.database.size, s.strictLevels i = .ok (s.level i)
  /-- The truth of a trait that may stand for one. -/
  truth : ∀ i t name, s.database.trait? i = some t → Scope.admits .boolean t.kind = true →
    s.strictTruthFrom s.strictLevels name i = .ok (s.truth i)
  /-- The cost of a trait. -/
  cost : ∀ i < s.database.size, s.strictCost i = .ok (s.cost i)
  /-- The formula of a trait, for whichever trait it is evaluated. -/
  own : ∀ i t f own, s.database.trait? i = some t → t.ownFormula? = some f →
    ∃ value, f.strictInteger s.strictReader own = .ok value ∧
      f.integer? s.reader own = some value
  /-- The formula of a change of a level. -/
  levelEffect : ∀ i t effect own, s.database.trait? i = some t → effect ∈ t.effects →
    effect.kind = .level →
    ∃ value, effect.formula.strictInteger s.strictReader own = .ok value ∧
      effect.formula.integer? s.reader own = some value
  /-- The formula of a change of a cost, which is absent just where an integer in it is. -/
  costEffect : ∀ i t effect sign own, s.database.trait? i = some t → effect ∈ t.effects →
    effect.kind = .cost sign →
    ∃ value scales literal, effect.formula.strictPercent s.strictReader own = .ok value ∧
      effect.formula.percent? s.reader own = some value ∧
      effect.formula.Scaled ⟨s.database, t⟩ scales literal ∧
      (value = none ↔ ∃ scale ∈ scales, scale.integer? s.reader own = some none)
  /-- The end of the chain of inheritance from a skill, and its difficulty. -/
  root : ∀ i t, s.database.trait? i = some t → t.isSkill = true →
    ∃ root r difficulty base category offset, s.database.inheritanceRoot? i = some root ∧
      s.database.trait? root = some r ∧ r.kind = .skill difficulty base category ∧
      s.database.difficulty? i = some offset

section Sound

variable (h : s.database.Checked)

include h

/-- A checked integer has a strict value, which is its value. -/
theorem exists_strictInteger {owner : Trait} {f : Formula} (own : Amount)
    (hf : Scope.check ⟨s.database, owner⟩ .integer f = .ok ()) :
    ∃ value, f.strictInteger s.strictReader own = .ok value ∧
      f.integer? s.reader own = some value := by
  obtain ⟨value, hvalue⟩ : ∃ value, f.integer? s.reader own = some value :=
    Option.ne_none_iff_exists'.1 (Formula.integer?_ne_none (reader_total h))
  have hstrict : f.strictInteger s.strictReader own = Formula.known (f.integer? s.reader own) :=
    strictReader_agrees h own hf
  exact ⟨value, hstrict.trans (congrArg Formula.known hvalue), hvalue⟩

/-- A checked percentage has a strict value, which is its value, and is absent where a scale is. -/
theorem exists_strictPercent {owner : Trait} {f : Formula} (own : Amount)
    (hf : Scope.check ⟨s.database, owner⟩ .percent f = .ok ()) :
    ∃ value scales literal, f.strictPercent s.strictReader own = .ok value ∧
      f.percent? s.reader own = some value ∧ f.Scaled ⟨s.database, owner⟩ scales literal ∧
      (value = none ↔ ∃ scale ∈ scales, scale.integer? s.reader own = some none) := by
  obtain ⟨scales, literal, hscaled⟩ := Formula.exists_scaled (Scope.sorted_of_check hf)
  obtain ⟨value, hvalue⟩ : ∃ value, f.percent? s.reader own = some value :=
    Option.ne_none_iff_exists'.1 (Formula.percent?_ne_none (reader_total h))
  have hstrict : f.strictPercent s.strictReader own = Formula.known (f.percent? s.reader own) :=
    strictReader_agrees h own hf
  have hknown := hstrict.trans (congrArg Formula.known hvalue)
  refine ⟨value, scales, literal, hknown, hvalue, hscaled, ?_⟩
  rw [← hscaled.percent?_eq_none_iff (reader_total h), hvalue, Option.some.injEq]

theorem strictTruthFrom_eq (ht : s.database.trait? i = some t)
    (admitted : Scope.admits .boolean t.kind = true) (name : String) :
    s.strictTruthFrom s.strictLevels name i = .ok (s.truth i) := by
  have hi : i < s.database.size := Database.lt_size_of_trait? ht
  rw [strictTruthFrom, truth, truthFrom, ht, Option.map_some, strictLevels_eq h hi,
    levels_eq_some_level h hi]
  cases hkind : t.kind with
  | skill | inheritedSkill | plainAdvantage => rfl
  | leveledAdvantage | «attribute» =>
    rw [hkind] at admitted
    cases admitted

/-- Sheets over checked databases are sound. -/
theorem sound_of_checked : s.Sound where
  level i hi := strictLevels_eq h hi
  truth i t name ht admitted := strictTruthFrom_eq h ht admitted name
  cost i hi := strictCost_eq h (Array.getElem?_eq_getElem hi)
  own i t f own ht hf := exists_strictInteger h own (h.own ht hf)
  levelEffect i t effect own ht heffect hkind := by
    obtain ⟨target, hadmitted⟩ := h.effect ht heffect
    have hcheck := hadmitted.sorted
    rw [hkind] at hcheck
    exact exists_strictInteger h own hcheck
  costEffect i t effect sign own ht heffect hkind := by
    obtain ⟨target, hadmitted⟩ := h.effect ht heffect
    have hcheck := hadmitted.sorted
    rw [hkind] at hcheck
    exact exists_strictPercent h own hcheck
  root i t ht hskill := by
    obtain ⟨root, r, difficulty, base, category, hroot, hr, hkind⟩ := h.exists_root ht hskill
    obtain ⟨offset, hoffset⟩ := h.exists_difficulty ht hskill
    exact ⟨root, r, difficulty, base, category, offset, hroot, hr, hkind, hoffset⟩

end Sound

/-- **Loading is sound**: whatever has been purchased, no evaluation over a loaded database meets a
defect; and where all skills are learned, every trait has a level, and every active change of a cost
its percentage. -/
theorem sound_of_load {sources : List Source} {preferences : LoadPreferences}
    (hload : Database.load sources preferences = .ok s.database) :
    s.Sound ∧ (s.Learned →
      (∀ i < s.database.size, (s.level i).isSome = true) ∧
      ∀ i t owner effect sign, s.database.trait? i = some t →
        (owner, effect) ∈ s.activeEffects t → effect.kind = .cost sign →
        ∃ percent,
          effect.formula.percent? s.reader (s.purchasedAt owner) = some (some percent)) := by
  have h : s.database.Checked := Database.checked_of_load hload
  refine ⟨sound_of_checked h, fun hlearned ↦ ⟨fun i hi ↦ level_isSome h hlearned hi, ?_⟩⟩
  intro i t owner effect sign ht hactive hkind
  obtain ⟨t', hcheck⟩ := check_of_mem_activeEffects h ht hactive
  rw [hkind] at hcheck
  exact exists_percent h hlearned _ hcheck

/-- A sheet on which a skill is learned: it is sound, and the skill has a level. -/
theorem sound_of_load_small :
    Database.load [Database.smallSource] ⟨[], false⟩ = .ok Database.small ∧
      Sound ⟨Database.small, #[0, 1]⟩ ∧
      (level ⟨Database.small, #[0, 1]⟩ 1).isSome = true := by
  have h := sound_of_load (s := ⟨Database.small, #[0, 1]⟩) Database.load_small
  have hlearned : Learned ⟨Database.small, #[0, 1]⟩ := by
    intro i t ht hskill
    match i with
    | 0 =>
      obtain rfl := Option.some.inj ht
      cases hskill
    | 1 => decide
    | i + 2 => cases ht
  exact ⟨Database.load_small, h.1, (h.2 hlearned).1 1 (by decide)⟩

end Sheet
end PointBuy
