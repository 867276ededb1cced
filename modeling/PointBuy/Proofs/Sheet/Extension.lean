import PointBuy.Proofs.Database.Extension
import PointBuy.Proofs.Database.Sorting
import PointBuy.Proofs.Sheet.Termination
import PointBuy.Sheet.Row

/-!
# Sheets over more sources

The new traits of an extended database may have effects on the old ones, and so the evaluation of an
old trait may come to read new traits. But as long as none of these is purchased, no effect of
theirs is active, and nothing else leads from an old trait to a new one: the formulas of old traits
mention old names only, and chains of inheritance stay among old skills. So a sheet goes on with
unpurchased traits (`ExtendedBy`) without a change of what it had before. One step of an evaluation
gives the same from the same levels of old traits (`levelFrom_eq`), and by induction on the bound
all steps do.

## Main statement

* `Sheet.conservative_of_load` : more sources change nothing of what was there.
-/

namespace PointBuy

/-- All names that a checked formula mentions are found. -/
theorem Scope.Sorted.exists_place {scope : Scope} {sort : ValueSort} {f : Formula}
    (h : scope.Sorted sort f) {name : String} (hname : name ∈ f.mentions) :
    ∃ i, scope.database.indexOf? name = some i := by
  induction h with
  | integer | percent | boolean | level => cases hname
  | name found =>
    obtain rfl := List.mem_singleton.1 hname
    obtain ⟨i, hi, -⟩ := Option.bind_eq_some_iff.1 found
    exact ⟨i, hi⟩
  | negate _ ih => exact ih hname
  | divide _ _ ih =>
    rw [Formula.mentions, Formula.mentions, List.append_nil] at hname
    exact ih hname
  | arithmetic _ _ _ ihl ihr | comparison _ _ _ ihl ihr | and _ _ ihl ihr | or _ _ ihl ihr
  | scaledLeft _ _ _ ihl ihr | scaledRight _ _ _ ihl ihr =>
    rcases List.mem_append.1 hname with hname | hname
    · exact ihl hname
    · exact ihr hname
  | conditional _ _ _ _ ihc iht ihf =>
    rcases List.mem_append.1 hname with hname | hname
    · exact ihc hname
    · rcases List.mem_append.1 hname with hname | hname
      · exact iht hname
      · exact ihf hname

namespace Sheet

variable {s s' : Sheet} {levels levels' : Nat → Option (Option Amount)} {i : Nat} {t t' : Trait}

/-- **A sheet goes on with traits that are not purchased.** -/
structure ExtendedBy (s s' : Sheet) : Prop where
  database : s.database.ExtendedBy s'.database
  checked : s.database.Checked
  purchasedAt_eq : ∀ i < s.database.size, s.purchasedAt i = s'.purchasedAt i
  unpurchased : ∀ i, s.database.size ≤ i → s'.has i = false

/-- Two ways to read levels agree on the traits that come first. -/
def AgreeFirst (s : Sheet) (levels levels' : Nat → Option (Option Amount)) : Prop :=
  ∀ i < s.database.size, levels i = levels' i

namespace ExtendedBy

variable (h : s.ExtendedBy s')

include h

theorem has_eq (hi : i < s.database.size) : s.has i = s'.has i :=
  has_congr (h.purchasedAt_eq i hi)

variable (hlevels : s.AgreeFirst levels levels')

include hlevels

theorem truthFrom_eq (hi : i < s.database.size) :
    s.truthFrom levels i = s'.truthFrom levels' i := by
  rw [truthFrom, truthFrom, h.database.map_kind_eq hi, h.has_eq hi, hlevels i hi]

/-- A checked formula of a trait that comes first reads the same. -/
theorem readerFrom_agree {owner : Trait} {sort : ValueSort} {f : Formula}
    (hf : Scope.check ⟨s.database, owner⟩ sort f = .ok ()) :
    (s.readerFrom levels).Agree (s'.readerFrom levels') f.mentions := by
  intro name hname
  obtain ⟨i, hi⟩ := (Scope.sorted_of_check hf).exists_place hname
  have hlt : i < s.database.size := h.checked.indexed.lt_size hi
  simp only [readerFrom, hi, h.database.indexOf?_eq hi]
  exact ⟨hlevels i hlt, h.truthFrom_eq hlevels hlt⟩

/-! ### Effects -/

omit hlevels in
/-- The owners of new effects are not purchased, and so the active effects are the same. -/
theorem activeEffects_eq (ht : s.database.trait? i = some t)
    (ht' : s'.database.trait? i = some t') : s.activeEffects t = s'.activeEffects t' := by
  obtain ⟨more, hextended, hmore⟩ := h.database.trait?_eq ht
  obtain rfl := Option.some.inj (ht'.symm.trans hextended)
  have hinactive : more.filterMap (fun ref ↦
      if s'.has ref.owner then (s'.database.effect? ref).map (ref.owner, ·) else none) = [] := by
    refine List.filterMap_eq_nil_iff.2 fun ref href ↦ ?_
    rw [h.unpurchased ref.owner (hmore ref href)]
    rfl
  rw [activeEffects, activeEffects]
  dsimp only
  rw [Array.toList_append, List.filterMap_append, hinactive, List.append_nil]
  refine List.filterMap_congr fun ref href ↦ ?_
  obtain ⟨owner, _, howner, -⟩ := h.checked.linked ht (Array.mem_toList_iff.1 href)
  have hlt : ref.owner < s.database.size := Database.lt_size_of_trait? howner
  rw [h.has_eq hlt, h.database.effect?_eq hlt]

/-- The owner of an active effect comes first, and the formula of the effect is checked. -/
theorem exists_of_mem_activeEffects (ht : s.database.trait? i = some t) {p : Nat × Effect}
    (hp : p ∈ s.activeEffects t) :
    s.purchasedAt p.1 = s'.purchasedAt p.1 ∧
      (s.readerFrom levels).Agree (s'.readerFrom levels') p.2.formula.mentions := by
  obtain ⟨ref, href, howner, -, heffect⟩ := mem_activeEffects.1 hp
  obtain ⟨owner, effect, htrait, heffect', hadmitted⟩ := h.checked.linked ht href
  obtain rfl := Option.some.inj (heffect.symm.trans heffect')
  refine ⟨?_, h.readerFrom_agree hlevels hadmitted.sorted⟩
  exact howner ▸ h.purchasedAt_eq ref.owner (Database.lt_size_of_trait? htrait)

theorem addBonuses_eq (ht : s.database.trait? i = some t) {effects : List (Nat × Effect)}
    (heffects : ∀ p ∈ effects, p ∈ s.activeEffects t) (sum : Amount) :
    s.addBonuses levels sum effects = s'.addBonuses levels' sum effects := by
  induction effects generalizing sum with
  | nil => rfl
  | cons p rest ih =>
    obtain ⟨hp, hrest⟩ := List.forall_mem_cons.1 heffects
    obtain ⟨howner, hagree⟩ := h.exists_of_mem_activeEffects hlevels ht hp
    rw [addBonuses, addBonuses]
    cases p.2.kind with
    | cost => exact ih hrest sum
    | level =>
      dsimp only
      rw [← howner, Formula.integer?_congr hagree]
      simp only [ih hrest]

theorem collectPercents_eq (ht : s.database.trait? i = some t) {effects : List (Nat × Effect)}
    (heffects : ∀ p ∈ effects, p ∈ s.activeEffects t) (pools : Cost.Pools) :
    s.collectPercents levels pools effects = s'.collectPercents levels' pools effects := by
  induction effects generalizing pools with
  | nil => rfl
  | cons p rest ih =>
    obtain ⟨hp, hrest⟩ := List.forall_mem_cons.1 heffects
    obtain ⟨howner, hagree⟩ := h.exists_of_mem_activeEffects hlevels ht hp
    rw [collectPercents, collectPercents]
    cases p.2.kind with
    | level => exact ih hrest pools
    | cost sign =>
      dsimp only
      rw [← howner, Formula.percent?_congr hagree]
      simp only [ih hrest]

/-! ### One step -/

omit hlevels in
theorem kind_eq (ht : s.database.trait? i = some t) (ht' : s'.database.trait? i = some t') :
    t'.kind = t.kind := by
  have hkinds := h.database.map_kind_eq (Database.lt_size_of_trait? ht)
  rw [ht, ht'] at hkinds
  exact Option.some.inj hkinds

/-- The formula of a trait reads the same. -/
theorem readerFrom_agree_own (ht : s.database.trait? i = some t) {f : Formula}
    (hf : t.ownFormula? = some f) :
    (s.readerFrom levels).Agree (s'.readerFrom levels') f.mentions :=
  h.readerFrom_agree hlevels (h.checked.own ht hf)

theorem baseFrom_eq (ht : s.database.trait? i = some t) (ht' : s'.database.trait? i = some t') :
    s.baseFrom levels i t = s'.baseFrom levels' i t' := by
  have hi : i < s.database.size := Database.lt_size_of_trait? ht
  -- a skill starts from the same formula, at the end of the same chain
  have hskill (hskill : t.isSkill = true) :
      ((s'.database.inheritanceRoot? i).bind s'.database.trait?).map Trait.kind =
        ((s.database.inheritanceRoot? i).bind s.database.trait?).map Trait.kind := by
    obtain ⟨root, r, _, _, _, hroot, hr, -⟩ := h.checked.exists_root ht hskill
    rw [h.database.inheritanceRoot?_eq h.checked ht hskill, hroot, Option.bind_some,
      Option.bind_some]
    exact h.database.map_kind_eq (Database.lt_size_of_trait? hr)
  rw [baseFrom, baseFrom, h.kind_eq ht ht', ← h.purchasedAt_eq i hi, ← h.has_eq hi]
  cases hkind : t.kind with
  | leveledAdvantage | plainAdvantage => rfl
  | «attribute» formula =>
    have hown : t.ownFormula? = some formula := by rw [Trait.ownFormula?, hkind]
    exact Formula.integer?_congr (h.readerFrom_agree_own hlevels ht hown)
  | skill | inheritedSkill =>
    dsimp only
    rw [hskill (by rw [Trait.isSkill, hkind]), h.database.difficulty?_eq h.checked hi]
    split
    case isTrue => rfl
    case isFalse =>
      split
      case h_1 base _ _ hroot _ =>
        obtain ⟨root, hplace, hkind⟩ := Option.map_eq_some_iff.1 hroot
        obtain ⟨place, -, htrait⟩ := Option.bind_eq_some_iff.1 hplace
        have hown : root.ownFormula? = some base := by rw [Trait.ownFormula?, hkind]
        rw [Formula.integer?_congr (h.readerFrom_agree_own hlevels htrait hown)]
      case h_2 => rfl

theorem baseCostFrom_eq (ht : s.database.trait? i = some t)
    (ht' : s'.database.trait? i = some t') :
    s.baseCostFrom levels i t = s'.baseCostFrom levels' i t' := by
  have hi : i < s.database.size := Database.lt_size_of_trait? ht
  rw [baseCostFrom, baseCostFrom, h.kind_eq ht ht', ← h.purchasedAt_eq i hi, ← h.has_eq hi]
  cases hkind : t.kind with
  | «attribute» | skill | inheritedSkill => rfl
  | leveledAdvantage cost | plainAdvantage cost =>
    have hown : t.ownFormula? = some cost := by rw [Trait.ownFormula?, hkind]
    dsimp only
    rw [Formula.integer?_congr (h.readerFrom_agree_own hlevels ht hown)]

/-- One step from the same levels gives the same level. -/
theorem levelFrom_eq (hi : i < s.database.size) :
    s.levelFrom levels i = s'.levelFrom levels' i := by
  obtain ⟨t, ht⟩ := Database.exists_trait?_of_lt hi
  obtain ⟨more, ht', -⟩ := h.database.trait?_eq ht
  rw [levelFrom, levelFrom, ht, ht']
  dsimp only
  rw [← h.activeEffects_eq ht ht', h.baseFrom_eq hlevels ht ht',
    h.addBonuses_eq hlevels ht (fun _ hp ↦ hp) 0]

/-- One step from the same levels gives the same cost. -/
theorem costFrom_eq (hi : i < s.database.size) : s.costFrom levels i = s'.costFrom levels' i := by
  obtain ⟨t, ht⟩ := Database.exists_trait?_of_lt hi
  obtain ⟨more, ht', -⟩ := h.database.trait?_eq ht
  rw [costFrom, costFrom, ht, ht']
  dsimp only
  rw [← h.activeEffects_eq ht ht', h.baseCostFrom_eq hlevels ht ht',
    h.collectPercents_eq hlevels ht (fun _ hp ↦ hp) .empty]

/-! ### All steps -/

omit hlevels

/-- However many steps are allowed, the levels of the traits that come first are the same. -/
theorem levelWithin_eq (bound : Nat) :
    s.AgreeFirst (s.levelWithin bound) (s'.levelWithin bound) := by
  induction bound with
  | zero => exact fun _ _ ↦ rfl
  | succ bound ih => exact fun i hi ↦ h.levelFrom_eq ih hi

theorem levels_eq : s.AgreeFirst s.levels s'.levels := by
  intro i hi
  rw [← levelWithin_eq_levels h.checked hi h.database.size_le]
  exact h.levelWithin_eq s'.database.size i hi

/-- **What a sheet had before it went on, it still has.** -/
theorem evaluation_eq (hi : i < s.database.size) :
    s.level i = s'.level i ∧ s.truth i = s'.truth i ∧ s.cost i = s'.cost i := by
  refine ⟨?_, ?_, ?_⟩
  · rw [level, level, h.levels_eq i hi]
  · rw [truth, truth, h.truthFrom_eq h.levels_eq hi]
  · rw [cost, cost, h.costFrom_eq h.levels_eq hi]

end ExtendedBy

/-! ### Loaded databases -/

/-- The sheet over a database with more traits, none of which is purchased. -/
def extendedTo (s : Sheet) (db : Database) : Sheet :=
  ⟨db, s.purchased ++ Array.replicate (db.size - s.database.size) 0⟩

theorem extendedBy_extendedTo {db : Database} (h : s.database.ExtendedBy db)
    (hchecked : s.database.Checked) (hsize : s.purchased.size = s.database.size) :
    s.ExtendedBy (s.extendedTo db) where
  database := h
  checked := hchecked
  purchasedAt_eq i hi := by
    rw [purchasedAt, purchasedAt, extendedTo, Array.getElem?_append_left (hsize ▸ hi)]
  unpurchased i hi := by
    have hzero : (s.extendedTo db).purchasedAt i = 0 := by
      rw [purchasedAt, extendedTo, Array.getElem?_append_right (hsize ▸ hi),
        Array.getElem?_replicate]
      split <;> rfl
    rw [has, hzero]
    rfl

/-- **More sources change nothing of what was there.** The traits are the first ones again, the same
but for the effects on them, with the same difficulties; and as long as no new trait is purchased,
they have the same levels, truths and costs. -/
theorem conservative_of_load {sources more : List Source} {preferences : LoadPreferences}
    {db db' : Database} (h : Database.load sources preferences = .ok db)
    (h' : Database.load (sources ++ more) preferences = .ok db') :
    (∀ i t, db.trait? i = some t → ∃ t', db'.trait? i = some t' ∧ t'.name = t.name ∧
      t'.kind = t.kind ∧ t'.effects = t.effects ∧ t'.format = t.format ∧
      t'.displayName = t.displayName) ∧
    (∀ i < db.size, db'.difficulty? i = db.difficulty? i) ∧
    ∀ purchased : Array Amount, purchased.size = db.size → ∀ i < db.size,
      (extendedTo ⟨db, purchased⟩ db').level i = level ⟨db, purchased⟩ i ∧
      (extendedTo ⟨db, purchased⟩ db').truth i = truth ⟨db, purchased⟩ i ∧
      (extendedTo ⟨db, purchased⟩ db').cost i = cost ⟨db, purchased⟩ i := by
  have hextended : db.ExtendedBy db' := Database.extendedBy_of_load h h'
  have hchecked : db.Checked := Database.checked_of_load h
  refine ⟨fun i t ht ↦ ?_, fun i hi ↦ hextended.difficulty?_eq hchecked hi,
    fun purchased hsize i hi ↦ ?_⟩
  · obtain ⟨_, ht', -⟩ := hextended.trait?_eq ht
    exact ⟨_, ht', rfl, rfl, rfl, rfl, rfl⟩
  · have hsheet : ExtendedBy ⟨db, purchased⟩ (extendedTo ⟨db, purchased⟩ db') :=
      extendedBy_extendedTo hextended hchecked hsize
    obtain ⟨hlevel, htruth, hcost⟩ := hsheet.evaluation_eq hi
    exact ⟨hlevel.symm, htruth.symm, hcost.symm⟩

/-- The skill that starts from an attribute keeps its level when an advantage is added that raises
the attribute. -/
theorem conservative_of_load_gifted :
    Database.load [Database.smallSource] ⟨[], false⟩ = .ok Database.small ∧
      Database.load ([Database.smallSource] ++ [Database.giftedSource]) ⟨[], false⟩ =
        .ok Database.smallGifted.noted ∧
      (extendedTo ⟨Database.small, #[0, 4]⟩ Database.smallGifted.noted).level 1 =
        level ⟨Database.small, #[0, 4]⟩ 1 := by
  have h := conservative_of_load Database.load_small Database.load_gifted
  exact ⟨Database.load_small, Database.load_gifted, (h.2.2 #[0, 4] rfl 1 (by decide)).1⟩

end Sheet
end PointBuy
