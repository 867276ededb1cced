import Mathlib.Data.List.Basic
import PointBuy.Database.Dependency
import PointBuy.Proofs.Formula.Reading
import PointBuy.Sheet.Basic

/-!
# What a level and a cost rest on

One step of an evaluation computes the level of a trait from the levels of other traits. Here it is
said which other traits these are, and of which traits the purchases are read besides: two sheets
over one database that look the same in these places give the same level (`levelFrom_congr`), and
with a few more places the same cost (`costFrom_congr`). The levels that a level rests on are those
that the evaluation graph of the database points to.

As for formulas, a step gives up only where the levels that it is given do.

## Main statements

* `mem_evaluationGraph` : where the evaluation graph points to.
* `Sheet.levelFrom_congr`, `Sheet.costFrom_congr` : what a level and a cost rest on.
* `Sheet.levelFrom_ne_none`, `Sheet.costFrom_ne_none` : neither gives up by itself.
-/

namespace PointBuy

open Formula (bind_ne_none)

namespace Database

variable {db : Database} {i : Nat}

/-- The formulas of a level: the one that it starts from, and those of the effects on it. -/
theorem mem_levelFormulas_iff {t : Trait} {f : Formula} :
    f ∈ db.levelFormulas i t ↔ db.baseFormula? i t = some f ∨
      ∃ ref ∈ t.effectedBy, ∃ effect, db.effect? ref = some effect ∧ effect.kind = .level ∧
        effect.formula = f := by
  rw [levelFormulas, List.mem_append, Option.mem_toList, List.mem_filterMap]
  refine or_congr_right ⟨?_, ?_⟩
  · rintro ⟨ref, href, heq⟩
    split at heq
    case h_1 effect heffect =>
      split at heq
      case isTrue hkind =>
        exact ⟨ref, Array.mem_toList_iff.1 href, effect, heffect, hkind, Option.some.inj heq⟩
      case isFalse => cases heq
    case h_2 => cases heq
  · rintro ⟨ref, href, effect, heffect, hkind, rfl⟩
    refine ⟨ref, Array.mem_toList_iff.2 href, ?_⟩
    rw [heffect]
    exact if_pos hkind

/-- The evaluation graph points from a trait to all places in the formulas of its level. -/
theorem mem_evaluationGraph {j : Nat} :
    j ∈ db.evaluationGraph.pointedTo i ↔
      ∃ t, db.trait? i = some t ∧ ∃ f ∈ db.levelFormulas i t, j ∈ db.placesIn f := by
  rw [Graph.pointedTo, evaluationGraph, Array.getElem?_mapIdx, trait?]
  cases db.traits[i]? with
  | none => simp
  | some t => simp [List.mem_flatMap]

theorem size_evaluationGraph : Array.size db.evaluationGraph = db.size := Array.size_mapIdx

end Database

namespace Sheet

variable {s s' : Sheet} {levels levels' : Nat → Option (Option Amount)} {i : Nat} {t : Trait}

/-! ### Sheets that look the same -/

/-- At some places two sheets have the same purchases, and the same levels are read there. -/
def SeeAlike (s s' : Sheet) (levels levels' : Nat → Option (Option Amount)) (places : List Nat) :
    Prop :=
  ∀ i ∈ places, s.purchasedAt i = s'.purchasedAt i ∧ levels i = levels' i

theorem has_congr (h : s.purchasedAt i = s'.purchasedAt i) : s.has i = s'.has i := by
  rw [has, has, h]

theorem truthFrom_congr (hdb : s.database = s'.database)
    (hpurchased : s.purchasedAt i = s'.purchasedAt i) (hlevel : levels i = levels' i) :
    s.truthFrom levels i = s'.truthFrom levels' i := by
  rw [truthFrom, truthFrom, hdb, has_congr hpurchased, hlevel]

/-- A formula reads its places only. -/
theorem readerFrom_agree (hdb : s.database = s'.database) {f : Formula}
    (h : SeeAlike s s' levels levels' (s.database.placesIn f)) :
    (s.readerFrom levels).Agree (s'.readerFrom levels') f.mentions := by
  intro name hname
  simp only [readerFrom, ← hdb]
  cases hplace : s.database.indexOf? name with
  | none => exact ⟨rfl, rfl⟩
  | some i =>
    obtain ⟨hpurchased, hlevel⟩ := h i (List.mem_filterMap.2 ⟨name, hname, hplace⟩)
    exact ⟨hlevel, truthFrom_congr hdb hpurchased hlevel⟩

/-! ### Effects -/

/-- An active effect is one that its target refers to, and its owner is purchased. -/
theorem mem_activeEffects {owner : Nat} {effect : Effect} :
    (owner, effect) ∈ s.activeEffects t ↔
      ∃ ref ∈ t.effectedBy, ref.owner = owner ∧ s.has owner = true ∧
        s.database.effect? ref = some effect := by
  rw [activeEffects, List.mem_filterMap]
  constructor
  · rintro ⟨ref, href, heq⟩
    split at heq
    case isTrue hhas =>
      obtain ⟨_, heffect, heq⟩ := Option.map_eq_some_iff.1 heq
      cases heq
      exact ⟨ref, Array.mem_toList_iff.1 href, rfl, hhas, heffect⟩
    case isFalse => cases heq
  · rintro ⟨ref, href, rfl, hhas, heffect⟩
    exact ⟨ref, Array.mem_toList_iff.2 href, by rw [if_pos hhas, heffect]; rfl⟩

theorem activeEffects_congr (hdb : s.database = s'.database)
    (howners : ∀ ref ∈ t.effectedBy, s.purchasedAt ref.owner = s'.purchasedAt ref.owner) :
    s.activeEffects t = s'.activeEffects t := by
  rw [activeEffects, activeEffects, hdb]
  refine List.filterMap_congr fun ref href ↦ ?_
  rw [has_congr (howners ref (Array.mem_toList_iff.1 href))]

/-! ### Levels -/

/-- The formula that a skill starts from is that of the skill at the end of its chain. -/
theorem baseFormula?_of_root {difficulty : Difficulty} {base : Formula} {category : Bool}
    {db : Database} (hskill : t.isSkill = true)
    (hroot : ((db.inheritanceRoot? i).bind db.trait?).map Trait.kind =
      some (.skill difficulty base category)) : db.baseFormula? i t = some base := by
  obtain ⟨root, hroot, hkind⟩ := Option.map_eq_some_iff.1 hroot
  obtain ⟨place, hplace, htrait⟩ := Option.bind_eq_some_iff.1 hroot
  have hown : root.ownFormula? = some base := by rw [Trait.ownFormula?, hkind]
  rw [Trait.isSkill] at hskill
  rw [Database.baseFormula?]
  split at hskill
  case h_1 heq => simp [heq, hplace, htrait, hown]
  case h_2 heq => simp [heq, hplace, htrait, hown]
  all_goals cases hskill

theorem baseFrom_congr (hdb : s.database = s'.database)
    (hown : s.purchasedAt i = s'.purchasedAt i)
    (hbase : ∀ f, s.database.baseFormula? i t = some f →
      SeeAlike s s' levels levels' (s.database.placesIn f)) :
    s.baseFrom levels i t = s'.baseFrom levels' i t := by
  have hskill (h : t.isSkill = true) (difficulty : Difficulty) (base : Formula) (category : Bool)
      (hroot : ((s.database.inheritanceRoot? i).bind s.database.trait?).map Trait.kind =
        some (.skill difficulty base category)) :
      base.integer? (s.readerFrom levels) (s.purchasedAt i) =
        base.integer? (s'.readerFrom levels') (s.purchasedAt i) :=
    Formula.integer?_congr (readerFrom_agree hdb (hbase base (baseFormula?_of_root h hroot)))
  rw [baseFrom, baseFrom, ← hdb, ← hown, ← has_congr hown]
  cases hkind : t.kind with
  | leveledAdvantage | plainAdvantage => rfl
  | «attribute» formula =>
    refine Formula.integer?_congr (readerFrom_agree hdb (hbase formula ?_))
    rw [Database.baseFormula?, hkind]
  | skill | inheritedSkill =>
    have h := hskill (show t.isSkill = true by rw [Trait.isSkill, hkind])
    dsimp only
    split
    · rfl
    · split
      case h_1 hroot _ => rw [h _ _ _ hroot]
      case h_2 => rfl

theorem addBonuses_congr (hdb : s.database = s'.database) {effects : List (Nat × Effect)}
    (howners : ∀ p ∈ effects, s.purchasedAt p.1 = s'.purchasedAt p.1)
    (heffects : ∀ p ∈ effects, p.2.kind = .level →
      SeeAlike s s' levels levels' (s.database.placesIn p.2.formula)) (sum : Amount) :
    s.addBonuses levels sum effects = s'.addBonuses levels' sum effects := by
  induction effects generalizing sum with
  | nil => rfl
  | cons p rest ih =>
    obtain ⟨owner, effect⟩ := p
    obtain ⟨howner, howners⟩ := List.forall_mem_cons.1 howners
    obtain ⟨heffect, heffects⟩ := List.forall_mem_cons.1 heffects
    rw [addBonuses, addBonuses]
    cases hkind : effect.kind with
    | cost => exact ih howners heffects sum
    | level =>
      dsimp only
      rw [← howner, Formula.integer?_congr (readerFrom_agree hdb (heffect hkind))]
      simp only [ih howners heffects]

/-- **What a level rests on**: the purchases of the trait and of the owners of the effects on it,
and what can be read at the places that the evaluation graph points to. -/
theorem levelFrom_congr (hdb : s.database = s'.database)
    (hown : s.purchasedAt i = s'.purchasedAt i)
    (howners : ∀ t, s.database.trait? i = some t →
      ∀ ref ∈ t.effectedBy, s.purchasedAt ref.owner = s'.purchasedAt ref.owner)
    (hrests : SeeAlike s s' levels levels' (s.database.evaluationGraph.pointedTo i)) :
    s.levelFrom levels i = s'.levelFrom levels' i := by
  rw [levelFrom, levelFrom, ← hdb]
  cases ht : s.database.trait? i with
  | none => rfl
  | some t =>
    have hsee (f : Formula) (hf : f ∈ s.database.levelFormulas i t) :
        SeeAlike s s' levels levels' (s.database.placesIn f) :=
      fun j hj ↦ hrests j (Database.mem_evaluationGraph.2 ⟨t, ht, f, hf, hj⟩)
    have hbase : s.baseFrom levels i t = s'.baseFrom levels' i t :=
      baseFrom_congr hdb hown fun f hf ↦
        hsee f (Database.mem_levelFormulas_iff.2 (.inl hf))
    have hbonus : s.addBonuses levels 0 (s.activeEffects t) =
        s'.addBonuses levels' 0 (s.activeEffects t) := by
      refine addBonuses_congr hdb (fun p hp ↦ ?_) (fun p hp hkind ↦ ?_) 0 <;>
        obtain ⟨ref, href, hplace, -, heffect⟩ := mem_activeEffects.1 hp
      · exact hplace ▸ howners t ht ref href
      · refine hsee _ (Database.mem_levelFormulas_iff.2 (.inr ?_))
        exact ⟨ref, href, p.2, heffect, hkind, rfl⟩
    dsimp only
    rw [← activeEffects_congr hdb (howners t ht), hbase, hbonus]

/-! ### Costs -/

theorem baseCostFrom_congr (hdb : s.database = s'.database)
    (hown : s.purchasedAt i = s'.purchasedAt i)
    (hbase : ∀ f, t.ownFormula? = some f →
      SeeAlike s s' levels levels' (s.database.placesIn f)) :
    s.baseCostFrom levels i t = s'.baseCostFrom levels' i t := by
  rw [baseCostFrom, baseCostFrom, ← hown, ← has_congr hown]
  cases hkind : t.kind with
  | «attribute» | skill | inheritedSkill => rfl
  | leveledAdvantage cost | plainAdvantage cost =>
    have hcost : t.ownFormula? = some cost := by rw [Trait.ownFormula?, hkind]
    dsimp only
    rw [Formula.integer?_congr (readerFrom_agree hdb (hbase cost hcost))]

theorem collectPercents_congr (hdb : s.database = s'.database) {effects : List (Nat × Effect)}
    (howners : ∀ p ∈ effects, s.purchasedAt p.1 = s'.purchasedAt p.1)
    (heffects : ∀ p ∈ effects, SeeAlike s s' levels levels' (s.database.placesIn p.2.formula))
    (pools : Cost.Pools) :
    s.collectPercents levels pools effects = s'.collectPercents levels' pools effects := by
  induction effects generalizing pools with
  | nil => rfl
  | cons p rest ih =>
    obtain ⟨owner, effect⟩ := p
    obtain ⟨howner, howners⟩ := List.forall_mem_cons.1 howners
    obtain ⟨heffect, heffects⟩ := List.forall_mem_cons.1 heffects
    rw [collectPercents, collectPercents]
    cases effect.kind with
    | level => exact ih howners heffects pools
    | cost sign =>
      dsimp only
      rw [← howner, Formula.percent?_congr (readerFrom_agree hdb heffect)]
      simp only [ih howners heffects]

/-- **What a cost rests on**: the purchases of the trait and of the owners of the effects on it, and
what can be read at the places in its own formula and in those of the effects. -/
theorem costFrom_congr (hdb : s.database = s'.database)
    (hown : s.purchasedAt i = s'.purchasedAt i)
    (howners : ∀ t, s.database.trait? i = some t →
      ∀ ref ∈ t.effectedBy, s.purchasedAt ref.owner = s'.purchasedAt ref.owner)
    (hbase : ∀ t, s.database.trait? i = some t → ∀ f, t.ownFormula? = some f →
      SeeAlike s s' levels levels' (s.database.placesIn f))
    (heffects : ∀ t, s.database.trait? i = some t →
      ∀ ref ∈ t.effectedBy, ∀ effect, s.database.effect? ref = some effect →
        SeeAlike s s' levels levels' (s.database.placesIn effect.formula)) :
    s.costFrom levels i = s'.costFrom levels' i := by
  rw [costFrom, costFrom, ← hdb]
  cases ht : s.database.trait? i with
  | none => rfl
  | some t =>
    have hpercents : s.collectPercents levels .empty (s.activeEffects t) =
        s'.collectPercents levels' .empty (s.activeEffects t) := by
      refine collectPercents_congr hdb (fun p hp ↦ ?_) (fun p hp ↦ ?_) .empty <;>
        obtain ⟨ref, href, hplace, -, heffect⟩ := mem_activeEffects.1 hp
      · exact hplace ▸ howners t ht ref href
      · exact heffects t ht ref href _ heffect
    dsimp only
    rw [← activeEffects_congr hdb (howners t ht), baseCostFrom_congr hdb hown (hbase t ht),
      hpercents]

/-! ### Levels that are never given up -/

section Total

variable (h : ∀ j, levels j ≠ none)

include h

theorem truthFrom_ne_none : s.truthFrom levels i ≠ none := by
  rw [truthFrom]
  split
  case h_2 | h_3 =>
    obtain ⟨level, hlevel⟩ := Option.ne_none_iff_exists'.1 (h i)
    rw [hlevel]
    exact Option.some_ne_none _
  all_goals exact Option.some_ne_none _

theorem readerFrom_total : (s.readerFrom levels).Total where
  level name := by
    rw [readerFrom]
    dsimp only
    split
    · exact h _
    · exact Option.some_ne_none _
  truth name := by
    rw [readerFrom]
    dsimp only
    split
    · exact truthFrom_ne_none h
    · exact Option.some_ne_none _

theorem baseFrom_ne_none : s.baseFrom levels i t ≠ none := by
  rw [baseFrom]
  cases t.kind with
  | leveledAdvantage | plainAdvantage => exact Option.some_ne_none _
  | «attribute» formula => exact Formula.integer?_ne_none (readerFrom_total h)
  | skill | inheritedSkill =>
    dsimp only
    split
    · exact Option.some_ne_none _
    · split
      · exact bind_ne_none (Formula.integer?_ne_none (readerFrom_total h))
          fun _ ↦ Option.some_ne_none _
      · exact Option.some_ne_none _

theorem addBonuses_ne_none (sum : Amount) (effects : List (Nat × Effect)) :
    s.addBonuses levels sum effects ≠ none := by
  induction effects generalizing sum with
  | nil => exact Option.some_ne_none _
  | cons p rest ih =>
    rw [addBonuses]
    cases p.2.kind with
    | cost => exact ih sum
    | level =>
      refine bind_ne_none (Formula.integer?_ne_none (readerFrom_total h)) fun bonus ↦ ?_
      cases bonus <;> exact ih _

/-- A level is given up only where the levels that it is computed from are. -/
theorem levelFrom_ne_none : s.levelFrom levels i ≠ none := by
  rw [levelFrom]
  cases s.database.trait? i with
  | none => exact Option.some_ne_none _
  | some t =>
    refine bind_ne_none (baseFrom_ne_none h) fun base ↦ ?_
    cases base with
    | none => exact Option.some_ne_none _
    | some base => exact bind_ne_none (addBonuses_ne_none h _ _) fun _ ↦ Option.some_ne_none _

theorem baseCostFrom_ne_none : s.baseCostFrom levels i t ≠ none := by
  rw [baseCostFrom]
  cases t.kind with
  | «attribute» | skill | inheritedSkill => exact Option.some_ne_none _
  | leveledAdvantage cost | plainAdvantage cost =>
    dsimp only
    split
    · exact Option.some_ne_none _
    · exact bind_ne_none (Formula.integer?_ne_none (readerFrom_total h))
        fun _ ↦ Option.some_ne_none _

theorem collectPercents_ne_none (pools : Cost.Pools) (effects : List (Nat × Effect)) :
    s.collectPercents levels pools effects ≠ none := by
  induction effects generalizing pools with
  | nil => exact Option.some_ne_none _
  | cons p rest ih =>
    rw [collectPercents]
    cases p.2.kind with
    | level => exact ih pools
    | cost sign =>
      refine bind_ne_none (Formula.percent?_ne_none (readerFrom_total h)) fun percent ↦ ?_
      cases percent <;> cases sign <;> exact ih _

/-- A cost is given up only where the levels that it is computed from are. -/
theorem costFrom_ne_none : s.costFrom levels i ≠ none := by
  rw [costFrom]
  cases s.database.trait? i with
  | none => exact Option.some_ne_none _
  | some t =>
    refine bind_ne_none (baseCostFrom_ne_none h) fun base ↦ ?_
    cases base with
    | none => exact Option.some_ne_none _
    | some base => exact bind_ne_none (collectPercents_ne_none h _ _) fun _ ↦ Option.some_ne_none _

end Total

end Sheet
end PointBuy
