import PointBuy.Proofs.Database.Linking
import PointBuy.Proofs.Trait.Relocation

/-!
# Databases at other places

No check looks at a location, and what is noted at a trait is not either. So where the traits of two
databases differ in nothing but their locations (`RelocatedBy`), the analysis of the one succeeds
where that of the other does, and notes the same, and the traits are shown in the same ways. How the
locations differ may depend on the place of the trait.

## Main definition

* `Database.RelocatedBy` : the same traits at the same places, with other locations.

## Main statements

* `RelocatedBy.noted`, `RelocatedBy.present` : what the stages make of them differs no more.
* `RelocatedBy.analyze` : a database with other locations is analyzed as well.
-/

namespace PointBuy

namespace Trait

variable (f : Location → Location) (t : Trait)

theorem stripped_relocated : (t.relocated f).stripped = t.stripped := by
  simp only [relocated, stripped, Array.map_map]
  rfl

theorem kind_relocated : (t.relocated f).kind = t.kind := rfl

end Trait

namespace Database

variable {f : Nat → Location → Location} {db db' : Database} {t : Trait} {i : Nat}

/-- **The same traits with other locations**, at the same places and under the same names. -/
structure RelocatedBy (f : Nat → Location → Location) (db db' : Database) : Prop where
  index_eq : db'.index = db.index
  trait?_eq : ∀ i, db'.trait? i = (db.trait? i).map (Trait.relocated (f i))

namespace RelocatedBy

variable (h : RelocatedBy f db db')

include h

theorem indexOf?_eq (name : String) : db'.indexOf? name = db.indexOf? name := by
  rw [indexOf?, indexOf?, h.index_eq]

theorem size_eq : db'.size = db.size := by
  have hle (i : Nat) : db'.size ≤ i ↔ db.size ≤ i := by
    rw [← trait?_eq_none_iff, ← trait?_eq_none_iff, h.trait?_eq, Option.map_eq_none_iff]
  exact Nat.le_antisymm ((hle _).2 (Nat.le_refl _)) ((hle _).1 (Nat.le_refl _))

/-- A name stands for a trait of the same kind. -/
theorem map_kind_find?_eq (name : String) :
    (db'.find? name).map Trait.kind = (db.find? name).map Trait.kind := by
  rw [find?, find?, h.indexOf?_eq, Option.map_bind, Option.map_bind]
  refine Option.bind_congr fun i _ ↦ ?_
  rw [Function.comp_apply, Function.comp_apply, h.trait?_eq, Option.map_map]
  rfl

theorem checkName_eq (g : Location → Location) (sort : ValueSort) (name : String) :
    Scope.checkName ⟨db', t.relocated g⟩ sort name = Scope.checkName ⟨db, t⟩ sort name := by
  have hkind := congrArg (Option.map (Scope.admits sort)) (h.map_kind_find?_eq name)
  rw [Option.map_map, Option.map_map] at hkind
  exact Scope.checkName_congr hkind

/-- Formulas have the same sorts. -/
theorem check_eq (g : Location → Location) (sort : ValueSort) (formula : Formula) :
    Scope.check ⟨db', t.relocated g⟩ sort formula = Scope.check ⟨db, t⟩ sort formula :=
  Scope.check_congr (h.checkName_eq g) (by rfl) sort formula

theorem admitted {effect : Effect} {target : Nat} (g : Location → Location)
    (hadmitted : db.Admitted t effect target) :
    db'.Admitted (t.relocated g) (effect.relocated g) target where
  indexOf?_eq := (h.indexOf?_eq _).trans hadmitted.indexOf?_eq
  targeted := by
    obtain ⟨u, hu, hobjection⟩ := hadmitted.targeted
    refine ⟨u.relocated (f target), ?_, ?_⟩
    · rw [h.trait?_eq, hu, Option.map_some]
    · exact hobjection
  sorted := (h.check_eq g _ _).trans hadmitted.sorted

theorem passes (g : Location → Location) (hpasses : db.Passes t) :
    db'.Passes (t.relocated g) where
  own formula hformula := (h.check_eq g _ _).trans (hpasses.own formula hformula)
  effects effect heffect := by
    obtain ⟨first, hfirst, rfl⟩ := Array.mem_map.1 heffect
    obtain ⟨target, hadmitted⟩ := hpasses.effects first hfirst
    exact ⟨target, h.admitted g hadmitted⟩

theorem inherits (g : Location → Location) (hinherits : db.Inherits t) :
    db'.Inherits (t.relocated g) := by
  intro parent place difficulty category hkind
  obtain ⟨skill, hskill, hisSkill⟩ := hinherits parent place difficulty category hkind
  have hfound := h.map_kind_find?_eq parent
  rw [hskill] at hfound
  obtain ⟨skill', hskill', hkind'⟩ := Option.map_eq_some_iff.1 hfound
  exact ⟨skill', hskill', by rwa [Trait.isSkill, hkind', ← Trait.isSkill]⟩

/-! ### What is noted -/

/-- Effects have the same targets. -/
theorem allLinks_eq : db'.allLinks = db.allLinks := by
  have htraits : db'.traits.toList.zipIdx =
      db.traits.toList.zipIdx.map fun p ↦ (p.1.relocated (f p.2), p.2) := by
    refine List.ext_getElem? fun i ↦ ?_
    have htrait := h.trait?_eq i
    rw [trait?, trait?] at htrait
    rw [List.getElem?_zipIdx, List.getElem?_map, List.getElem?_zipIdx, Array.getElem?_toList,
      Array.getElem?_toList, htrait, Option.map_map, Option.map_map]
    refine Option.map_congr fun t _ ↦ ?_
    simp only [Function.comp_apply, Nat.zero_add]
  rw [allLinks, allLinks, htraits, List.flatMap_map]
  refine List.flatMap_congr fun p _ ↦ ?_
  rw [linksAt, linksAt, linksFrom, linksFrom, Trait.relocated, Array.toList_map,
    ← List.map_zipIdx, List.filterMap_map]
  refine List.filterMap_congr fun q _ ↦ ?_
  rw [Function.comp_apply]
  exact congrArg (Option.map _) (h.indexOf?_eq _)

/-- The same is noted at both. -/
theorem noted : RelocatedBy f db.noted db'.noted where
  index_eq := h.index_eq
  trait?_eq i := by
    rw [trait?_noted, trait?_noted, h.trait?_eq, h.allLinks_eq, Option.map_map, Option.map_map]
    refine Option.map_congr fun t _ ↦ ?_
    have hresolved : db'.resolved (t.relocated (f i)) = (db.resolved t).relocated (f i) := by
      rw [resolved, resolved, Trait.kind_relocated]
      split
      case h_1 =>
        rw [h.indexOf?_eq]
        rfl
      all_goals rfl
    rw [Function.comp_apply, Function.comp_apply, hresolved]
    rfl

/-! ### What is checked -/

theorem dressed_stripped_eq : db'.dressed Trait.stripped = db.dressed Trait.stripped := by
  obtain ⟨traits, index⟩ := db
  obtain ⟨traits', index'⟩ := db'
  obtain rfl := h.index_eq
  refine congrArg (Database.mk · _) (Array.ext_getElem? fun i ↦ ?_)
  have htrait := h.trait?_eq i
  rw [trait?, trait?] at htrait
  dsimp only at htrait
  rw [Array.getElem?_map, Array.getElem?_map, htrait, Option.map_map]
  exact Option.map_congr fun t _ ↦ t.stripped_relocated (f i)

theorem graph_eq (relation : Relation) : db'.graph relation = db.graph relation := by
  have hstripped (t : Trait) : t.stripped.stripped = t.stripped := by
    simp only [Trait.stripped, Array.map_map]
    rfl
  rw [← graph_dressed hstripped, h.dressed_stripped_eq, graph_dressed hstripped]

theorem checkCycles (relation : Relation) (hcycles : db.checkCycles relation = .ok ()) :
    db'.checkCycles relation = .ok () := by
  rw [Database.checkCycles, Except.mapError_eq_ok_iff] at hcycles ⊢
  rw [h.graph_eq]
  exact hcycles

theorem misplacement?_eq (g : Location → Location) :
    db'.misplacement? (t.relocated g) = db.misplacement? t := by
  have hcategory (i : Nat) : db'.isCategory i = db.isCategory i := by
    rw [isCategory, isCategory, h.trait?_eq, Option.any_map]
    rfl
  have hparent (i : Nat) : db'.parentOf? i = db.parentOf? i := by
    rw [parentOf?, parentOf?, h.trait?_eq, Option.bind_map]
    rfl
  simp only [misplacement?, hcategory, hparent]
  rfl

theorem checkSpecialties (hspecialties : db.checkSpecialties = .ok ()) :
    db'.checkSpecialties = .ok () := by
  rw [Database.checkSpecialties, Except.forM_eq_ok_iff] at hspecialties ⊢
  rw [forall_mem_traits] at hspecialties ⊢
  intro i t' ht'
  rw [h.trait?_eq] at ht'
  obtain ⟨t, ht, rfl⟩ := Option.map_eq_some_iff.1 ht'
  have hplaced := hspecialties i t ht
  rw [h.misplacement?_eq]
  split at hplaced
  case h_1 => cases hplaced
  case h_2 => rfl

/-- **A database with other locations is analyzed as well.** -/
theorem analyze (hanalyzed : db.analyze = .ok db.noted) : db'.analyze = .ok db'.noted := by
  obtain ⟨-, hpasses, hinherits, hcycles, hspecialties⟩ := analyze_eq_ok_iff.1 hanalyzed
  have htrait {i : Nat} {t' : Trait} (ht' : db'.trait? i = some t') :
      ∃ t, db.trait? i = some t ∧ t.relocated (f i) = t' :=
    Option.map_eq_some_iff.1 ((h.trait?_eq i).symm.trans ht')
  refine analyze_eq_ok_iff.2 ⟨rfl, fun i t' ht' ↦ ?_, fun i t' ht' ↦ ?_,
    fun relation ↦ h.noted.checkCycles relation (hcycles relation),
    h.noted.checkSpecialties hspecialties⟩
  · obtain ⟨t, ht, rfl⟩ := htrait ht'
    exact h.passes (f i) (hpasses i t ht)
  · obtain ⟨t, ht, rfl⟩ := htrait ht'
    exact h.inherits (f i) (hinherits i t ht)

/-! ### How it is shown -/

theorem present (preferences : LoadPreferences) :
    RelocatedBy f (db.present preferences) (db'.present preferences) := by
  by_cases htweaks : preferences.tweaksPresentation = true
  · rw [Database.present, Database.present, if_pos htweaks, if_pos htweaks]
    refine ⟨h.index_eq, fun i ↦ ?_⟩
    have hshown (db : Database) (i : Nat) : db.withTweaks.trait? i = (db.trait? i).map tweak :=
      Array.getElem?_map
    rw [hshown, hshown, h.trait?_eq, Option.map_map, Option.map_map]
    refine Option.map_congr fun t _ ↦ ?_
    rw [Function.comp_apply, Function.comp_apply, tweak_eq, tweak_eq]
    rfl
  · rw [Database.present, Database.present, if_neg htweaks, if_neg htweaks]
    exact h

end RelocatedBy
end Database
end PointBuy
