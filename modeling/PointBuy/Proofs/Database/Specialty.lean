import PointBuy.Proofs.Database.Lineage
import PointBuy.Proofs.Database.WellFormed

/-!
# Specialties

What may stand below what is checked of each skill by itself, by a look at its parent and at the
parent of its parent (`Database.Placed`). This module says what follows for lineages of any length:
they are categories from the second step on, so that a step that leads to anything else is the
first one. Since it is such steps that make a skill easier, no skill gets easier more than once.

## Main definition

* `Database.Placed` : what is checked of a skill, its parent and the parent of its parent.

## Main statement

* `Database.specialty_rules` : where categories stand in a lineage, and the difficulties below them.
-/

namespace PointBuy.Database

variable {db : Database} {i j : Nat} {above : List Nat} {t : Trait}

/-! ### What is checked of each skill -/

/-- **The rules for specialties**: a category is a specialty of a category, and any other skill is
one of a category, of a skill that inherits nothing, or of a skill directly below a category. -/
structure Placed (db : Database) : Prop where
  category : ∀ {i j}, db.parentOf? i = some j → db.isCategory i = true → db.isCategory j = true
  specialty : ∀ {i j k}, db.parentOf? i = some j → db.parentOf? j = some k →
    db.isCategory i = false → db.isCategory k = true

theorem isCategory_of_trait? (ht : db.trait? i = some t) : db.isCategory i = t.isCategory := by
  rw [isCategory, ht, Option.any_some]

/-- A check of all skills finds nothing where they keep to the rules. -/
theorem placed_of_checkSpecialties (h : db.checkSpecialties = .ok ()) : db.Placed := by
  have hrules {i j : Nat} (hparent : db.parentOf? i = some j) :
      (db.isCategory i = true → db.isCategory j = true) ∧
        (db.isCategory i = false → ∀ k, db.parentOf? j = some k → db.isCategory k = true) := by
    obtain ⟨t, ht, hindex⟩ := Option.bind_eq_some_iff.1 hparent
    rw [isCategory_of_trait? ht]
    exact misplacement?_eq_none_iff.1 (checkSpecialties_eq_ok_iff.1 h i t ht) j hindex
  exact ⟨fun hparent ↦ (hrules hparent).1,
    fun hparent hgrandparent hnone ↦ (hrules hparent).2 hnone _ hgrandparent⟩

section Dressed

variable {dress : Trait → Trait} (hdress : ∀ t, (dress t).stripped = t.stripped)

include hdress

theorem isCategory_dressed (i : Nat) : (db.dressed dress).isCategory i = db.isCategory i := by
  have hcategory (t : Trait) : (dress t).isCategory = t.isCategory :=
    (congrArg Trait.isCategory (hdress t) :)
  rw [isCategory, isCategory, trait?_dressed, Option.any_map]
  exact congrArg (Option.any · _) (funext hcategory)

/-- The rules do not depend on how traits are shown. -/
theorem Placed.dressed (h : db.Placed) : (db.dressed dress).Placed := by
  constructor
  · intro i j hparent hcategory
    rw [parentOf?_dressed hdress] at hparent
    rw [isCategory_dressed hdress] at hcategory ⊢
    exact h.category hparent hcategory
  · intro i j k hparent hgrandparent hnone
    rw [parentOf?_dressed hdress] at hparent hgrandparent
    rw [isCategory_dressed hdress] at hnone ⊢
    exact h.specialty hparent hgrandparent hnone

end Dressed

/-- **Every loaded database keeps to the rules.** -/
theorem placed_of_load {sources : List Source} {preferences : LoadPreferences}
    (h : load sources preferences = .ok db) : db.Placed := by
  obtain ⟨registered, -, hanalyzed, rfl⟩ := exists_registered_of_load h
  obtain ⟨-, -, -, -, hspecialties⟩ := analyze_eq_ok_iff.1 hanalyzed
  obtain ⟨dress, heq, hdress⟩ := present_eq_dressed registered.noted preferences
  rw [heq]
  exact (placed_of_checkSpecialties hspecialties).dressed fun t ↦ (hdress t).stripped_eq

/-! ### Lineages of any length -/

namespace Placed

variable (h : db.Placed)

include h

/-- All that stands above a category is a category. -/
theorem isCategory_of_mem_above (hlineage : db.Lineage i above) (hi : db.isCategory i = true) :
    ∀ a ∈ above, db.isCategory a = true := by
  induction hlineage with
  | root => exact fun _ ha ↦ nomatch ha
  | link parent rest ih =>
    have hparent := h.category parent hi
    exact List.forall_mem_cons.2 ⟨hparent, ih hparent⟩

/-- All that stands above the parent of a skill is a category. -/
theorem isCategory_of_mem_tail (hlineage : db.Lineage i above) :
    ∀ a ∈ above.tail, db.isCategory a = true := by
  cases hlineage with
  | root => exact fun _ ha ↦ nomatch ha
  | @link _ j above parent rest =>
    cases hi : db.isCategory i with
    | true => exact h.isCategory_of_mem_above rest (h.category parent hi)
    | false =>
      -- the parent of the parent is a category, and so is all above that
      cases rest with
      | root => exact fun _ ha ↦ nomatch ha
      | link grandparent rest =>
        have hcategory := h.specialty parent grandparent hi
        exact List.forall_mem_cons.2 ⟨hcategory, h.isCategory_of_mem_above rest hcategory⟩

/-- Along a lineage, all that comes after a category is one. -/
theorem pairwise_isCategory (hlineage : db.Lineage i above) :
    (i :: above).Pairwise fun a b ↦ db.isCategory a = true → db.isCategory b = true := by
  induction hlineage with
  | root => exact List.pairwise_singleton _ _
  | link parent rest ih =>
    refine List.pairwise_cons.2 ⟨fun b hb hcategory ↦ ?_, ih⟩
    exact h.isCategory_of_mem_above (.link parent rest) hcategory b hb

end Placed

/-- Below categories the difficulty does not change on the way. -/
theorem difficultyFrom_of_categories {rounds : Nat} (hlineage : db.Lineage i above)
    (hcategories : ∀ a ∈ above, db.isCategory a = true) (hrounds : above.length < rounds)
    (steps : Nat) : db.difficultyFrom rounds steps i =
      ((i :: above).findSome? db.writtenDifficulty?).map (Difficulty.eased · steps) := by
  induction hlineage generalizing rounds with
  | @root i parent =>
    obtain ⟨rounds, rfl⟩ := Nat.exists_eq_add_one_of_ne_zero (Nat.ne_zero_of_lt hrounds)
    rw [difficultyFrom_succ, parent, List.findSome?_cons]
    cases db.writtenDifficulty? i <;> rfl
  | @link i j above parent _ ih =>
    obtain ⟨hj, habove⟩ := List.forall_mem_cons.1 hcategories
    obtain ⟨rounds, rfl⟩ := Nat.exists_eq_add_one_of_ne_zero (Nat.ne_zero_of_lt hrounds)
    rw [difficultyFrom_succ, parent, List.findSome?_cons]
    cases db.writtenDifficulty? i with
    | some difficulty => rfl
    | none =>
      dsimp only
      rw [Option.bind_some, if_pos hj]
      exact ih habove (Nat.lt_of_succ_lt_succ hrounds)

/-- Where all above the parent are categories, a skill without a difficulty of its own is as hard as
the first difficulty above it says, or one step easier. -/
theorem difficulty?_of_tail (hlineage : db.Lineage i (j :: above))
    (hown : db.writtenDifficulty? i = none) (hcategories : ∀ a ∈ above, db.isCategory a = true) :
    db.difficulty? i = ((j :: above).findSome? db.writtenDifficulty?).map fun difficulty ↦
      if db.isCategory j then difficulty else difficulty.easier := by
  have hrounds : above.length < db.size := hlineage.length_le
  cases hlineage with
  | link parent rest =>
    rw [difficulty?, difficultyFrom_succ, hown, parent]
    dsimp only
    rw [Option.bind_some, difficultyFrom_of_categories rest hcategories hrounds]
    cases db.isCategory j <;> rfl

/-! ### Loaded databases -/

/-- Where categories stand in the lineage of a skill, and what follows for its difficulty. -/
structure Specialized (db : Database) (i : Nat) (above : List Nat) : Prop where
  lineage : db.Lineage i above
  /-- All that comes after a category is a category. -/
  afterCategory :
    (i :: above).Pairwise fun a b ↦ db.isCategory a = true → db.isCategory b = true
  /-- All above the skill are categories, except perhaps for its parent. -/
  aboveParent : ∀ a ∈ above.tail, db.isCategory a = true
  /-- A skill without a difficulty of its own has the first one above it, which gets easier at most
  once. -/
  difficulty : ∀ t name place category, db.trait? i = some t →
    t.kind = .inheritedSkill name place none category → ∃ parent difficulty,
      above.head? = some parent ∧ above.findSome? db.writtenDifficulty? = some difficulty ∧
      db.difficulty? i = some (if db.isCategory parent then difficulty else difficulty.easier)

/-- **The rules for specialties bound every lineage** of a loaded database, however long it is. -/
theorem specialty_rules {sources : List Source} {preferences : LoadPreferences}
    (h : load sources preferences = .ok db) (ht : db.trait? i = some t)
    (hskill : t.isSkill = true) : ∃ above, db.Specialized i above := by
  have hplaced := placed_of_load h
  obtain ⟨above, hwalked⟩ := (checked_of_load h).exists_walked ht hskill
  have hcategories := hplaced.isCategory_of_mem_tail hwalked.lineage
  refine ⟨above, hwalked.lineage, hplaced.pairwise_isCategory hwalked.lineage, hcategories,
    fun u name place category hu hkind ↦ ?_⟩
  obtain ⟨difficulty, hdifficulty, -⟩ := hwalked.difficulty
  have hown : db.writtenDifficulty? i = none := by
    rw [writtenDifficulty?, hu, Option.bind_some, Trait.writtenDifficulty?, hkind]
  cases hlineage : hwalked.lineage with
  | root parent =>
    -- without anything above it, the skill would have no difficulty
    rw [difficulty?_eq_none hown parent] at hdifficulty
    cases hdifficulty
  | @link _ j above parent rest =>
    have hfound := difficulty?_of_tail hwalked.lineage hown hcategories
    rw [hfound] at hdifficulty
    obtain ⟨first, hfirst, -⟩ := Option.map_eq_some_iff.1 hdifficulty
    exact ⟨j, first, rfl, hfirst, by rw [hfound, hfirst, Option.map_some]⟩

/-- The specialty of the small database with a lineage: only its parent is no category, and it is
one step easier than the first difficulty, three skills above it. -/
theorem specialty_rules_bladed :
    load [bladesSource] ⟨[], false⟩ = .ok bladed.noted ∧
      bladed.noted.trait? 3 = some (cavalrySaber (some 2)) ∧
      (cavalrySaber (some 2)).isSkill = true ∧ bladed.noted.Specialized 3 [2, 1, 0] ∧
      bladed.noted.isCategory 2 = false ∧
      [2, 1, 0].findSome? bladed.noted.writtenDifficulty? = some .hard := by
  have htrait : bladed.noted.trait? 3 = some (cavalrySaber (some 2)) := by
    rw [noted_bladed]
    rfl
  obtain ⟨above, hspecialized⟩ := specialty_rules load_bladed htrait rfl
  obtain rfl := hspecialized.lineage.unique lineage_bladed
  refine ⟨load_bladed, htrait, rfl, hspecialized, ?_, ?_⟩
  all_goals
    rw [noted_bladed]
    rfl

end PointBuy.Database
