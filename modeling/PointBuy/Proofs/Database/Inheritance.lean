import PointBuy.Proofs.Database.Checked

/-!
# Chains of inheritance

In a checked database a skill that inherits inherits from a skill, and the inheritance graph has no
cycle. So each chain of inheritance is shorter than the number of traits: it ends, and it ends in a
skill that inherits nothing, with a formula and a difficulty of its own.

## Main statement

* `Checked.exists_root` : a chain of inheritance ends in a skill with a formula of its own.
-/

namespace PointBuy.Database

variable {db : Database} {i j root : Nat} {t : Trait}

theorem points_inheritanceGraph : db.inheritanceGraph.Points i j ↔ db.parentOf? i = some j := by
  rw [Graph.Points, Graph.pointedTo, inheritanceGraph, Array.getElem?_map, parentOf?, trait?]
  cases db.traits[i]? with
  | none => simp
  | some t => simp

theorem size_inheritanceGraph : Array.size db.inheritanceGraph = db.size := Array.size_map

/-- Where no chain of inheritance is a cycle, a path that starts from a trait has no more members
than there are traits. -/
theorem length_le_size_of_acyclic (hacyclic : db.inheritanceGraph.Acyclic)
    (hparents : ∀ {i j}, db.parentOf? i = some j → j < db.size) {path : List Nat} (hi : i < db.size)
    (hpath : (i :: path).IsChain db.inheritanceGraph.Points) : (i :: path).length ≤ db.size := by
  rw [← size_inheritanceGraph] at hi ⊢
  refine hacyclic.length_le (fun hpoints ↦ ?_) hi hpath
  rw [size_inheritanceGraph]
  exact hparents (points_inheritanceGraph.1 hpoints)

namespace Checked

variable (h : db.Checked)

include h

/-- A parent is a skill. -/
theorem isSkill_of_parentOf? (hparent : db.parentOf? i = some j) :
    ∃ parent, db.trait? j = some parent ∧ parent.isSkill = true := by
  obtain ⟨t, ht, hindex⟩ := Option.bind_eq_some_iff.1 hparent
  rw [Trait.parentIndex?] at hindex
  split at hindex
  case h_1 hkind =>
    obtain ⟨k, parent, hk, htrait, hskill⟩ := h.parent ht hkind
    rw [hk] at hindex
    exact ⟨parent, Option.some.inj hindex ▸ htrait, hskill⟩
  all_goals cases hindex

/-- A skill without a parent has a formula of its own. -/
theorem kind_of_parentOf?_eq_none (ht : db.trait? i = some t) (hskill : t.isSkill = true)
    (hparent : db.parentOf? i = none) :
    ∃ difficulty base category, t.kind = .skill difficulty base category := by
  rw [parentOf?, ht, Option.bind_some, Trait.parentIndex?] at hparent
  rw [Trait.isSkill] at hskill
  cases hkind : t.kind with
  | skill difficulty base category => exact ⟨difficulty, base, category, rfl⟩
  | inheritedSkill name place difficulty category =>
    obtain ⟨j, -, rfl, -, -⟩ := h.parent ht hkind
    rw [hkind] at hparent
    cases hparent
  | leveledAdvantage | plainAdvantage | «attribute» =>
    rw [hkind] at hskill
    cases hskill

/-- A path in the inheritance graph that starts from a trait has no more members than there are
traits. -/
theorem length_le_size_of_inheritance {path : List Nat} (hi : i < db.size)
    (hpath : (i :: path).IsChain db.inheritanceGraph.Points) : (i :: path).length ≤ db.size := by
  refine length_le_size_of_acyclic (Graph.acyclic_of_search (h.searched .inheritance)) ?_ hi hpath
  intro i j hparent
  obtain ⟨parent, htrait, -⟩ := h.isSkill_of_parentOf? hparent
  exact lt_size_of_trait? htrait

/-- Within more steps than any chain of inheritance from a skill has, its end is found. -/
theorem exists_rootWithin {steps : Nat} (ht : db.trait? i = some t) (hskill : t.isSkill = true)
    (hchains : ∀ path, (i :: path).IsChain db.inheritanceGraph.Points → path.length < steps) :
    ∃ root r difficulty base category, db.rootWithin steps i = some root ∧
      db.trait? root = some r ∧ r.kind = .skill difficulty base category := by
  induction steps generalizing i t with
  | zero => exact absurd (hchains [] (.singleton i)) (Nat.lt_irrefl 0)
  | succ steps ih =>
    rw [rootWithin]
    cases hparent : db.parentOf? i with
    | none =>
      obtain ⟨difficulty, base, category, hkind⟩ := h.kind_of_parentOf?_eq_none ht hskill hparent
      exact ⟨i, t, difficulty, base, category, rfl, ht, hkind⟩
    | some j =>
      obtain ⟨parent, htrait, hparentSkill⟩ := h.isSkill_of_parentOf? hparent
      -- a chain from the parent is shorter by one link
      refine ih htrait hparentSkill fun path hpath ↦ ?_
      have hlt := hchains (j :: path) (.cons_cons (points_inheritanceGraph.2 hparent) hpath)
      rw [List.length_cons] at hlt
      omega

/-- **A chain of inheritance ends in a skill with a formula of its own.** -/
theorem exists_root (ht : db.trait? i = some t) (hskill : t.isSkill = true) :
    ∃ root r difficulty base category, db.inheritanceRoot? i = some root ∧
      db.trait? root = some r ∧ r.kind = .skill difficulty base category := by
  refine h.exists_rootWithin ht hskill fun path hpath ↦ ?_
  have hle := h.length_le_size_of_inheritance (lt_size_of_trait? ht) hpath
  rw [List.length_cons] at hle
  omega

end Checked
end PointBuy.Database
