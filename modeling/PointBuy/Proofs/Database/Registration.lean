import PointBuy.Database.Registration
import PointBuy.Proofs.Except
import Std.Data.HashMap.Lemmas

/-!
# What registered traits look like

A trait enters a database only under a name that is not taken, and its place is noted under that
name. So the index finds exactly the traits that are there, each under its own name, and no two
share one (`Indexed`). A trait that a declaration defines knows nothing of the rest of the database
yet: no effect refers to it, it does not know the place of its parent, and it is shown as a number
(`Trait.Fresh`). Both hold of an empty database and are kept by each trait that enters, and so they
hold however many sources are read.

## Main statements

* `Database.addSources_induction` : what each new trait keeps, all sources keep.
* `Database.registered_of_addSources` : the traits of all sources are indexed and fresh.
-/

namespace PointBuy

/-! ### Traits of declarations -/

namespace Trait

/-- A trait of which nothing is noted that its declaration does not say. -/
structure Fresh (t : Trait) : Prop where
  effectedBy_eq : t.effectedBy = #[]
  format_eq : t.format = .decimal
  parentIndex?_eq : t.parentIndex? = none

/-- What an operator makes of a declaration has no place of a parent. -/
theorem parentIndex?_of_definedKind {location : Location} {text : String} {t : Trait}
    (h : definedKind location text = .ok t.kind) : t.parentIndex? = none := by
  rw [definedKind] at h
  split at h <;> obtain ⟨cost, -, h⟩ := Except.bind_eq_ok_iff.1 h <;>
    rw [parentIndex?, ← Except.ok.inj h]
  cases cost.mentionsLevel <;> rfl

theorem parentIndex?_of_inheritedKind {location : Location} {text : String} {t : Trait}
    (h : inheritedKind location text = .ok t.kind) : t.parentIndex? = none := by
  obtain ⟨formula, -, h⟩ := Except.bind_eq_ok_iff.1 h
  cases formula with
  | trait parent => rw [parentIndex?, ← Except.ok.inj h]
  | integer | percent | boolean | level | negate | binary | conditional => cases h

theorem fresh_of_outer {d : Declaration} {t : Trait} (h : outer d = .ok t) : t.Fresh := by
  rw [outer] at h
  split at h
  · cases h
  · dsimp only at h
    split at h
    case h_1 =>
      obtain ⟨kind, hkind, h⟩ := Except.bind_eq_ok_iff.1 h
      obtain rfl := Except.ok.inj h
      exact ⟨rfl, rfl, parentIndex?_of_definedKind hkind⟩
    case h_2 =>
      obtain ⟨kind, hkind, h⟩ := Except.bind_eq_ok_iff.1 h
      obtain rfl := Except.ok.inj h
      exact ⟨rfl, rfl, parentIndex?_of_inheritedKind hkind⟩
    case h_3 =>
      obtain ⟨kind, hkind, h⟩ := Except.bind_eq_ok_iff.1 h
      obtain rfl := Except.ok.inj h
      obtain ⟨formula, -, rfl⟩ := Except.map_eq_ok_iff.1 hkind
      exact ⟨rfl, rfl, rfl⟩
    all_goals cases h

/-- A part that describes a trait changes what it is, and nothing else. -/
theorem Fresh.describe {t t' : Trait} {part : Declaration} (ht : t.Fresh)
    (h : t.describe part = .ok t') : t'.Fresh := by
  rw [Trait.describe] at h
  split at h
  · cases h
  · obtain ⟨formula, -, h⟩ := Except.bind_eq_ok_iff.1 h
    split at h
    · obtain rfl := Except.ok.inj h
      exact ht
    · split at h
      · split at h
        case h_1 =>
          obtain rfl := Except.ok.inj h
          exact ⟨ht.effectedBy_eq, ht.format_eq, rfl⟩
        case h_2 hkind =>
          obtain rfl := Except.ok.inj h
          have hparent := ht.parentIndex?_eq
          rw [parentIndex?, hkind] at hparent
          exact ⟨ht.effectedBy_eq, ht.format_eq, hparent⟩
        all_goals cases h
      · cases h

/-- A part that changes another trait adds an effect, and nothing else. -/
theorem Fresh.change {t t' : Trait} {part : Declaration} {lowers : Bool} (ht : t.Fresh)
    (h : t.change part lowers = .ok t') : t'.Fresh := by
  rw [Trait.change] at h
  obtain ⟨formula, -, h⟩ := Except.bind_eq_ok_iff.1 h
  obtain ⟨⟨kind, formula⟩, -, h⟩ := Except.bind_eq_ok_iff.1 h
  dsimp only at h
  split at h
  · cases h
  · obtain rfl := Except.ok.inj h
    exact ⟨ht.effectedBy_eq, ht.format_eq, ht.parentIndex?_eq⟩

theorem Fresh.addPart {t t' : Trait} {part : Declaration} (ht : t.Fresh)
    (h : t.addPart part = .ok t') : t'.Fresh := by
  rw [Trait.addPart] at h
  split at h
  · exact ht.describe h
  · split at h
    case h_1 | h_2 => exact ht.change h
    case h_3 =>
      split at h
      · cases h
      · obtain rfl := Except.ok.inj h
        exact ht
    all_goals cases h

/-- The trait of a declaration is fresh. -/
theorem fresh_of_ofDeclaration {d : Declaration} {t : Trait} (h : ofDeclaration d = .ok t) :
    t.Fresh := by
  obtain ⟨t₀, hstart, hparts⟩ := Except.bind_eq_ok_iff.1 h
  have hfresh : t₀.Fresh := fresh_of_outer hstart
  clear hstart h
  generalize d.parts = parts at hparts
  induction parts generalizing t₀ with
  | nil =>
    obtain rfl := Except.ok.inj hparts
    exact hfresh
  | cons part parts ih =>
    rw [List.foldlM_cons] at hparts
    obtain ⟨t₁, hpart, hparts⟩ := Except.bind_eq_ok_iff.1 hparts
    exact ih t₁ (hfresh.addPart hpart) hparts

end Trait

namespace Database

variable {db db' : Database} {t : Trait} {i : Nat} {name : String}

/-! ### The index -/

/-- The index finds exactly the traits that are there, each under its name. -/
def Indexed (db : Database) : Prop :=
  ∀ name i, db.indexOf? name = some i ↔ ∃ t, db.trait? i = some t ∧ t.name = name

theorem Indexed.exists_trait (h : db.Indexed) (hi : db.indexOf? name = some i) :
    ∃ t, db.trait? i = some t ∧ t.name = name :=
  (h name i).1 hi

theorem lt_size_of_trait? (ht : db.trait? i = some t) : i < db.size :=
  (Array.getElem?_eq_some_iff.1 ht).1

theorem exists_trait?_of_lt (hi : i < db.size) : ∃ t, db.trait? i = some t :=
  ⟨_, Array.getElem?_eq_getElem hi⟩

theorem trait?_eq_none_iff : db.trait? i = none ↔ db.size ≤ i := Array.getElem?_eq_none_iff

theorem Indexed.lt_size (h : db.Indexed) (hi : db.indexOf? name = some i) : i < db.size := by
  obtain ⟨t, ht, -⟩ := h.exists_trait hi
  exact lt_size_of_trait? ht

/-- Names are pairwise different. -/
theorem Indexed.eq_of_name_eq (h : db.Indexed) {j : Nat} {t' : Trait} (ht : db.trait? i = some t)
    (ht' : db.trait? j = some t') (hname : t.name = t'.name) : i = j := by
  have hi : db.indexOf? t.name = some i := (h t.name i).2 ⟨t, ht, rfl⟩
  have hj : db.indexOf? t.name = some j := (h t.name j).2 ⟨t', ht', hname.symm⟩
  exact Option.some.inj (hi.symm.trans hj)

theorem Indexed.find?_eq_some_iff (h : db.Indexed) :
    db.find? name = some t ↔ ∃ i, db.trait? i = some t ∧ t.name = name := by
  rw [find?, Option.bind_eq_some_iff]
  constructor
  · rintro ⟨i, hi, ht⟩
    obtain ⟨t', ht', hname⟩ := h.exists_trait hi
    obtain rfl := Option.some.inj (ht'.symm.trans ht)
    exact ⟨i, ht, hname⟩
  · rintro ⟨i, ht, hname⟩
    exact ⟨i, (h name i).2 ⟨t, ht, hname⟩, ht⟩

theorem indexed_empty : empty.Indexed := by
  intro name i
  simp [empty, indexOf?, trait?]

theorem trait?_push : (db.push t).trait? i = if i = db.size then some t else db.trait? i := by
  rw [trait?, push, Array.getElem?_push]
  rfl

theorem indexOf?_push :
    (db.push t).indexOf? name = if t.name = name then some db.size else db.indexOf? name := by
  rw [indexOf?, push, Std.HashMap.getElem?_insert]
  simp only [beq_iff_eq]
  rfl

/-- A trait whose name is not taken keeps the index right. -/
theorem Indexed.push (h : db.Indexed) (hfree : db.find? t.name = none) : (db.push t).Indexed := by
  intro name i
  rw [indexOf?_push, trait?_push]
  by_cases hi : i = db.size
  · -- the new place is not in the old index
    subst hi
    have hnone (name : String) : db.indexOf? name ≠ some db.size :=
      fun hname ↦ Nat.lt_irrefl _ (h.lt_size hname)
    by_cases hname : t.name = name <;> simp [hname, hnone]
  · rw [if_neg hi, ← h name i]
    by_cases hname : t.name = name
    · subst hname
      have hnone : db.indexOf? t.name ≠ some i := by
        intro hplace
        obtain ⟨t', ht', hname'⟩ := h.exists_trait hplace
        rw [h.find?_eq_some_iff.2 ⟨i, ht', hname'⟩] at hfree
        cases hfree
      simp [hnone, Ne.symm hi]
    · rw [if_neg hname]

/-- A trait may enter where its name is not taken and there is room. -/
theorem refusal?_eq_none_iff :
    db.refusal? t = none ↔ db.find? t.name = none ∧ db.size < Limits.traits := by
  rw [refusal?]
  cases db.find? t.name with
  | some first => simp
  | none => simp

/-! ### Sources -/

section Induction

variable {P : Database → Prop}
  (hpush : ∀ {db : Database} {t : Trait}, P db → (∃ d, Trait.ofDeclaration d = .ok t) →
    db.refusal? t = none → P (db.push t))

include hpush

theorem registerAll_induction {ts : List Trait} (hdb : P db)
    (hts : ∀ t ∈ ts, ∃ d, Trait.ofDeclaration d = .ok t) : P (db.registerAll ts).1 := by
  induction ts generalizing db with
  | nil => exact hdb
  | cons t ts ih =>
    obtain ⟨ht, hts⟩ := List.forall_mem_cons.1 hts
    rw [registerAll]
    cases hrefusal : db.refusal? t with
    | some e => exact hdb
    | none => exact ih (hpush hdb ht hrefusal) hts

theorem addSource_induction {source : Source} (hdb : P db) : P (db.addSource source).1 := by
  rw [addSource]
  cases htraits : source.traits with
  | error e => exact hdb
  | ok ts =>
    obtain ⟨ds, -, hds⟩ := Except.bind_eq_ok_iff.1 htraits
    have hts (t : Trait) (ht : t ∈ ts) : ∃ d, Trait.ofDeclaration d = .ok t := by
      obtain ⟨d, -, hd⟩ := Except.exists_mem_of_mapM (Except.mapError_eq_ok_iff.1 hds) ht
      exact ⟨d, hd⟩
    have hall := registerAll_induction hpush hdb hts
    dsimp only
    split
    case h_1 heq | h_2 heq => rwa [heq] at hall

/-- What each new trait keeps, all sources keep. -/
theorem addSources_induction {sources : List Source} (hdb : P db)
    (h : db.addSources sources = .ok db') : P db' := by
  induction sources generalizing db with
  | nil =>
    obtain rfl := Except.ok.inj h
    exact hdb
  | cons source rest ih =>
    have hsource : P (db.addSource source).1 := addSource_induction hpush hdb
    rw [addSources] at h
    split at h
    case h_1 heq =>
      rw [heq] at hsource
      exact ih hsource h
    case h_2 => cases h

end Induction

/-- **The invariant of registration.** -/
structure Registered (db : Database) : Prop where
  indexed : db.Indexed
  fresh : ∀ i t, db.trait? i = some t → t.Fresh

theorem registered_empty : empty.Registered where
  indexed := indexed_empty
  fresh i t ht := by simp [empty, trait?] at ht

theorem Registered.push (h : db.Registered) (ht : t.Fresh) (hrefusal : db.refusal? t = none) :
    (db.push t).Registered where
  indexed := h.indexed.push (refusal?_eq_none_iff.1 hrefusal).1
  fresh i t' ht' := by
    rw [trait?_push] at ht'
    split at ht'
    · exact Option.some.inj ht' ▸ ht
    · exact h.fresh i t' ht'

/-- **The traits of all sources are indexed and fresh.** -/
theorem registered_of_addSources {sources : List Source}
    (h : empty.addSources sources = .ok db) : db.Registered := by
  refine addSources_induction (fun hdb ⟨d, hd⟩ hrefusal ↦ ?_) registered_empty h
  exact hdb.push (Trait.fresh_of_ofDeclaration hd) hrefusal

end Database
end PointBuy
