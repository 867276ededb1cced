import PointBuy.Proofs.Database.WellFormed
import PointBuy.Proofs.Graph.Depth

/-!
# The same traits in another order

Traits find one another by their names. So if the same traits are defined in another order, each of
them stands at another place, but what it inherits from and whose levels it reads are the same
traits as before: a path in a graph of the one database leads over the same traits in that of the
other.

What this says of a whole analysis is one-sided. Where no path is too long, none is in any other
order, and no search can go too deep. Where some are, it is a matter of the order whether a search
meets one in a single descent.

## Main definitions

* `Database.Reordered` : the same traits in another order.
* `Database.Counterpart` : the places of one trait in the two orders.

## Main statement

* `Database.Reordered.checkCycles_eq_ok` : where no path is too long, the traits are accepted in
  every order.
-/

namespace PointBuy.Database

variable {db db' : Database} {t : Trait} {i i' j root : Nat} {path : List Nat} {f : Formula}

/-- **The same traits in another order**, at which nothing has been noted yet. Their locations may
be other ones, as they are where lines of a source change places. -/
structure Reordered (db db' : Database) : Prop where
  bare : db.Bare
  bare' : db'.Bare
  perm : (db.traits.toList.map Trait.stripped).Perm (db'.traits.toList.map Trait.stripped)

/-- `db.Counterpart db' i i'` : the trait at the place `i` of the one database is the one at the
place `i'` of the other. -/
def Counterpart (db db' : Database) (i i' : Nat) : Prop :=
  ∃ t t', db.trait? i = some t ∧ db'.trait? i' = some t' ∧ t'.stripped = t.stripped

theorem Counterpart.exists_trait (hi : Counterpart db db' i i') (ht : db.trait? i = some t) :
    ∃ t', db'.trait? i' = some t' ∧ t'.stripped = t.stripped := by
  obtain ⟨first, t', hfirst, ht', hstripped⟩ := hi
  obtain rfl := Option.some.inj (ht.symm.trans hfirst)
  exact ⟨t', ht', hstripped⟩

namespace Reordered

variable (h : Reordered db db')

include h

theorem symm : Reordered db' db := ⟨h.bare', h.bare, h.perm.symm⟩

/-! ### Places -/

theorem exists_counterpart (ht : db.trait? i = some t) : ∃ i', Counterpart db db' i i' := by
  have hmem : t.stripped ∈ db.traits.toList.map Trait.stripped :=
    List.mem_map_of_mem (Array.mem_toList_iff.2 (Array.mem_of_getElem? ht))
  obtain ⟨t', ht', hstripped⟩ := List.mem_map.1 (h.perm.mem_iff.1 hmem)
  obtain ⟨i', hi'⟩ := Array.mem_iff_getElem?.1 (Array.mem_toList_iff.1 ht')
  exact ⟨i', t, t', ht, hi', hstripped⟩

/-- The name of a trait is found at its counterpart. -/
theorem indexOf?_of_counterpart {name : String} (hplace : db.indexOf? name = some i)
    (hi : Counterpart db db' i i') : db'.indexOf? name = some i' := by
  obtain ⟨t, ht, hname⟩ := h.bare.indexed.exists_trait hplace
  obtain ⟨t', ht', hstripped⟩ := hi.exists_trait ht
  have hname' : t'.name = t.name := (congrArg Trait.name hstripped :)
  exact (h.bare'.indexed name i').2 ⟨t', ht', hname'.trans hname⟩

theorem exists_indexOf? {name : String} (hplace : db.indexOf? name = some i) :
    ∃ i', Counterpart db db' i i' ∧ db'.indexOf? name = some i' := by
  obtain ⟨t, ht, -⟩ := h.bare.indexed.exists_trait hplace
  obtain ⟨i', hi⟩ := h.exists_counterpart ht
  exact ⟨i', hi, h.indexOf?_of_counterpart hplace hi⟩

theorem exists_effect? {ref : EffectRef} {effect : Effect} (hfound : db.effect? ref = some effect) :
    ∃ ref' effect', db'.effect? ref' = some effect' ∧ effect'.stripped = effect.stripped := by
  obtain ⟨owner, howner, hmem⟩ := Option.bind_eq_some_iff.1 hfound
  obtain ⟨place, hplace⟩ := h.exists_counterpart howner
  obtain ⟨owner', howner', hstripped⟩ := hplace.exists_trait howner
  have heffects : owner'.effects.map Effect.stripped = owner.effects.map Effect.stripped :=
    (congrArg Trait.effects hstripped :)
  have hmem' : (owner'.effects.map Effect.stripped)[ref.effect]? = some effect.stripped := by
    rw [heffects, Array.getElem?_map, hmem, Option.map_some]
  rw [Array.getElem?_map] at hmem'
  obtain ⟨effect', heffect', heq⟩ := Option.map_eq_some_iff.1 hmem'
  refine ⟨⟨place, ref.effect⟩, effect', ?_, heq⟩
  rw [effect?, howner', Option.bind_some, heffect']

/-! ### What traits rest on -/

/-- A trait inherits from the same trait. -/
theorem inheritsFrom (hinherits : db.InheritsFrom i j) (hi : Counterpart db db' i i') :
    ∃ j', Counterpart db db' j j' ∧ db'.InheritsFrom i' j' := by
  obtain ⟨t, parent, ht, hname, hplace⟩ := hinherits
  obtain ⟨t', ht', hstripped⟩ := hi.exists_trait ht
  obtain ⟨j', hj', hplace'⟩ := h.exists_indexOf? hplace
  have hname' : t'.parentName? = t.parentName? := (congrArg Trait.parentName? hstripped :)
  exact ⟨j', hj', t', parent, ht', hname'.trans hname, hplace'⟩

/-- A chain of inheritance leads to the same trait. -/
theorem reflTransGen (hchain : Relation.ReflTransGen db.InheritsFrom i root)
    (hi : Counterpart db db' i i') : ∃ root', Counterpart db db' root root' ∧
      Relation.ReflTransGen db'.InheritsFrom i' root' := by
  induction hchain with
  | refl => exact ⟨i', hi, .refl⟩
  | tail _ hlink ih =>
    obtain ⟨j', hj', hchain'⟩ := ih
    obtain ⟨root', hroot', hlink'⟩ := h.inheritsFrom hlink hj'
    exact ⟨root', hroot', hchain'.tail hlink'⟩

/-- The level of a trait is computed from the same formulas. -/
theorem levelFormula (hformula : db.LevelFormula i f) (hi : Counterpart db db' i i') :
    db'.LevelFormula i' f := by
  have hkind {k k' : Nat} {t : Trait} (ht : db.trait? k = some t)
      (hk : Counterpart db db' k k') : ∃ t', db'.trait? k' = some t' ∧ t'.kind = t.kind := by
    obtain ⟨t', ht', hstripped⟩ := hk.exists_trait ht
    exact ⟨t', ht', (congrArg Trait.kind hstripped :)⟩
  cases hformula with
  | function found kind =>
    obtain ⟨t', ht', hsame⟩ := hkind found hi
    exact .function ht' (hsame.trans kind)
  | base chain found kind =>
    obtain ⟨root', hroot', hchain'⟩ := h.reflTransGen chain hi
    obtain ⟨t', ht', hsame⟩ := hkind found hroot'
    exact .base hchain' ht' (hsame.trans kind)
  | @change ref effect found target kind =>
    obtain ⟨ref', effect', hfound', hstripped⟩ := h.exists_effect? found
    have htarget : effect'.target = effect.target := (congrArg Effect.target hstripped :)
    have hsame : effect'.formula = effect.formula := (congrArg Effect.formula hstripped :)
    have hkind' : effect'.kind = effect.kind := (congrArg Effect.kind hstripped :)
    have hplace := h.indexOf?_of_counterpart target hi
    exact hsame ▸ .change hfound' (htarget ▸ hplace) (hkind'.trans kind)

/-- A trait reads the levels of the same traits. -/
theorem readsLevel (hreads : db.ReadsLevel i j) (hi : Counterpart db db' i i') :
    ∃ j', Counterpart db db' j j' ∧ db'.ReadsLevel i' j' := by
  obtain ⟨f, hf, hplace⟩ := hreads
  obtain ⟨name, hname, hplace⟩ := List.mem_filterMap.1 hplace
  obtain ⟨j', hj', hplace'⟩ := h.exists_indexOf? hplace
  exact ⟨j', hj', f, h.levelFormula hf hi, List.mem_filterMap.2 ⟨name, hname, hplace'⟩⟩

/-- What a skill inherits from is a skill in any order. -/
theorem inherits (hinherits : ∀ i t, db.trait? i = some t → db.Inherits t) :
    ∀ i' t', db'.trait? i' = some t' → db'.Inherits t' := by
  intro i' t' ht'
  refine inherits_iff.2 fun parent hparent ↦ ?_
  obtain ⟨i, hi⟩ := h.symm.exists_counterpart ht'
  obtain ⟨t, ht, hstripped⟩ := hi.exists_trait ht'
  have hname : t.parentName? = t'.parentName? := (congrArg Trait.parentName? hstripped :)
  obtain ⟨skill, hskill, hisSkill⟩ :=
    inherits_iff.1 (hinherits i t ht) parent (hname.trans hparent)
  obtain ⟨j, hplace, hj⟩ := Option.bind_eq_some_iff.1 hskill
  obtain ⟨j', hj', hplace'⟩ := h.exists_indexOf? hplace
  obtain ⟨skill', hskill', hstripped'⟩ := hj'.exists_trait hj
  have hsame : skill'.isSkill = skill.isSkill := (congrArg Trait.isSkill hstripped' :)
  refine ⟨skill', ?_, hsame.trans hisSkill⟩
  rw [find?, hplace', Option.bind_some, hskill']

end Reordered

/-! ### Paths -/

/-- Where each link has a counterpart, each path has one of the same length. -/
theorem exists_path_of_counterpart {R R' : Nat → Nat → Prop}
    (hlink : ∀ {i j i'}, R i j → Counterpart db db' i i' →
      ∃ j', Counterpart db db' j j' ∧ R' i' j')
    (hi : Counterpart db db' i i') (hpath : (i :: path).IsChain R) :
    ∃ path', path'.length = path.length ∧ (i' :: path').IsChain R' := by
  induction path generalizing i i' with
  | nil => exact ⟨[], rfl, .singleton i'⟩
  | cons j path ih =>
    obtain ⟨hij, hpath⟩ := List.isChain_cons_cons.1 hpath
    obtain ⟨j', hj', hij'⟩ := hlink hij hi
    obtain ⟨path', hlength, hpath'⟩ := ih hj' hpath
    exact ⟨j' :: path', congrArg (· + 1) hlength, .cons_cons hij' hpath'⟩

/-- Where no path of a relation between traits is too long, and each link has a counterpart, no path
of the other relation is. -/
theorem short_of_counterpart {R R' : Nat → Nat → Prop} {bound : Nat} (hbound : 0 < bound)
    (hsource : ∀ {i j}, R i j → ∃ i', Counterpart db db' i i')
    (hlink : ∀ {i j i'}, R i j → Counterpart db db' i i' →
      ∃ j', Counterpart db db' j j' ∧ R' i' j')
    (hshort : ∀ path : List Nat, path.IsChain R' → path.length ≤ bound) :
    ∀ path : List Nat, path.IsChain R → path.length ≤ bound := by
  intro path hpath
  match path with
  | [] => exact Nat.zero_le bound
  | [_] => exact hbound
  | i :: j :: path =>
    obtain ⟨i', hi⟩ := hsource (List.isChain_cons_cons.1 hpath).1
    obtain ⟨path', hlength, hpath'⟩ := exists_path_of_counterpart hlink hi hpath
    have hle := hshort _ hpath'
    rwa [List.length_cons, hlength] at hle

/-- What inherits is a trait. -/
theorem InheritsFrom.exists_trait (h : db.InheritsFrom i j) : ∃ t, db.trait? i = some t := by
  obtain ⟨t, -, ht, -, -⟩ := h
  exact ⟨t, ht⟩

/-- What reads the level of another trait is a trait. -/
theorem ReadsLevel.exists_trait (hindexed : db.Indexed) (h : db.ReadsLevel i j) :
    ∃ t, db.trait? i = some t := by
  obtain ⟨f, hf, -⟩ := h
  cases hf with
  | function found => exact ⟨_, found⟩
  | base chain found =>
    rcases Relation.ReflTransGen.cases_head chain with rfl | ⟨_, hlink, -⟩
    · exact ⟨_, found⟩
    · exact hlink.exists_trait
  | change _ target =>
    obtain ⟨t, ht, -⟩ := hindexed.exists_trait target
    exact ⟨t, ht⟩

theorem acyclic_inheritsFrom {bound : Nat}
    (hshort : ∀ path : List Nat, path.IsChain db.noted.inheritanceGraph.Points →
      path.length ≤ bound) : ∀ i, ¬ Relation.TransGen db.InheritsFrom i i := by
  have hacyclic := Graph.acyclic_of_short hshort
  rwa [Graph.Acyclic, points_inheritanceGraph_noted] at hacyclic

/-- **Where no path is too long, the traits are accepted in every order.** -/
theorem Reordered.checkCycles_eq_ok (h : Reordered db db')
    (hinherits : ∀ i t, db.trait? i = some t → db.Inherits t)
    (hshort : ∀ other (path : List Nat), path.IsChain (db.noted.graph other).Points →
      path.length ≤ Limits.dependencyDepth + 1) (relation : Relation) :
    db'.noted.checkCycles relation = .ok () := by
  have hchains (path : List Nat) (hpath : path.IsChain db'.noted.inheritanceGraph.Points) :
      path.length ≤ Limits.dependencyDepth + 1 := by
    rw [points_inheritanceGraph_noted] at hpath
    refine short_of_counterpart (Nat.succ_pos _) (fun hlink ↦ ?_) h.symm.inheritsFrom ?_ path hpath
    · obtain ⟨t, ht⟩ := hlink.exists_trait
      exact h.symm.exists_counterpart ht
    · rw [← points_inheritanceGraph_noted]
      exact hshort .inheritance
  have hlevels (path : List Nat) (hpath : path.IsChain db'.ReadsLevel) :
      path.length ≤ Limits.dependencyDepth + 1 := by
    refine short_of_counterpart (Nat.succ_pos _) (fun hlink ↦ ?_) h.symm.readsLevel ?_ path hpath
    · obtain ⟨t, ht⟩ := hlink.exists_trait h.bare'.indexed
      exact h.symm.exists_counterpart ht
    · rw [← points_evaluationGraph_noted h.bare hinherits
        (acyclic_inheritsFrom (hshort .inheritance))]
      exact hshort .evaluation
  refine Except.mapError_eq_ok_iff.2 (Graph.search_eq_ok_of_short fun path hpath ↦ ?_)
  cases relation with
  | inheritance => exact hchains path hpath
  | functions =>
    exact hlevels path (hpath.imp fun _ _ ↦ readsLevel_of_points_functionGraph)
  | evaluation =>
    rw [graph, points_evaluationGraph_noted h.bare' (h.inherits hinherits)
      (acyclic_inheritsFrom hchains)] at hpath
    exact hlevels path hpath

end PointBuy.Database
