import PointBuy.Proofs.Database.NameTable
import PointBuy.Proofs.Database.Order
import PointBuy.Proofs.Text.Number

/-!
# How deep traits may rest on one another

A database is refused where a search goes too deep in one of its graphs. What that says of the
database is one-sided. Where a trait is said to rest on too many others, it does: a path with more
edges than allowed ends there. Where no path has more edges than allowed, no database is refused for
it, in whatever order its traits are defined. But a database that is accepted may have longer paths:
they are only bounded by the number of traits. A search does not go down from a trait that it has
seen, and so never goes down where each trait is defined after those that it rests on. Only where
there are no more traits than a path may have, the order makes no difference at all.

An example is a ladder of attributes, each computed from the one before it. With the lowest rung
first, a ladder of any height is accepted; with the highest first, one that is too high is refused.

## Main definition

* `ladder` : attributes each of which is computed from the one before.

## Main statements

* `depth_within_limit` : what acceptance and refusal say about paths.
* `depth_depends_on_order` : the same traits are accepted in one order and refused in another.
-/

namespace PointBuy.Database

/-! ### What the limit says -/

/-- A trait that is said to nest too deep is the end of a path that is too long. -/
theorem exists_path_of_tooDeep {db : Database} {relation : Relation} {name : String}
    {location : Location}
    (h : db.checkCycles relation = .error (.single ⟨.tooDeep name, location⟩)) :
    ∃ path i t, (db.graph relation).SimplePath path ∧ path.getLast? = some i ∧
      db.trait? i = some t ∧ t.name = name ∧ t.location = location ∧
      Limits.dependencyDepth + 1 < path.length := by
  obtain ⟨finding, hfinding, hsays⟩ := Except.mapError_eq_error_iff.1 h
  have hholds := Graph.holds_of_search hfinding
  cases finding with
  | cycle members => cases hsays
  | tooDeep i =>
    obtain ⟨hi, path, hpath, hlast, hlength⟩ := hholds
    obtain ⟨t, ht⟩ := exists_trait?_of_lt (size_graph relation ▸ hi)
    rw [findingError, ht] at hsays
    cases hsays
    exact ⟨path, i, t, hpath, hlast, ht, rfl, rfl, hlength⟩

/-- **What acceptance and refusal say about paths.** In a graph that is accepted, a path over traits
has no more members than there are traits. A trait that is said to nest too deep is there, and a
path that meets no trait twice and has more edges than allowed ends in it. Where no path has more
edges than allowed, the graph is accepted. So if there is at most one trait more than a path may
have edges, no path in a graph that is accepted has more, and no trait is said to nest too deep,
whatever the order. And if no path has more edges than allowed in a database in which all parents
have been found, the same traits are accepted in every other order. -/
theorem depth_within_limit (db : Database) (relation : Relation) :
    (db.checkCycles relation = .ok () → ∀ path : List Nat,
      path.IsChain (db.graph relation).Points → (∀ i ∈ path, i < db.size) →
      path.length ≤ db.size) ∧
    (∀ name location,
      db.checkCycles relation = .error (.single ⟨.tooDeep name, location⟩) →
      ∃ path i t, (db.graph relation).SimplePath path ∧ path.getLast? = some i ∧
        db.trait? i = some t ∧ t.name = name ∧ t.location = location ∧
        Limits.dependencyDepth + 1 < path.length) ∧
    ((∀ path : List Nat, path.IsChain (db.graph relation).Points →
      path.length ≤ Limits.dependencyDepth + 1) → db.checkCycles relation = .ok ()) ∧
    (db.size ≤ Limits.dependencyDepth + 1 → ∀ name location,
      db.checkCycles relation ≠ .error (.single ⟨.tooDeep name, location⟩)) ∧
    ∀ db', db.Reordered db' → (∀ i t, db.trait? i = some t → db.Inherits t) →
      (∀ other (path : List Nat), path.IsChain (db.noted.graph other).Points →
        path.length ≤ Limits.dependencyDepth + 1) →
      db'.noted.checkCycles relation = .ok () := by
  refine ⟨fun h path hpath hplaces ↦ ?_, fun name location ↦ exists_path_of_tooDeep,
    fun h ↦ Except.mapError_eq_ok_iff.2 (Graph.search_eq_ok_of_short h),
    fun hsize name location h ↦ ?_,
    fun db' h hinherits hshort ↦ h.checkCycles_eq_ok hinherits hshort relation⟩
  · have hacyclic : (db.graph relation).Acyclic :=
      Graph.acyclic_of_search (Except.mapError_eq_ok_iff.1 h)
    have hsubset : path ⊆ List.range db.size := fun i hi ↦ List.mem_range.2 (hplaces i hi)
    have hle := (hacyclic.nodup hpath).length_le_of_subset hsubset
    rwa [List.length_range] at hle
  · obtain ⟨path, i, t, hpath, hlast, ht, -, -, hlength⟩ := exists_path_of_tooDeep h
    have hle := hpath.length_le hlast ((size_graph relation).symm ▸ lt_size_of_trait? ht)
    rw [size_graph] at hle
    omega

/-! ### Ladders -/

/-- The name of a rung. -/
def rungName (i : Nat) : String := "F" ++ toString i

/-- What a rung is computed from: the one before it, if there is one. -/
def rungFormula : Nat → Formula
  | 0 => .integer 1
  | i + 1 => .trait (rungName i)

/-- An attribute that is computed from the one before it. -/
def rung (i : Nat) : Trait := .new (rungName i) (.attribute (rungFormula i)) ⟨"db.txt", i + 1⟩

/-- Attributes each of which is computed from the one before, the lowest first. -/
def ladder (count : Nat) : List Trait := (List.range count).map rung

theorem rungName_injective {i j : Nat} (h : rungName i = rungName j) : i = j := by
  have htext := congrArg String.toList h
  rw [rungName, rungName, String.toList_append, String.toList_append] at htext
  rw [← decimalValue_toString i, List.append_cancel_left htext, decimalValue_toString]

theorem rung_injective {i j : Nat} (h : rung i = rung j) : i = j :=
  rungName_injective (congrArg Trait.name h)

theorem nodup_names_ladder (count : Nat) : ((ladder count).map Trait.name).Nodup := by
  rw [ladder, List.map_map]
  exact List.nodup_range.map fun _ _ h ↦ rungName_injective h

/-- The traits of a ladder in any order have an index. -/
theorem indexed_of_perm_ladder {ts : List Trait} {count : Nat} (h : ts.Perm (ladder count)) :
    (empty.pushAll ts).Indexed :=
  indexed_pushAll_empty ((h.map Trait.name).nodup_iff.2 (nodup_names_ladder count))

section Rungs

variable {db : Database} {p q k : Nat}

/-- The place that the formula of a rung mentions is that of the rung before it. -/
theorem placesIn_rung (hindexed : db.Indexed) (hq : db.trait? q = some (rung k)) :
    db.placesIn (rungFormula (k + 1)) = [q] := by
  have hplace : db.indexOf? (rungName k) = some q := (hindexed _ q).2 ⟨_, hq, rfl⟩
  simp [rungFormula, placesIn, Formula.mentions, hplace]

/-- A rung points to the one before it. -/
theorem pointedTo_rung (hindexed : db.Indexed) (hp : db.trait? p = some (rung (k + 1)))
    (hq : db.trait? q = some (rung k)) : db.functionGraph.pointedTo p = [q] := by
  have hp' : db.traits[p]? = some (rung (k + 1)) := hp
  have hattribute : db.isAttribute q = true := by
    rw [isAttribute, hq]
    rfl
  have hplaces : db.placesIn (.trait (rungName k)) = [q] := placesIn_rung hindexed hq
  rw [Graph.pointedTo, functionGraph, Array.getElem?_map, hp']
  simp [rung, Trait.new, rungFormula, hplaces, hattribute, List.eraseDups_cons]

/-- Whether by functions or by levels, a rung rests on the one before it. -/
theorem points_rung (hindexed : db.Indexed) {relation : Relation}
    (hrelation : relation ≠ .inheritance) (hp : db.trait? p = some (rung (k + 1)))
    (hq : db.trait? q = some (rung k)) :
    (db.graph relation).Points p q := by
  cases relation with
  | inheritance => exact absurd rfl hrelation
  | functions =>
    rw [Graph.Points, graph, pointedTo_rung hindexed hp hq]
    exact List.mem_cons_self
  | evaluation =>
    refine mem_evaluationGraph.2 ⟨_, hp, rungFormula (k + 1), ?_, ?_⟩
    · exact mem_levelFormulas_iff.2 (.inl rfl)
    · rw [placesIn_rung hindexed hq]
      exact List.mem_cons_self

/-- Among rungs, nothing rests on anything but the rung before it. -/
theorem exists_rung_of_points (hindexed : db.Indexed)
    (hrungs : ∀ p t, db.trait? p = some t → ∃ k, t = rung k) {relation : Relation}
    (h : (db.graph relation).Points p q) :
    ∃ k, db.trait? p = some (rung (k + 1)) ∧ db.trait? q = some (rung k) := by
  have hformula {k : Nat} (hp : db.trait? p = some (rung k))
      (hq : q ∈ db.placesIn (rungFormula k)) :
      ∃ k, db.trait? p = some (rung (k + 1)) ∧ db.trait? q = some (rung k) := by
    cases k with
    | zero => cases hq
    | succ k =>
      have hplace : db.indexOf? (rungName k) = some q := by
        simpa [rungFormula, placesIn, Formula.mentions] using hq
      obtain ⟨t, ht, hname⟩ := hindexed.exists_trait hplace
      obtain ⟨l, rfl⟩ := hrungs q t ht
      obtain rfl := rungName_injective hname
      exact ⟨l, hp, ht⟩
  cases relation with
  | inheritance =>
    obtain ⟨t, ht, hparent⟩ := Option.bind_eq_some_iff.1 (points_inheritanceGraph.1 h)
    obtain ⟨k, rfl⟩ := hrungs p t ht
    cases hparent
  | functions =>
    rw [Graph.Points, graph, Graph.pointedTo, functionGraph, Array.getElem?_map] at h
    cases hp : db.traits[p]? with
    | none =>
      rw [hp] at h
      cases h
    | some t =>
      rw [hp] at h
      obtain ⟨k, rfl⟩ := hrungs p t hp
      exact hformula hp (List.mem_filter.1 (List.mem_eraseDups.1 h)).1
  | evaluation =>
    obtain ⟨t, ht, f, hf, hq⟩ := mem_evaluationGraph.1 h
    obtain ⟨k, rfl⟩ := hrungs p t ht
    rcases mem_levelFormulas_iff.1 hf with hbase | ⟨ref, href, -⟩
    · obtain rfl := Option.some.inj hbase
      exact hformula ht hq
    · cases Array.mem_toList_iff.2 href

end Rungs

/-- The rung at a place of a ladder. -/
theorem getElem?_ladder {count i : Nat} (hi : i < count) : (ladder count)[i]? = some (rung i) := by
  rw [ladder, List.getElem?_map, List.getElem?_range hi, Option.map_some]

/-- **A ladder of any height is accepted** with the lowest rung first. -/
theorem checkCycles_ladder (count : Nat) (relation : Relation) :
    (empty.pushAll (ladder count)).checkCycles relation = .ok () := by
  refine Except.mapError_eq_ok_iff.2 (Graph.search_eq_ok_of_backward (fun p q h ↦ ?_) _)
  have hplace {i : Nat} {t : Trait} (ht : (empty.pushAll (ladder count)).trait? i = some t) :
      t = rung i := by
    rw [trait?_pushAll_empty] at ht
    have hi : i < count := by simpa [ladder] using (List.getElem?_eq_some_iff.1 ht).1
    exact Option.some.inj (ht.symm.trans (getElem?_ladder hi))
  obtain ⟨k, hp, hq⟩ := exists_rung_of_points (indexed_of_perm_ladder (.refl _))
    (fun i t ht ↦ ⟨i, hplace ht⟩) h
  rw [← rung_injective (hplace hp), ← rung_injective (hplace hq)]
  exact Nat.lt_succ_self k

/-- A path leads down a ladder over all its rungs. -/
theorem isChain_ladder (count : Nat) {relation : Relation} (hrelation : relation ≠ .inheritance) :
    (List.range count).reverse.IsChain
      ((empty.pushAll (ladder count)).graph relation).Points := by
  refine List.isChain_reverse.2 ((List.isChain_range _ _).2 fun k hk ↦ ?_)
  refine points_rung (indexed_of_perm_ladder (.refl _)) hrelation (k := k) ?_ ?_
  · rw [trait?_pushAll_empty, getElem?_ladder (by omega)]
  · rw [trait?_pushAll_empty, getElem?_ladder (by omega)]

/-- **A ladder that is too high is refused** with the highest rung first, at the lowest one. -/
theorem checkCycles_reverse_ladder :
    (empty.pushAll (ladder (Limits.dependencyDepth + 2)).reverse).checkCycles .functions =
      .error (.single ⟨.tooDeep (rung 0).name, (rung 0).location⟩) := by
  generalize hdb : empty.pushAll (ladder (Limits.dependencyDepth + 2)).reverse = db
  have hindexed : db.Indexed := hdb ▸ indexed_of_perm_ladder (List.reverse_perm _)
  have hlength : (ladder (Limits.dependencyDepth + 2)).length = Limits.dependencyDepth + 2 := by
    simp [ladder]
  have hplace {i k : Nat} (h : i + k = Limits.dependencyDepth + 1) :
      db.trait? i = some (rung k) := by
    rw [← hdb, trait?_pushAll_empty, List.getElem?_reverse (by omega), hlength]
    have hk : Limits.dependencyDepth + 2 - 1 - i = k := by omega
    rw [hk, getElem?_ladder (by omega)]
  have hsize : Limits.dependencyDepth + 1 < db.size :=
    lt_size_of_trait? (hplace (Nat.add_zero _))
  have hsearch : db.functionGraph.search Limits.dependencyDepth =
      .error (.tooDeep (Limits.dependencyDepth + 1)) := by
    refine Graph.search_eq_tooDeep_of_forward ?_ fun i hi ↦ ?_
    · rwa [← size_graph .functions] at hsize
    · obtain ⟨k, hk⟩ : ∃ k, i + (k + 1) = Limits.dependencyDepth + 1 :=
        ⟨Limits.dependencyDepth - i, by omega⟩
      have hnext : i + 1 + k = Limits.dependencyDepth + 1 := by omega
      rw [pointedTo_rung hindexed (hplace hk) (hplace hnext), List.head?_cons]
  refine Except.mapError_eq_error_iff.2 ⟨_, hsearch, ?_⟩
  rw [findingError, hplace (Nat.add_zero _)]
  rfl

/-- The limit is not one of the graph. The rungs of a ladder that is too high are accepted with the
lowest first, though a path with more edges than allowed leads down from the highest one; and the
same traits are refused with the highest first. -/
theorem depth_depends_on_order :
    (∀ relation, (empty.pushAll (ladder (Limits.dependencyDepth + 2))).checkCycles relation =
      .ok ()) ∧
    (∀ relation, relation ≠ .inheritance → ∃ path : List Nat,
      path.IsChain
        ((empty.pushAll (ladder (Limits.dependencyDepth + 2))).graph relation).Points ∧
      Limits.dependencyDepth + 1 < path.length) ∧
    (ladder (Limits.dependencyDepth + 2)).reverse.Perm (ladder (Limits.dependencyDepth + 2)) ∧
    (empty.pushAll (ladder (Limits.dependencyDepth + 2)).reverse).checkCycles .functions =
      .error (.single ⟨.tooDeep "F0", ⟨"db.txt", 1⟩⟩) := by
  refine ⟨checkCycles_ladder _, fun relation hrelation ↦ ?_, List.reverse_perm _, ?_⟩
  · refine ⟨_, isChain_ladder _ hrelation, ?_⟩
    rw [List.length_reverse, List.length_range]
    exact Nat.lt_succ_self _
  · exact checkCycles_reverse_ladder

/-! ### A small database in two orders -/

/-- The traits of the small database the other way round. -/
def smallReversed : Database := empty.pushAll [brawling, dx]

theorem reordered_small : small.Reordered smallReversed := by
  have htrait {i : Nat} {t : Trait} (ht : smallReversed.trait? i = some t) :
      t = brawling ∨ t = dx := by
    rw [smallReversed, trait?_pushAll_empty] at ht
    simpa using List.mem_of_getElem? ht
  refine ⟨bare_of_addSources addSources_small, ⟨indexed_pushAll_empty (by decide), ?_, ?_⟩,
    .swap _ _ _⟩
  all_goals
    intro i t ht
    rcases htrait ht with rfl | rfl <;> rfl

/-- An edge in a graph of the small database leads from the skill to the attribute. -/
theorem points_small {i j : Nat} {relation : Relation} (h : (small.graph relation).Points i j) :
    i = 1 ∧ j = 0 := by
  rw [graph_small] at h
  have hempty : ¬ Graph.Points #[[], []] i j := by
    rcases i with _ | _ | i <;> simp [Graph.Points, Graph.pointedTo]
  cases relation with
  | inheritance | functions => exact absurd h hempty
  | evaluation =>
    rcases i with _ | _ | i
    · cases h
    · exact ⟨rfl, List.mem_singleton.1 h⟩
    · simp [Graph.Points, Graph.pointedTo] at h

/-- A path over the small database has no more than two members, and it is accepted for that, also
with its traits the other way round; and a ladder that is too high, with the highest rung first, has
a path to the lowest one that is too long. -/
theorem depth_within_limit_ladder :
    (∀ relation (path : List Nat), path.IsChain (small.noted.graph relation).Points →
      path.length ≤ Limits.dependencyDepth + 1) ∧
    small.checkCycles .evaluation = .ok () ∧
    (∀ path : List Nat, path.IsChain (small.graph .evaluation).Points →
      (∀ i ∈ path, i < small.size) → path.length ≤ 2) ∧
    (∀ name location,
      small.checkCycles .evaluation ≠ .error (.single ⟨.tooDeep name, location⟩)) ∧
    small.Reordered smallReversed ∧ smallReversed.noted.checkCycles .evaluation = .ok () ∧
    ∃ path i t,
      ((empty.pushAll (ladder (Limits.dependencyDepth + 2)).reverse).graph .functions).SimplePath
        path ∧ path.getLast? = some i ∧
      (empty.pushAll (ladder (Limits.dependencyDepth + 2)).reverse).trait? i = some t ∧
      t.name = "F0" ∧ t.location = ⟨"db.txt", 1⟩ ∧ Limits.dependencyDepth + 1 < path.length := by
  obtain ⟨hnoted, -, hinherits, -⟩ := analyze_eq_ok_iff.1 analyze_small
  have hshort (relation : Relation) (path : List Nat)
      (hpath : path.IsChain (small.noted.graph relation).Points) :
      path.length ≤ Limits.dependencyDepth + 1 := by
    rw [← hnoted] at hpath
    rcases path with _ | ⟨i, _ | ⟨j, _ | ⟨k, path⟩⟩⟩
    · exact Nat.zero_le _
    · exact Nat.succ_le_succ (Nat.zero_le _)
    · show 2 ≤ Limits.dependencyDepth + 1
      decide
    · -- the second member would be both the attribute and the skill
      obtain ⟨hfirst, hrest⟩ := List.isChain_cons_cons.1 hpath
      obtain ⟨hsecond, -⟩ := List.isChain_cons_cons.1 hrest
      have hclash : (0 : Nat) = 1 := (points_small hfirst).2.symm.trans (points_small hsecond).1
      cases hclash
  obtain ⟨hbound, -, haccepts, hneverDeep, hevery⟩ := depth_within_limit small .evaluation
  obtain ⟨-, hrefuses, -⟩ := depth_within_limit
    (empty.pushAll (ladder (Limits.dependencyDepth + 2)).reverse) .functions
  have haccepted := haccepts (hnoted ▸ hshort .evaluation)
  exact ⟨hshort, haccepted, hbound haccepted, hneverDeep (by decide), reordered_small,
    hevery _ reordered_small hinherits hshort, hrefuses _ _ checkCycles_reverse_ladder⟩

end PointBuy.Database
