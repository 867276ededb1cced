import PointBuy.Proofs.Database.Lineage
import PointBuy.Proofs.Sheet.Record
import PointBuy.Sheet.Dependents

/-!
# Dependents are all that may change

The row of a trait rests on its own purchase, and on the purchases and levels of the traits that it
reads. So if the purchase of one trait changes, the rows that may change with it are those of the
traits that read it, directly or through others, and the graph of dependents leads to all of them:
it points from a trait to exactly those that read it.

The own level of a trait is a special case. Its cost may read it, and a trait is no dependent of its
own; but the level itself never rests on itself, so that it is settled before the cost is looked at.

## Main statements

* `Database.mem_dependents` : where the graph of dependents points to.
* `Database.mem_reads_of_points` : a trait reads all that its level rests on.
* `Sheet.row_congr` : what a row rests on.
* `Sheet.mem_of_not_sameAt`, `Sheet.record_eq_of_not_mem` : how far a change spreads.
-/

namespace PointBuy

/-! ### The graph of dependents -/

namespace Database

variable {db : Database} {graph : Graph} {i j k : Nat}

theorem size_subscribe (i : Nat) (graph : Graph) (source : Nat) :
    Array.size (subscribe i graph source) = Array.size graph := by
  rw [subscribe]
  split
  · rfl
  · exact Array.size_modify

/-- One more subscription. -/
theorem mem_subscribe {source : Nat} :
    j ∈ (subscribe i graph source).pointedTo k ↔
      j ∈ graph.pointedTo k ∨ j = i ∧ k = source ∧ k ≠ i ∧ k < Array.size graph := by
  rw [subscribe]
  split
  case isTrue hself =>
    constructor
    · exact .inl
    · rintro (h | ⟨-, rfl, hne, -⟩)
      · exact h
      · exact absurd hself hne
  case isFalse hself =>
    rw [Graph.pointedTo, Graph.pointedTo, Array.getElem?_modify]
    split
    case isTrue hsource =>
      subst hsource
      rcases Nat.lt_or_ge source (Array.size graph) with hlt | hge
      · rw [Array.getElem?_eq_getElem hlt, Option.map_some, Option.getD_some, Option.getD_some]
        split
        case isTrue hhead =>
          -- The trait is there already.
          have hmem : i ∈ graph[source] := List.mem_of_head? hhead
          constructor
          · exact .inl
          · rintro (h | ⟨rfl, -⟩)
            · exact h
            · exact hmem
        case isFalse =>
          rw [List.mem_cons]
          constructor
          · rintro (rfl | h)
            · exact .inr ⟨rfl, rfl, hself, hlt⟩
            · exact .inl h
          · rintro (h | ⟨rfl, -⟩)
            · exact .inr h
            · exact .inl rfl
      · rw [Array.getElem?_eq_none hge]
        constructor
        · intro h
          cases h
        · rintro (h | ⟨-, -, -, hlt⟩)
          · exact h
          · omega
    case isFalse hsource =>
      constructor
      · exact .inl
      · rintro (h | ⟨-, rfl, -⟩)
        · exact h
        · exact absurd rfl hsource

theorem size_foldl_subscribe (sources : List Nat) :
    Array.size (sources.foldl (subscribe i) graph) = Array.size graph := by
  induction sources generalizing graph with
  | nil => rfl
  | cons source sources ih => rw [List.foldl_cons, ih, size_subscribe]

/-- The subscriptions of one trait. -/
theorem mem_foldl_subscribe {sources : List Nat} :
    j ∈ (sources.foldl (subscribe i) graph).pointedTo k ↔
      j ∈ graph.pointedTo k ∨ j = i ∧ k ∈ sources ∧ k ≠ i ∧ k < Array.size graph := by
  induction sources generalizing graph with
  | nil => simp
  | cons source sources ih =>
    rw [List.foldl_cons, ih, mem_subscribe, size_subscribe, List.mem_cons]
    constructor
    · rintro ((h | ⟨hj, hk, h⟩) | ⟨hj, hk, h⟩)
      · exact .inl h
      · exact .inr ⟨hj, .inl hk, h⟩
      · exact .inr ⟨hj, .inr hk, h⟩
    · rintro (h | ⟨hj, hk | hk, h⟩)
      · exact .inl (.inl h)
      · exact .inl (.inr ⟨hj, hk, h⟩)
      · exact .inr ⟨hj, hk, h⟩

/-- The subscriptions of several traits. -/
theorem mem_foldl_reads {traits : List (Trait × Nat)} :
    j ∈ (traits.foldl (fun graph (t, i) ↦ (db.reads i t).foldl (subscribe i) graph)
        graph).pointedTo k ↔
      j ∈ graph.pointedTo k ∨
        ∃ t, (t, j) ∈ traits ∧ k ∈ db.reads j t ∧ k ≠ j ∧ k < Array.size graph := by
  induction traits generalizing graph with
  | nil => simp
  | cons p traits ih =>
    rw [List.foldl_cons, ih, mem_foldl_subscribe, size_foldl_subscribe]
    constructor
    · rintro ((h | ⟨rfl, h⟩) | ⟨t, hmem, h⟩)
      · exact .inl h
      · exact .inr ⟨p.1, List.mem_cons_self, h⟩
      · exact .inr ⟨t, List.mem_cons_of_mem _ hmem, h⟩
    · rintro (h | ⟨t, hmem, h⟩)
      · exact .inl (.inl h)
      · rcases List.mem_cons.1 hmem with rfl | hmem
        · exact .inl (.inr ⟨rfl, h⟩)
        · exact .inr ⟨t, hmem, h⟩

/-- **Where the graph of dependents points to**: from each trait to the others that read it. -/
theorem mem_dependents :
    j ∈ db.dependents.pointedTo k ↔
      ∃ t, db.trait? j = some t ∧ k ∈ db.reads j t ∧ k ≠ j ∧ k < db.size := by
  have hempty : j ∉ Graph.pointedTo (Array.replicate db.size []) k := by
    rw [Graph.pointedTo, Array.getElem?_replicate]
    split <;> exact List.not_mem_nil
  have hreverse (graph : Graph) :
      Graph.pointedTo (Array.map List.reverse graph) k = (graph.pointedTo k).reverse := by
    rw [Graph.pointedTo, Graph.pointedTo, Array.getElem?_map]
    cases graph[k]? <;> rfl
  rw [dependents]
  dsimp only
  rw [hreverse, List.mem_reverse, mem_foldl_reads, or_iff_right hempty, Array.size_replicate]
  simp only [mem_zipIdx_traits]

/-! ### What a trait reads -/

section Reads

variable {t : Trait} {ref : EffectRef}

/-- A trait reads what its own formula mentions. -/
theorem mem_reads_of_own {f : Formula} (hf : t.ownFormula? = some f) (hk : k ∈ db.placesIn f) :
    k ∈ db.reads i t := by
  refine List.mem_append_left _ (List.mem_append_left _ ?_)
  rw [placesInOwn, hf]
  exact hk

/-- A trait reads what the formulas of its ancestors mention. -/
theorem mem_reads_of_ancestor {ancestor : Trait} {f : Formula} (hj : j ∈ db.ancestors i)
    (hancestor : db.trait? j = some ancestor) (hf : ancestor.ownFormula? = some f)
    (hk : k ∈ db.placesIn f) : k ∈ db.reads i t := by
  refine List.mem_append_left _ (List.mem_append_right _ (List.mem_flatMap.2 ⟨j, hj, ?_⟩))
  refine List.mem_cons_of_mem _ ?_
  rw [hancestor, Option.map_some, Option.getD_some, placesInOwn, hf]
  exact hk

/-- A trait reads the owners of the effects on it. -/
theorem mem_reads_of_owner (href : ref ∈ t.effectedBy) : ref.owner ∈ db.reads i t :=
  List.mem_append_right _
    (List.mem_flatMap.2 ⟨ref, Array.mem_toList_iff.2 href, List.mem_cons_self⟩)

/-- A trait reads what the formulas of the effects on it mention. -/
theorem mem_reads_of_effect {effect : Effect} (href : ref ∈ t.effectedBy)
    (heffect : db.effect? ref = some effect) (hk : k ∈ db.placesIn effect.formula) :
    k ∈ db.reads i t := by
  refine List.mem_append_right _ (List.mem_flatMap.2 ⟨ref, Array.mem_toList_iff.2 href, ?_⟩)
  refine List.mem_cons_of_mem _ ?_
  rw [heffect]
  exact hk

/-- The formula that a level starts from is that of the trait itself or of one of its ancestors. -/
theorem ownFormula?_of_baseFormula? {f : Formula} (ht : db.trait? i = some t)
    (hbase : db.baseFormula? i t = some f) :
    t.ownFormula? = some f ∨ ∃ j ∈ db.ancestors i, ∃ ancestor, db.trait? j = some ancestor ∧
      ancestor.ownFormula? = some f := by
  have hskill (h : (do (← db.trait? (← db.inheritanceRoot? i)).ownFormula?) = some f) :
      t.ownFormula? = some f ∨ ∃ j ∈ db.ancestors i, ∃ ancestor, db.trait? j = some ancestor ∧
        ancestor.ownFormula? = some f := by
    obtain ⟨root, hroot, h⟩ := Option.bind_eq_some_iff.1 h
    obtain ⟨r, hr, hf⟩ := Option.bind_eq_some_iff.1 h
    rcases eq_or_mem_ancestors hroot with rfl | hmem
    · obtain rfl := Option.some.inj (ht.symm.trans hr)
      exact .inl hf
    · exact .inr ⟨root, hmem, r, hr, hf⟩
  rw [baseFormula?] at hbase
  cases hkind : t.kind with
  | «attribute» formula =>
    rw [hkind] at hbase
    rw [Trait.ownFormula?, hkind]
    exact .inl hbase
  | skill | inheritedSkill =>
    rw [hkind] at hbase
    exact hskill hbase
  | leveledAdvantage | plainAdvantage =>
    rw [hkind] at hbase
    cases hbase

/-- **A trait reads all that its level rests on.** -/
theorem mem_reads_of_points (ht : db.trait? i = some t) (h : db.evaluationGraph.Points i k) :
    k ∈ db.reads i t := by
  obtain ⟨t', ht', f, hf, hk⟩ := mem_evaluationGraph.1 h
  obtain rfl := Option.some.inj (ht.symm.trans ht')
  rcases mem_levelFormulas_iff.1 hf with hbase | ⟨ref, href, effect, heffect, -, rfl⟩
  · rcases ownFormula?_of_baseFormula? ht hbase with hown | hancestor
    · exact mem_reads_of_own hown hk
    · obtain ⟨j, hj, ancestor, hancestor, hown⟩ := hancestor
      exact mem_reads_of_ancestor hj hancestor hown hk
  · exact mem_reads_of_effect href heffect hk

end Reads

end Database

/-! ### Levels and rows -/

namespace Sheet

variable {s s' : Sheet} {i : Nat} {t : Trait}

section Checked

variable (h : s.database.Checked) (hdb : s.database = s'.database)

include h hdb

theorem levels_eq_of_sameAt {k : Nat} (hk : k < s.database.size) (hsame : s.SameAt s' k) :
    s.purchasedAt k = s'.purchasedAt k ∧ s.levels k = s'.levels k := by
  refine ⟨hsame.1, ?_⟩
  rw [levels_eq_some_level h hk, levels_eq_some_level (hdb ▸ h) (hdb ▸ hk), hsame.2]

/-- What a level rests on, when all levels are there. -/
theorem level_congr (hi : i < s.database.size) (hown : s.purchasedAt i = s'.purchasedAt i)
    (howners : ∀ t, s.database.trait? i = some t →
      ∀ ref ∈ t.effectedBy, s.purchasedAt ref.owner = s'.purchasedAt ref.owner)
    (hrests : ∀ k, s.database.evaluationGraph.Points i k → s.SameAt s' k) :
    s.level i = s'.level i := by
  have hlevels : s.levels i = s'.levels i := by
    rw [← levelFrom_levels h hi, ← levelFrom_levels (hdb ▸ h) (hdb ▸ hi)]
    refine levelFrom_congr hdb hown howners fun k hk ↦ ?_
    exact levels_eq_of_sameAt h hdb (h.lt_size_of_points hk) (hrests k hk)
  rw [level, level, hlevels]

/-- What a cost rests on, when all levels are there. -/
theorem cost_congr (ht : s.database.trait? i = some t) (hown : s.purchasedAt i = s'.purchasedAt i)
    (hreads : ∀ k ∈ s.database.reads i t, s.SameAt s' k) : s.cost i = s'.cost i := by
  have hsee (f : Formula) (hf : ∀ k ∈ s.database.placesIn f, k ∈ s.database.reads i t) :
      SeeAlike s s' s.levels s'.levels (s.database.placesIn f) := by
    intro k hk
    obtain ⟨name, -, hname⟩ := List.mem_filterMap.1 hk
    exact levels_eq_of_sameAt h hdb (h.indexed.lt_size hname) (hreads k (hf k hk))
  rw [cost, cost]
  refine congrArg Option.join (costFrom_congr hdb hown (fun t' ht' ref href ↦ ?_)
    (fun t' ht' f hf ↦ ?_) fun t' ht' ref href effect heffect ↦ ?_) <;>
    obtain rfl := Option.some.inj (ht.symm.trans ht')
  · exact (hreads _ (Database.mem_reads_of_owner href)).1
  · exact hsee f fun k hk ↦ Database.mem_reads_of_own hf hk
  · exact hsee effect.formula fun k hk ↦ Database.mem_reads_of_effect href heffect hk

/-- **What a row rests on**: the purchase of the trait, and the purchases and levels of the other
traits that it reads. -/
theorem row_congr (ht : s.database.trait? i = some t) (hown : s.purchasedAt i = s'.purchasedAt i)
    (hreads : ∀ k ∈ s.database.reads i t, k ≠ i → s.SameAt s' k) : s.row i = s'.row i := by
  have hi : i < s.database.size := Database.lt_size_of_trait? ht
  -- The level comes first: it never rests on itself, while the cost may rest on it.
  have hlevel : s.level i = s'.level i := by
    refine level_congr h hdb hi hown (fun t' ht' ref href ↦ ?_) fun k hk ↦ ?_
    · obtain rfl := Option.some.inj (ht.symm.trans ht')
      by_cases hself : ref.owner = i
      · rw [hself, hown]
      · exact (hreads _ (Database.mem_reads_of_owner href) hself).1
    · refine hreads k (Database.mem_reads_of_points ht hk) ?_
      rintro rfl
      exact h.acyclic_evaluation k (.single hk)
  have hcost : s.cost i = s'.cost i := by
    refine cost_congr h hdb ht hown fun k hk ↦ ?_
    by_cases hself : k = i
    · exact hself ▸ ⟨hown, hlevel⟩
    · exact hreads k hk hself
  rw [row, row, ← hdb, hlevel, hcost, hown]

end Checked

/-! ### How changes spread -/

variable {start : Nat} {looked : List Nat}

/-- Where there is no trait, there is no level. -/
theorem level_of_size_le (hi : s.database.size ≤ i) : s.level i = none := by
  have hnone : s.database.trait? i = none := Array.getElem?_eq_none hi
  rw [level, levels]
  cases s.database.size with
  | zero => rfl
  | succ bound =>
    rw [levelWithin, levelFrom, hnone]
    rfl

section Spread

variable (h : s.database.Checked) (hdb : s.database = s'.database) (hsafe : s.DiceSafe)
  (hsafe' : s'.DiceSafe) (hpurchased : ∀ k, k ≠ start → s.purchasedAt k = s'.purchasedAt k)
  (hstart : start ∈ looked)
  (hclosed : ∀ k ∈ looked, s.record k ≠ s'.record k →
    ∀ j ∈ s.database.dependents.pointedTo k, j ∈ looked)

include h hdb hsafe hsafe' hclosed

/-- The dependents of a trait that has changed have been met. -/
theorem mem_of_reads {k : Nat} {t : Trait} (ht : s.database.trait? i = some t)
    (hk : k ∈ looked) (hchange : ¬ s.SameAt s' k) (hreads : k ∈ s.database.reads i t)
    (hne : k ≠ i) (hlt : k < s.database.size) : i ∈ looked := by
  refine hclosed k hk (fun hrecord ↦ ?_) i (Database.mem_dependents.2 ⟨t, ht, hreads, hne, hlt⟩)
  exact hchange (sameAt_of_record_eq h hdb hlt hsafe hsafe' hrecord)

include hpurchased hstart

/-- **Each trait that has changed has been met.** -/
theorem mem_of_not_sameAt (hi : i < s.database.size) (hchange : ¬ s.SameAt s' i) : i ∈ looked := by
  -- The levels that a level rests on come first.
  induction i using (Graph.wellFounded_of_search (h.searched .evaluation)).induction with
  | _ i ih =>
    obtain ⟨t, ht⟩ := Database.exists_trait?_of_lt hi
    have hread {k : Nat} (hk : k ∈ looked) (hchange : ¬ s.SameAt s' k)
        (hreads : k ∈ s.database.reads i t) (hne : k ≠ i) (hlt : k < s.database.size) :
        i ∈ looked :=
      mem_of_reads h hdb hsafe hsafe' hclosed ht hk hchange hreads hne hlt
    by_contra hunmet
    have hne : i ≠ start := fun heq ↦ hunmet (heq ▸ hstart)
    refine hchange ⟨hpurchased i hne, ?_⟩
    refine level_congr h hdb hi (hpurchased i hne) (fun t' ht' ref href ↦ ?_) fun k hk ↦ ?_
    · obtain rfl := Option.some.inj (ht.symm.trans ht')
      by_contra howner
      have hplace : ref.owner = start := by
        by_contra hplace
        exact howner (hpurchased ref.owner hplace)
      obtain ⟨owner, _, hown, -⟩ := h.linked ht href
      refine hunmet (hread (hplace ▸ hstart) (fun hsame ↦ howner hsame.1)
        (Database.mem_reads_of_owner href) (hplace ▸ hne.symm) (Database.lt_size_of_trait? hown))
    · by_contra hsame
      have hlt : k < s.database.size := h.lt_size_of_points hk
      refine hunmet (hread (ih k hk hlt hsame) hsame (Database.mem_reads_of_points ht hk) ?_ hlt)
      rintro rfl
      exact h.acyclic_evaluation k (.single hk)

/-- **The record of a trait that has not been met is the same as before.** -/
theorem record_eq_of_not_mem (hlt : start < s.database.size) (hi : i < s.database.size)
    (hunmet : i ∉ looked) : s.record i = s'.record i := by
  obtain ⟨t, ht⟩ := Database.exists_trait?_of_lt hi
  have hne : i ≠ start := fun heq ↦ hunmet (heq ▸ hstart)
  have hrow : s.row i = s'.row i := by
    refine row_congr h hdb ht (hpurchased i hne) fun k hreads hk ↦ ?_
    by_contra hchange
    rcases Nat.lt_or_ge k s.database.size with hlt | hge
    · have hmet := mem_of_not_sameAt h hdb hsafe hsafe' hpurchased hstart hclosed hlt hchange
      exact hunmet (mem_of_reads h hdb hsafe hsafe' hclosed ht hmet hchange hreads hk hlt)
    · -- where there is no trait, nothing can have changed
      refine hchange ⟨hpurchased k (show k ≠ start by omega), ?_⟩
      rw [level_of_size_le hge, level_of_size_le (hdb ▸ hge)]
  rw [record, record, hrow]

end Spread

end Sheet
end PointBuy
