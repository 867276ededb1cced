import PointBuy.Proofs.Graph.Search

/-!
# Graphs without cycles pass a search

A search ends early for two reasons only. It finds a cycle where an edge leads to an open node, and
the open nodes are those on the path to where it stands, so that the edge does close a cycle. Or it
would have to go deeper than it may: but the nodes on the path are pairwise different where there is
no cycle, and so a bound on the depth that is no less than the number of nodes minus one is never
reached.

## Main statements

* `search_eq_ok_of_acyclic` : a search of a graph without cycles finds nothing.
* `search_eq_ok_iff` : a search finds nothing exactly where there is no cycle.
-/

namespace PointBuy.Graph

variable {graph : Graph} {marks marks' : Array Mark} {path : List Nat} {room node : Nat}

/-- **What holds where a visit begins**: each node on the path points to the one that was entered
after it, and no other nodes are open. -/
structure Underway (graph : Graph) (marks : Array Mark) (path : List Nat) (node : Nat) : Prop where
  settled : graph.Settled marks
  chain : (node :: path).IsChain fun a b ↦ graph.Points b a
  open_mem : ∀ j : Nat, marks[j]? = some .open → j ∈ path
  unseen : marks[node]? = some .unseen

namespace Underway

/-- Ways along a path lead to where the search stands. -/
theorem way_of_mem {j : Nat} (h : (node :: path).IsChain fun a b ↦ graph.Points b a)
    (hj : j ∈ path) : Relation.TransGen graph.Points j node := by
  have hways : (node :: path).IsChain (Relation.TransGen fun a b ↦ graph.Points b a) :=
    h.imp fun _ _ hpoints ↦ .single hpoints
  have hapart := List.isChain_iff_pairwise.1 hways
  exact Relation.transGen_swap.2 (List.rel_of_pairwise_cons hapart hj)

/-- A path of a graph without cycles is no longer than the graph. -/
theorem length_lt (h : graph.Underway marks path node) (hacyclic : graph.Acyclic) :
    path.length < graph.size := by
  have hforth : (node :: path).reverse.IsChain graph.Points := List.isChain_reverse.2 h.chain
  have hnodup : (node :: path).Nodup := (List.reverse_perm _).nodup_iff.1 (hacyclic.nodup hforth)
  have hsubset : node :: path ⊆ List.range graph.size := by
    refine List.cons_subset.2 ⟨?_, fun j hj ↦ ?_⟩
    · rw [List.mem_range, ← h.settled.size_eq]
      exact (Array.getElem?_eq_some_iff.1 h.unseen).1
    · -- each node on the path points to something
      obtain ⟨next, hnext, -⟩ := Relation.TransGen.head'_iff.1 (way_of_mem h.chain hj)
      exact List.mem_range.2 (lt_size_of_points hnext)
  have hle := hnodup.length_le_of_subset hsubset
  rwa [List.length_range, List.length_cons] at hle

/-- After the node has been opened and some edges from it have been followed, only nodes on the path
and the node itself are open. -/
theorem open_mem_cons (h : graph.Underway marks path node)
    (hextends : Extends (marks.setIfInBounds node .open) marks') {j : Nat}
    (hj : marks'[j]? = some .open) : j ∈ node :: path := by
  have hopen : (marks.setIfInBounds node .open)[j]? = some .open := by
    rcases hextends j with heq | ⟨-, hdone⟩
    · rw [← heq, hj]
    · rw [hj] at hdone
      cases hdone
  rw [Array.getElem?_setIfInBounds] at hopen
  split at hopen
  case isTrue heq => exact heq ▸ List.mem_cons_self
  case isFalse => exact List.mem_cons_of_mem node (h.open_mem j hopen)

/-- An edge to an open node would close a cycle. -/
theorem ne_open (h : graph.Underway marks path node) (hacyclic : graph.Acyclic)
    (hextends : Extends (marks.setIfInBounds node .open) marks') {next : Nat}
    (hnext : graph.Points node next) : marks'[next]? ≠ some .open := by
  intro hopen
  rcases List.mem_cons.1 (h.open_mem_cons hextends hopen) with rfl | hmem
  · exact hacyclic next (.single hnext)
  · exact hacyclic next (.tail (way_of_mem h.chain hmem) hnext)

end Underway

/-- Following the edges of a node finds nothing, if the visits that it makes find nothing. -/
theorem exists_follow (h : graph.Underway marks path node) (hacyclic : graph.Acyclic)
    (hvisit : ∀ {next : Nat} {before : Array Mark},
      graph.Underway before (node :: path) next →
        ∃ after, graph.visit room (node :: path) next before = .ok after)
    {nexts : List Nat} (hnexts : ∀ next ∈ nexts, graph.Points node next) {before : Array Mark}
    (hsettled : graph.Settled before)
    (hextends : Extends (marks.setIfInBounds node .open) before) :
    ∃ after, nexts.foldlM (followEdge (graph.visit room (node :: path)) (closedBy (node :: path)))
      before = .ok after := by
  induction nexts generalizing before with
  | nil => exact ⟨before, rfl⟩
  | cons next nexts ih =>
    obtain ⟨hnext, hnexts⟩ := List.forall_mem_cons.1 hnexts
    rw [List.foldlM_cons, followEdge]
    cases hmark : before[next]? with
    | none => exact ih hnexts hsettled hextends
    | some mark =>
      cases mark with
      | «open» => exact absurd hmark (h.ne_open hacyclic hextends hnext)
      | done => exact ih hnexts hsettled hextends
      | unseen =>
        have hunderway : graph.Underway before (node :: path) next :=
          ⟨hsettled, .cons_cons hnext h.chain, fun _ ↦ h.open_mem_cons hextends, hmark⟩
        obtain ⟨between, hbetween⟩ := hvisit hunderway
        obtain ⟨hsettled', hextends', -⟩ := sound_visit room (node :: path) hsettled hmark hbetween
        dsimp only
        rw [hbetween, Except.ok_bind]
        exact ih hnexts hsettled' (hextends.trans hextends')

/-- **A visit finds nothing** where there is no cycle and room for all nodes. -/
theorem exists_visit (hacyclic : graph.Acyclic) (h : graph.Underway marks path node)
    (hroom : graph.size ≤ room + path.length) :
    ∃ marks', graph.visit room path node marks = .ok marks' := by
  induction room generalizing path node marks with
  | zero =>
    have hlt := h.length_lt hacyclic
    omega
  | succ room ih =>
    have hvisit {next : Nat} {before : Array Mark}
        (hnext : graph.Underway before (node :: path) next) :
        ∃ after, graph.visit room (node :: path) next before = .ok after :=
      ih hnext (by rw [List.length_cons]; omega)
    obtain ⟨after, hafter⟩ := exists_follow h hacyclic hvisit (fun _ hnext ↦ hnext)
      (h.settled.setOpen node) (.refl _)
    exact ⟨after.setIfInBounds node .done, Except.bind_eq_ok_iff.2 ⟨after, hafter, rfl⟩⟩

/-- The search goes on from node to node. -/
theorem exists_searchFrom (hacyclic : graph.Acyclic) (hroom : graph.size ≤ room)
    (hsettled : graph.Settled marks) (hopen : ∀ j : Nat, marks[j]? ≠ some .open)
    (nodes : List Nat) :
    ∃ marks', nodes.foldlM (startFrom (graph.visit room [])) marks = .ok marks' := by
  induction nodes generalizing marks with
  | nil => exact ⟨marks, rfl⟩
  | cons node nodes ih =>
    rw [List.foldlM_cons, startFrom]
    cases hmark : marks[node]? with
    | none => exact ih hsettled hopen
    | some mark =>
      cases mark with
      | «open» | done => exact ih hsettled hopen
      | unseen =>
        have hunderway : graph.Underway marks [] node :=
          ⟨hsettled, .singleton node, fun j hj ↦ absurd hj (hopen j), hmark⟩
        obtain ⟨between, hbetween⟩ := exists_visit hacyclic hunderway hroom
        obtain ⟨hsettled', hextends, -⟩ := sound_visit room [] hsettled hmark hbetween
        dsimp only
        rw [hbetween, Except.ok_bind]
        exact ih hsettled' fun j ↦ hextends.ne_open (hopen j)

/-- **A search of a graph without cycles finds nothing**, if it may go as deep as there are
nodes. -/
theorem search_eq_ok_of_acyclic {depth : Nat} (hacyclic : graph.Acyclic)
    (hdepth : graph.size ≤ depth + 1) : graph.search depth = .ok () :=
  Except.discard_eq_ok_iff.2 (exists_searchFrom hacyclic hdepth (settled_replicate graph)
    (getElem?_replicate_ne (by decide) graph.size) _)

/-- **A search finds nothing exactly where there is no cycle**, if it may go as deep as there are
nodes. -/
theorem search_eq_ok_iff {depth : Nat} (hdepth : graph.size ≤ depth + 1) :
    graph.search depth = .ok () ↔ graph.Acyclic :=
  ⟨acyclic_of_search, fun hacyclic ↦ search_eq_ok_of_acyclic hacyclic hdepth⟩

end PointBuy.Graph
