import Mathlib.Data.List.Nodup
import PointBuy.Proofs.Graph.Completeness

/-!
# What a search finds

A search that ends early says why, and what it says is true of the graph. The nodes on the path to
where it stands are just those that are open, and they are pairwise different, since a node is only
entered when it has not been seen (`Pursuit`). So an edge to an open node leads back onto the path,
and the part of the path from there on is a circle; and a search that would have to go too deep
stands at the end of a path that meets no node twice and has more edges than allowed.

Together with what the end of a search without a finding means, this says for each outcome what it
tells of the graph. In a graph with no more nodes than fit on a path nothing is ever too deep, and
there a search tells exactly whether there is a cycle.

## Main definitions

* `Circle`, `SimplePath` : what findings are about.
* `Finding.Holds` : what a finding says about a graph.

## Main statements

* `holds_of_visit` : what one visit finds is true.
* `outcome_of_search` : what each outcome of a search tells of the graph.
-/

namespace PointBuy.Graph

/-! ### Findings -/

/-- Pairwise different nodes, each of which points to the next one, and the last one to the
first. -/
structure Circle (graph : Graph) (members : List Nat) : Prop where
  ne_nil : members ≠ []
  nodup : members.Nodup
  chain : members.IsChain graph.Points
  closes : ∃ first last, members.head? = some first ∧ members.getLast? = some last ∧
    graph.Points last first

/-- A way along edges that meets no node twice. -/
structure SimplePath (graph : Graph) (path : List Nat) : Prop where
  nodup : path.Nodup
  chain : path.IsChain graph.Points

/-- What a finding says about a graph, where a search may go down at most `depth` edges. A path has
one node more than it has edges. -/
def Finding.Holds (graph : Graph) (depth : Nat) : Finding → Prop
  | .cycle members => graph.Circle members
  | .tooDeep node => node < graph.size ∧
    ∃ path, graph.SimplePath path ∧ path.getLast? = some node ∧ depth + 1 < path.length

variable {graph : Graph} {marks marks' : Array Mark} {path : List Nat} {room depth node next : Nat}
  {finding : Finding}

/-- A path that ends in a node and meets none twice has no more members than there are nodes. -/
theorem SimplePath.length_le (h : graph.SimplePath path) (hlast : path.getLast? = some node)
    (hnode : node < graph.size) : path.length ≤ graph.size := by
  have hnodes := forall_mem_of_isChain h.chain hlast lt_size_of_points hnode
  have hle := h.nodup.length_le_of_subset fun i hi ↦ List.mem_range.2 (hnodes i hi)
  rwa [List.length_range] at hle

/-! ### Pursuits -/

/-- The nodes of a cycle that an edge closes are, last one first, the path down to the node that the
edge leads to. -/
theorem exists_append_eq_path (h : next ∈ path) :
    ∃ rest, (closedBy path next).reverse ++ rest = path := by
  induction path with
  | nil => cases h
  | cons i path ih =>
    by_cases hi : i = next
    · subst hi
      exact ⟨path, by simp [closedBy]⟩
    · obtain ⟨rest, hrest⟩ := ih ((List.mem_cons.1 h).resolve_left (Ne.symm hi))
      exact ⟨rest, by simpa [closedBy, hi] using hrest⟩

/-- **The invariant of a search down a path**: all nodes on the path are open, and none is on it
twice. -/
structure Pursuit (graph : Graph) (marks : Array Mark) (path : List Nat) (node : Nat) : Prop
    extends Underway graph marks path node where
  mem_open : ∀ j ∈ path, marks[j]? = some .open
  nodup : path.Nodup

namespace Pursuit

/-- The node that is entered is not on the path. -/
theorem nodup_cons (h : graph.Pursuit marks path node) : (node :: path).Nodup := by
  refine List.nodup_cons.2 ⟨fun hmem ↦ ?_, h.nodup⟩
  have hopen := h.mem_open node hmem
  rw [h.unseen] at hopen
  cases hopen

/-- The path to a node, with the node itself. -/
theorem simplePath (h : graph.Pursuit marks path node) :
    graph.SimplePath (node :: path).reverse where
  nodup := List.nodup_reverse.2 h.nodup_cons
  chain := List.isChain_reverse.2 h.chain

/-- After the node has been opened and some edges from it have been followed, it and the nodes on
the path are still open. -/
theorem open_of_mem_cons (h : graph.Pursuit marks path node)
    (hextends : Extends (marks.setIfInBounds node .open) marks') {j : Nat}
    (hj : j ∈ node :: path) : marks'[j]? = some .open := by
  have hopen : (marks.setIfInBounds node .open)[j]? = some .open := by
    rw [Array.getElem?_setIfInBounds]
    split
    case isTrue => exact if_pos (Array.getElem?_eq_some_iff.1 h.unseen).1
    case isFalse hne =>
      exact h.mem_open j ((List.mem_cons.1 hj).resolve_left (Ne.symm hne))
  rw [hextends.eq_of_ne (by rw [hopen]; decide), hopen]

/-- **The search goes on** from a node that has not been seen. -/
theorem enter (h : graph.Pursuit marks path node)
    (hextends : Extends (marks.setIfInBounds node .open) marks') (hsettled : graph.Settled marks')
    (hnext : graph.Points node next) (hunseen : marks'[next]? = some .unseen) :
    graph.Pursuit marks' (node :: path) next where
  settled := hsettled
  chain := .cons_cons hnext h.chain
  open_mem _ := h.open_mem_cons hextends
  unseen := hunseen
  mem_open _ := h.open_of_mem_cons hextends
  nodup := h.nodup_cons

/-- **An edge to an open node closes a circle.** -/
theorem circle (h : graph.Pursuit marks path node)
    (hextends : Extends (marks.setIfInBounds node .open) marks') (hnext : graph.Points node next)
    (hopen : marks'[next]? = some .open) : graph.Circle (closedBy (node :: path) next) := by
  obtain ⟨rest, hrest⟩ := exists_append_eq_path (h.open_mem_cons hextends hopen)
  have hsublist := List.sublist_append_left (closedBy (node :: path) next).reverse rest
  rw [hrest] at hsublist
  have hchain : ((closedBy (node :: path) next).reverse ++ rest).IsChain
      fun a b ↦ graph.Points b a := hrest.symm ▸ h.chain
  have hhead : (closedBy (node :: path) next).reverse.head? = some node := by
    have hne : (closedBy (node :: path) next).reverse ≠ [] := by simp [closedBy]
    rw [← List.head?_append_of_ne_nil _ hne, hrest, List.head?_cons]
  refine ⟨List.cons_ne_nil _ _, ?_, ?_, next, node, rfl, ?_, hnext⟩
  · exact List.nodup_reverse.1 (hsublist.nodup h.nodup_cons)
  · exact List.isChain_reverse.1 hchain.left_of_append
  · rw [List.getLast?_eq_head?_reverse, hhead]

end Pursuit

/-! ### Visits -/

/-- What is found behind the edges of a node is true, if what the visits find is. -/
theorem holds_of_follow (h : graph.Pursuit marks path node)
    (hvisit : ∀ {next : Nat} {before : Array Mark}, graph.Pursuit before (node :: path) next →
      graph.visit room (node :: path) next before = .error finding → finding.Holds graph depth)
    {nexts : List Nat} (hnexts : ∀ next ∈ nexts, graph.Points node next) {before : Array Mark}
    (hsettled : graph.Settled before)
    (hextends : Extends (marks.setIfInBounds node .open) before)
    (hfold : nexts.foldlM (followEdge (graph.visit room (node :: path)) (closedBy (node :: path)))
      before = .error finding) : finding.Holds graph depth := by
  induction nexts generalizing before with
  | nil => cases hfold
  | cons next nexts ih =>
    obtain ⟨hnext, hnexts⟩ := List.forall_mem_cons.1 hnexts
    rw [List.foldlM_cons, followEdge] at hfold
    cases hmark : before[next]? with
    | none =>
      rw [hmark] at hfold
      exact ih hnexts hsettled hextends hfold
    | some mark =>
      rw [hmark] at hfold
      cases mark with
      | «open» =>
        obtain rfl := Except.error.inj hfold
        exact h.circle hextends hnext hmark
      | done => exact ih hnexts hsettled hextends hfold
      | unseen =>
        rcases Except.bind_eq_error_iff.1 hfold with hfound | ⟨between, hbetween, hrest⟩
        · exact hvisit (h.enter hextends hsettled hnext hmark) hfound
        · obtain ⟨hsettled', hextends', -⟩ :=
            sound_visit room (node :: path) hsettled hmark hbetween
          exact ih hnexts hsettled' (hextends.trans hextends') hrest

/-- **What one visit finds is true**, by induction on how deep it may still go. -/
theorem holds_of_visit (h : graph.Pursuit marks path node) (hroom : room + path.length = depth + 1)
    (hfound : graph.visit room path node marks = .error finding) :
    finding.Holds graph depth := by
  induction room generalizing path node marks with
  | zero =>
    obtain rfl := Except.error.inj hfound
    have hlt : node < marks.size := (Array.getElem?_eq_some_iff.1 h.unseen).1
    refine ⟨h.settled.size_eq ▸ hlt, _, h.simplePath, ?_, ?_⟩
    · rw [List.getLast?_reverse, List.head?_cons]
    · rw [List.length_reverse, List.length_cons]
      omega
  | succ room ih =>
    rcases Except.bind_eq_error_iff.1 hfound with hfold | ⟨_, -, hdone⟩
    · refine holds_of_follow h (fun hnext ↦ ih hnext ?_) (fun _ hnext ↦ hnext)
        (h.settled.setOpen node) (.refl _) hfold
      rw [List.length_cons]
      omega
    · cases hdone

/-- What the search finds as it goes on from node to node is true. -/
theorem holds_of_searchFrom (hsettled : graph.Settled marks)
    (hopen : ∀ j : Nat, marks[j]? ≠ some .open) {nodes : List Nat}
    (hfold : nodes.foldlM (startFrom (graph.visit (depth + 1) [])) marks = .error finding) :
    finding.Holds graph depth := by
  induction nodes generalizing marks with
  | nil => cases hfold
  | cons node nodes ih =>
    rw [List.foldlM_cons, startFrom] at hfold
    cases hmark : marks[node]? with
    | none =>
      rw [hmark] at hfold
      exact ih hsettled hopen hfold
    | some mark =>
      rw [hmark] at hfold
      cases mark with
      | «open» | done => exact ih hsettled hopen hfold
      | unseen =>
        rcases Except.bind_eq_error_iff.1 hfold with hfound | ⟨between, hbetween, hrest⟩
        · have hstart : graph.Pursuit marks [] node :=
            ⟨⟨hsettled, .singleton node, fun j hj ↦ absurd hj (hopen j), hmark⟩,
              fun _ hj ↦ absurd hj List.not_mem_nil, List.nodup_nil⟩
          exact holds_of_visit hstart rfl hfound
        · obtain ⟨hsettled', hextends, -⟩ := sound_visit (depth + 1) [] hsettled hmark hbetween
          exact ih hsettled' (fun j ↦ hextends.ne_open (hopen j)) hrest

/-- **What a search finds is true.** -/
theorem holds_of_search (h : graph.search depth = .error finding) : finding.Holds graph depth :=
  holds_of_searchFrom (settled_replicate graph) (getElem?_replicate_ne (by decide) graph.size)
    (Except.discard_eq_error_iff.1 h)

/-! ### Outcomes -/

/-- **What each outcome of a search tells of the graph.** It ends without a finding only where there
is no cycle; it finds a cycle only where the nodes it names are one; and it finds a node too deep
only where a path that meets no node twice and has more edges than allowed ends there. In a graph
with at most one node more than the edges allowed, it ends without a finding exactly where there is
no cycle. -/
theorem outcome_of_search (graph : Graph) (depth : Nat) :
    (graph.search depth = .ok () → graph.Acyclic) ∧
    (∀ members, graph.search depth = .error (.cycle members) → graph.Circle members) ∧
    (∀ node, graph.search depth = .error (.tooDeep node) → ∃ path, graph.SimplePath path ∧
      path.getLast? = some node ∧ depth + 1 < path.length) ∧
    (graph.size ≤ depth + 1 → (graph.search depth = .ok () ↔ graph.Acyclic)) :=
  ⟨acyclic_of_search, fun _ h ↦ holds_of_search h, fun _ h ↦ (holds_of_search h).2,
    search_eq_ok_iff⟩

/-- A graph that branches and joins again passes; two nodes in a circle behind another one are
found; and where one edge is allowed, a path of two ends too deep. -/
theorem outcome_of_search_small :
    (search #[[1, 2], [3], [3], []] 5000 = .ok () ∧ Acyclic #[[1, 2], [3], [3], []]) ∧
    (search #[[1], [2], [1]] 5000 = .error (.cycle [1, 2]) ∧ Circle #[[1], [2], [1]] [1, 2]) ∧
    (search #[[1], [2], []] 1 = .error (.tooDeep 2) ∧
      ∃ path, SimplePath #[[1], [2], []] path ∧ path.getLast? = some 2 ∧ 2 < path.length) ∧
    (Array.size (#[[1], [2], [1]] : Graph) ≤ 5001 ∧ ¬ Acyclic #[[1], [2], [1]]) := by
  obtain ⟨hclear, -, -, -⟩ := outcome_of_search #[[1, 2], [3], [3], []] 5000
  obtain ⟨-, hcycle, -, hexact⟩ := outcome_of_search #[[1], [2], [1]] 5000
  obtain ⟨-, -, hdeep, -⟩ := outcome_of_search #[[1], [2], []] 1
  have hjoined : search #[[1, 2], [3], [3], []] 5000 = .ok () := by decide
  have hround : search #[[1], [2], [1]] 5000 = .error (.cycle [1, 2]) := by decide
  have hlong : search #[[1], [2], []] 1 = .error (.tooDeep 2) := by decide
  refine ⟨⟨hjoined, hclear hjoined⟩, ⟨hround, hcycle _ hround⟩, ⟨hlong, hdeep _ hlong⟩,
    by decide, fun hacyclic ↦ ?_⟩
  cases hround.symm.trans ((hexact (by decide)).2 hacyclic)

end PointBuy.Graph
