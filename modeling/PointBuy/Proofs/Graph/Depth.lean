import Mathlib.Data.List.Range
import PointBuy.Proofs.Graph.Findings

/-!
# How deep a search goes

A search is refused more than a certain number of edges on its way down, but it does not go down
from a node that it has seen before. So how deep it goes depends on the graph only in one direction.
Where no path has more edges than allowed, the search never goes too deep. But where the nodes come
in such an order that each points to earlier ones only, it never goes down at all, however long the
paths are; and where each points to the next one first, it goes down as far as there are nodes.

## Main statements

* `search_eq_ok_of_short` : where all paths are short, a search finds nothing.
* `search_eq_ok_of_backward` : where all edges lead to earlier nodes, a search finds nothing.
* `search_eq_tooDeep_of_forward` : where each node points to the next one first, a search goes too
  deep.
-/

namespace PointBuy.Graph

variable {graph : Graph} {marks : Array Mark} {path : List Nat} {room depth node : Nat}

/-! ### Short paths -/

/-- A circle is no part of a graph without cycles: once around it, a path meets a node again. -/
theorem Circle.not_acyclic {members : List Nat} (h : graph.Circle members) : ¬ graph.Acyclic := by
  intro hacyclic
  obtain ⟨first, last, hfirst, hlast, hpoints⟩ := h.closes
  have haround : (members ++ [first]).IsChain graph.Points := by
    refine List.isChain_append.2 ⟨h.chain, .singleton first, fun i hi j hj ↦ ?_⟩
    obtain rfl := Option.some.inj (hlast.symm.trans hi)
    obtain rfl := Option.some.inj hj
    exact hpoints
  have happart := (List.nodup_append.1 (hacyclic.nodup haround)).2.2
  exact happart first (List.mem_of_mem_head? hfirst) first List.mem_cons_self rfl

/-- From a node that a way leads back to, paths of any length start. -/
theorem exists_path_of_way {i : Nat} (h : Relation.TransGen graph.Points i i) (length : Nat) :
    ∃ path, path.length = length ∧ (i :: path).IsChain graph.Points := by
  induction length generalizing i with
  | zero => exact ⟨[], rfl, .singleton i⟩
  | succ length ih =>
    obtain ⟨j, hpoints, hback⟩ := Relation.TransGen.head'_iff.1 h
    obtain ⟨path, hlength, hpath⟩ := ih (Relation.TransGen.tail' hback hpoints)
    exact ⟨j :: path, congrArg (· + 1) hlength, .cons_cons hpoints hpath⟩

/-- Where paths are not longer than they may be, there is no cycle to go round and round. -/
theorem acyclic_of_short {bound : Nat}
    (h : ∀ path : List Nat, path.IsChain graph.Points → path.length ≤ bound) : graph.Acyclic := by
  intro i hway
  obtain ⟨path, hlength, hpath⟩ := exists_path_of_way hway bound
  have hle := h (i :: path) hpath
  rw [List.length_cons, hlength] at hle
  exact Nat.not_succ_le_self bound hle

/-- **Where no path has more edges than allowed, a search finds nothing.** -/
theorem search_eq_ok_of_short
    (h : ∀ path : List Nat, path.IsChain graph.Points → path.length ≤ depth + 1) :
    graph.search depth = .ok () := by
  cases hsearch : graph.search depth with
  | ok => rfl
  | error finding =>
    have hholds := holds_of_search hsearch
    cases finding with
    | cycle members => exact absurd (acyclic_of_short h) hholds.not_acyclic
    | tooDeep node =>
      obtain ⟨-, path, hpath, -, hlength⟩ := hholds
      exact absurd (h path hpath.chain) (Nat.not_le.2 hlength)

/-! ### Nodes in order -/

/-- The marks of a search that has done all nodes before one and seen no other. -/
def doneBefore (size node : Nat) : Array Mark :=
  ((List.range size).map fun j ↦ if j < node then Mark.done else .unseen).toArray

theorem getElem?_doneBefore (size node j : Nat) :
    (doneBefore size node)[j]? =
      if j < size then some (if j < node then .done else .unseen) else none := by
  rw [doneBefore, List.getElem?_toArray, List.getElem?_map]
  split
  case isTrue hj => rw [List.getElem?_range hj, Option.map_some]
  case isFalse hj => rw [List.getElem?_eq_none (by simpa using hj), Option.map_none]

/-- To follow edges to nodes that are done changes nothing. -/
theorem follow_eq_of_done {enter : Nat → Array Mark → Except Finding (Array Mark)}
    {cycle : Nat → List Nat} {nexts : List Nat} (h : ∀ next ∈ nexts, marks[next]? = some .done) :
    nexts.foldlM (followEdge enter cycle) marks = .ok marks := by
  induction nexts with
  | nil => rfl
  | cons next nexts ih =>
    obtain ⟨hnext, hnexts⟩ := List.forall_mem_cons.1 h
    rw [List.foldlM_cons, followEdge, hnext]
    exact ih hnexts

/-- A visit of a node that points to earlier ones only, where these are done. -/
theorem visit_doneBefore (h : ∀ j, graph.Points node j → j < node) (hnode : node < graph.size) :
    graph.visit (room + 1) path node (doneBefore graph.size node) =
      .ok (doneBefore graph.size (node + 1)) := by
  have hdone (j : Nat) (hj : graph.Points node j) :
      ((doneBefore graph.size node).setIfInBounds node .open)[j]? = some .done := by
    have hlt := h j hj
    rw [Array.getElem?_setIfInBounds_ne (Nat.ne_of_gt hlt), getElem?_doneBefore,
      if_pos (hlt.trans hnode), if_pos hlt]
  refine Except.bind_eq_ok_iff.2 ⟨_, follow_eq_of_done hdone, ?_⟩
  rw [Except.pure_eq_ok]
  refine congrArg _ (Array.ext_getElem? fun j ↦ ?_)
  rw [Array.getElem?_setIfInBounds, Array.size_setIfInBounds, getElem?_doneBefore]
  by_cases hj : node = j
  · subst hj
    have hsize : node < (doneBefore graph.size node).size := by simpa [doneBefore] using hnode
    rw [if_pos rfl, if_pos hsize, if_pos hnode, if_pos (Nat.lt_succ_self node)]
  · have hsame : j < node + 1 ↔ j < node := by omega
    rw [if_neg hj, Array.getElem?_setIfInBounds_ne hj, getElem?_doneBefore]
    simp only [hsame]

/-- **Where all edges lead to earlier nodes, a search finds nothing**, however long paths are: when
it comes to a node, all nodes that this one points to are done. -/
theorem search_eq_ok_of_backward (h : ∀ i j, graph.Points i j → j < i) (depth : Nat) :
    graph.search depth = .ok () := by
  have hfold (node : Nat) (hnode : node ≤ graph.size) :
      (List.range node).foldlM (startFrom (graph.visit (depth + 1) []))
        (doneBefore graph.size 0) = .ok (doneBefore graph.size node) := by
    induction node with
    | zero => rfl
    | succ node ih =>
      have hunseen : (doneBefore graph.size node)[node]? = some .unseen := by
        rw [getElem?_doneBefore, if_pos (Nat.lt_of_succ_le hnode), if_neg (Nat.lt_irrefl node)]
      rw [List.range_succ, List.foldlM_append, ih (Nat.le_of_succ_le hnode), Except.ok_bind,
        List.foldlM_cons, startFrom, hunseen]
      dsimp only
      rw [visit_doneBefore (h node) hnode]
      rfl
  have hblank : Array.replicate graph.size Mark.unseen = doneBefore graph.size 0 := by
    refine Array.ext_getElem? fun j ↦ ?_
    rw [getElem?_doneBefore, Array.getElem?_replicate]
    simp
  refine Except.discard_eq_ok_iff.2 ⟨doneBefore graph.size graph.size, ?_⟩
  rw [hblank]
  exact hfold graph.size (Nat.le_refl _)

/-- A visit goes down from node to node, where each points to the next one first and none has been
seen. -/
theorem visit_eq_tooDeep (h : ∀ i, i < node + room → (graph.pointedTo i).head? = some (i + 1))
    (hunseen : ∀ i, node ≤ i → i ≤ node + room → marks[i]? = some .unseen) :
    graph.visit room path node marks = .error (.tooDeep (node + room)) := by
  induction room generalizing path node marks with
  | zero => rfl
  | succ room ih =>
    obtain ⟨nexts, hnexts⟩ := List.head?_eq_some_iff.1 (h node (by omega))
    have hrest {i : Nat} (hi : node + 1 ≤ i) (hle : i ≤ node + (room + 1)) :
        (marks.setIfInBounds node .open)[i]? = some .unseen := by
      rw [Array.getElem?_setIfInBounds_ne (by omega), hunseen i (by omega) hle]
    have hnext : graph.visit room (node :: path) (node + 1) (marks.setIfInBounds node .open) =
        .error (.tooDeep (node + 1 + room)) :=
      ih (fun i hi ↦ h i (by omega)) fun i hi hle ↦ hrest hi (by omega)
    rw [visit, hnexts, List.foldlM_cons, hrest (Nat.le_refl _) (by omega)]
    dsimp only
    rw [hnext, Nat.add_right_comm node 1 room, Nat.add_assoc]
    rfl

/-- **Where each node points to the next one first, a search goes too deep**, if there are more
nodes than it may go down. -/
theorem search_eq_tooDeep_of_forward (hsize : depth + 1 < graph.size)
    (h : ∀ i < depth + 1, (graph.pointedTo i).head? = some (i + 1)) :
    graph.search depth = .error (.tooDeep (depth + 1)) := by
  have hunseen (i : Nat) (hi : i ≤ depth + 1) :
      (Array.replicate graph.size Mark.unseen)[i]? = some .unseen := by
    rw [Array.getElem?_replicate, if_pos (by omega)]
  have hvisit : graph.visit (depth + 1) [] 0 (Array.replicate graph.size .unseen) =
      .error (.tooDeep (0 + (depth + 1))) :=
    visit_eq_tooDeep (fun i hi ↦ h i (by omega)) fun i _ hi ↦ hunseen i (by omega)
  obtain ⟨size, hsucc⟩ : ∃ size, graph.size = size + 1 := ⟨graph.size - 1, by omega⟩
  refine Except.discard_eq_error_iff.2 ?_
  rw [hsucc, List.range_succ_eq_map, ← hsucc, List.foldlM_cons, hunseen 0 (Nat.zero_le _)]
  dsimp only
  rw [hvisit, Nat.zero_add]
  rfl

end PointBuy.Graph
