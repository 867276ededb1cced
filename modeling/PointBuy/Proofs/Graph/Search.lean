import Mathlib.Data.List.Chain
import Mathlib.Order.WellFounded
import PointBuy.Graph
import PointBuy.Proofs.Except

/-!
# Graphs in which a search finds nothing

A search that ends without a finding has marked every node as done, and a node is only marked as
done when all nodes that it points to are. So the nodes that are done rest on nothing but one
another, in a well-founded way: this is the invariant of the search (`Settled`). What one visit does
to the marks of other nodes is small, since it leaves the open ones alone and turns unseen ones into
done ones (`Extends`), and this carries the invariant through all visits.

In a graph without cycles, no path meets a node twice, and so none has more nodes than the graph.

## Main statements

* `wellFounded_of_search` : a search finds nothing only where pointing is well-founded.
* `acyclic_of_search` : a search finds nothing only where there is no cycle.
* `Acyclic.length_le` : a path in a graph without cycles has no more nodes than the graph.
-/

namespace PointBuy.Graph

/-- Whether a node points to another one. -/
def Points (graph : Graph) (i j : Nat) : Prop := j ∈ graph.pointedTo i

/-- No way along the edges leads from a node back to it. -/
def Acyclic (graph : Graph) : Prop := ∀ i, ¬ Relation.TransGen graph.Points i i

/-! ### Paths -/

section Paths

variable {graph : Graph} {path : List Nat}

/-- Only a node points to others. -/
theorem lt_size_of_points {i j : Nat} (h : graph.Points i j) : i < graph.size := by
  by_contra hge
  rw [Points, pointedTo, Array.getElem?_eq_none (Nat.le_of_not_lt hge)] at h
  cases h

/-- A path without cycles has no node twice. -/
theorem Acyclic.nodup (h : graph.Acyclic) (hpath : path.IsChain graph.Points) : path.Nodup := by
  have hways : path.IsChain (Relation.TransGen graph.Points) :=
    hpath.imp fun _ _ hpoints ↦ .single hpoints
  have hapart : path.Pairwise (Relation.TransGen graph.Points) := List.isChain_iff_pairwise.1 hways
  refine hapart.imp ?_
  rintro i _ hway rfl
  exact h i hway

/-- All members of a chain have a property that its last one has, and each that goes on. -/
theorem forall_mem_of_isChain {R : Nat → Nat → Prop} {P : Nat → Prop} {last : Nat}
    (hpath : path.IsChain R) (hlast : path.getLast? = some last)
    (hgoesOn : ∀ {i j}, R i j → P i) (h : P last) : ∀ i ∈ path, P i := by
  intro i hi
  obtain ⟨before, after, rfl⟩ := List.append_of_mem hi
  cases after with
  | nil =>
    obtain rfl : i = last := Option.some.inj (List.getLast?_concat.symm.trans hlast)
    exact h
  | cons j after => exact hgoesOn (List.isChain_cons_cons.1 (List.isChain_append.1 hpath).2.1).1

/-- **A path in a graph without cycles has no more nodes than the graph**, if edges lead to
nodes. -/
theorem Acyclic.length_le (h : graph.Acyclic) (hedges : ∀ {i j}, graph.Points i j → j < graph.size)
    {i : Nat} (hi : i < graph.size) (hpath : (i :: path).IsChain graph.Points) :
    (i :: path).length ≤ graph.size := by
  have hnodes (i : Nat) (path : List Nat) (hi : i < graph.size)
      (hpath : (i :: path).IsChain graph.Points) : i :: path ⊆ List.range graph.size := by
    induction path generalizing i with
    | nil => simpa using hi
    | cons j path ih =>
      obtain ⟨hpoints, hpath⟩ := List.isChain_cons_cons.1 hpath
      exact List.cons_subset.2 ⟨List.mem_range.2 hi, ih j (hedges hpoints) hpath⟩
  have hle := (h.nodup hpath).length_le_of_subset (hnodes i path hi hpath)
  rwa [List.length_range] at hle

end Paths

/-! ### Marks -/

/-- What visits do to marks: they turn some unseen nodes into done ones. -/
def Extends (marks marks' : Array Mark) : Prop :=
  ∀ j : Nat, marks'[j]? = marks[j]? ∨ marks[j]? = some .unseen ∧ marks'[j]? = some .done

namespace Extends

variable {marks marks' marks'' : Array Mark} {j : Nat}

theorem refl (marks : Array Mark) : Extends marks marks := fun _ ↦ .inl rfl

theorem trans (h : Extends marks marks') (h' : Extends marks' marks'') : Extends marks marks'' := by
  intro j
  rcases h j with hj | ⟨hj, hdone⟩ <;> rcases h' j with hj' | ⟨hj', hdone'⟩
  · exact .inl (hj'.trans hj)
  · exact .inr ⟨hj ▸ hj', hdone'⟩
  · exact .inr ⟨hj, hj'.trans hdone⟩
  · rw [hdone] at hj'
    cases hj'

/-- A mark other than `unseen` stays. -/
theorem eq_of_ne (h : Extends marks marks') (hne : marks[j]? ≠ some .unseen) :
    marks'[j]? = marks[j]? :=
  (h j).resolve_right fun hj ↦ hne hj.1

theorem ne_open (h : Extends marks marks') (hne : marks[j]? ≠ some .open) :
    marks'[j]? ≠ some .open := by
  rcases h j with hj | ⟨-, hj⟩
  · rwa [hj]
  · rw [hj]
    exact fun hopen ↦ by cases hopen

end Extends

section Search

variable {graph : Graph} {marks marks' : Array Mark} {room node : Nat}

/-- A node that rests on nothing, or only on nodes that do, in finitely many steps. -/
def Grounded (graph : Graph) (i : Nat) : Prop := Acc (fun a b ↦ graph.Points b a) i

theorem grounded_of_le (h : graph.size ≤ node) : graph.Grounded node := by
  refine .intro node fun next hnext ↦ ?_
  rw [Points, pointedTo, Array.getElem?_eq_none h] at hnext
  cases hnext

/-- **The invariant of a search.** Each node has a mark, and the nodes that are done are
grounded. -/
structure Settled (graph : Graph) (marks : Array Mark) : Prop where
  size_eq : marks.size = graph.size
  grounded : ∀ j, marks[j]? = some .done → graph.Grounded j

namespace Settled

/-- Opening a node settles nothing new. -/
theorem setOpen (h : graph.Settled marks) (node : Nat) :
    graph.Settled (marks.setIfInBounds node .open) where
  size_eq := by rw [Array.size_setIfInBounds, h.size_eq]
  grounded j hj := by
    rw [Array.getElem?_setIfInBounds] at hj
    split at hj
    · split at hj <;> cases hj
    · exact h.grounded j hj

/-- A node that is grounded may be marked as done. -/
theorem setDone (h : graph.Settled marks) (hnode : graph.Grounded node) :
    graph.Settled (marks.setIfInBounds node .done) where
  size_eq := by rw [Array.size_setIfInBounds, h.size_eq]
  grounded j hj := by
    rw [Array.getElem?_setIfInBounds] at hj
    split at hj
    case isTrue heq => exact heq ▸ hnode
    case isFalse => exact h.grounded j hj

/-- A node that has been followed is grounded, as it is done or there is no such node. -/
theorem grounded_of_followed (h : graph.Settled marks)
    (hnode : marks[node]? = some .done ∨ marks[node]? = none) : graph.Grounded node := by
  rcases hnode with hdone | hnone
  · exact h.grounded node hdone
  · exact grounded_of_le (h.size_eq ▸ Array.getElem?_eq_none_iff.1 hnone)

end Settled

/-- Opening an unseen node and marking it as done after what visits have done turns an unseen node
into a done one. -/
theorem Extends.around (hunseen : marks[node]? = some .unseen)
    (h : Extends (marks.setIfInBounds node .open) marks') :
    Extends marks (marks'.setIfInBounds node .done) ∧
      (marks'.setIfInBounds node .done)[node]? = some .done := by
  have hlt : node < marks.size := (Array.getElem?_eq_some_iff.1 hunseen).1
  have hopen : (marks.setIfInBounds node .open)[node]? = some .open := by
    rw [Array.getElem?_setIfInBounds, if_pos rfl, if_pos hlt]
  have hopen' : marks'[node]? = some .open := by
    have hseen : (marks.setIfInBounds node .open)[node]? ≠ some .unseen := by
      rw [hopen]
      decide
    rw [h.eq_of_ne hseen, hopen]
  have hdone : (marks'.setIfInBounds node .done)[node]? = some .done := by
    rw [Array.getElem?_setIfInBounds, if_pos rfl,
      if_pos (Array.getElem?_eq_some_iff.1 hopen').1]
  refine ⟨fun j ↦ ?_, hdone⟩
  by_cases hj : node = j
  · subst hj
    exact .inr ⟨hunseen, hdone⟩
  · have hj' := h j
    rw [Array.getElem?_setIfInBounds, if_neg hj] at hj' ⊢
    exact hj'

/-- What a visit does about one node that its node points to. -/
def followEdge (enter : Nat → Array Mark → Except Finding (Array Mark)) (cycle : Nat → List Nat)
    (marks : Array Mark) (next : Nat) : Except Finding (Array Mark) :=
  match marks[next]? with
  | some .open => .error (.cycle (cycle next))
  | some .unseen => enter next marks
  | some .done | none => .ok marks

/-- What a search does about one node. -/
def startFrom (enter : Nat → Array Mark → Except Finding (Array Mark)) (marks : Array Mark)
    (node : Nat) : Except Finding (Array Mark) :=
  match marks[node]? with
  | some .unseen => enter node marks
  | some .open | some .done | none => .ok marks

/-- What a visit keeps and achieves, from any marks. -/
def Sound (graph : Graph) (enter : Nat → Array Mark → Except Finding (Array Mark)) : Prop :=
  ∀ {next : Nat} {before after : Array Mark}, graph.Settled before →
    before[next]? = some .unseen → enter next before = .ok after →
    graph.Settled after ∧ Extends before after ∧ after[next]? = some .done

/-- Following the edges of a node keeps the invariant, if visits do. -/
theorem Settled.follow {enter : Nat → Array Mark → Except Finding (Array Mark)}
    (hsound : graph.Sound enter) {cycle : Nat → List Nat} {nexts : List Nat}
    (h : graph.Settled marks) (hfold : nexts.foldlM (followEdge enter cycle) marks = .ok marks') :
    graph.Settled marks' ∧ Extends marks marks' ∧
      ∀ next ∈ nexts, marks'[next]? = some .done ∨ marks'[next]? = none := by
  induction nexts generalizing marks with
  | nil =>
    obtain rfl := Except.ok.inj hfold
    exact ⟨h, .refl _, fun _ hnext ↦ by cases hnext⟩
  | cons next nexts ih =>
    rw [List.foldlM_cons] at hfold
    obtain ⟨between, hstep, hrest⟩ := Except.bind_eq_ok_iff.1 hfold
    have hbetween : graph.Settled between ∧ Extends marks between ∧
        (between[next]? = some .done ∨ between[next]? = none) := by
      rw [followEdge] at hstep
      split at hstep
      case h_1 => cases hstep
      case h_2 hnext =>
        obtain ⟨hsettled, hextends, hdone⟩ := hsound h hnext hstep
        exact ⟨hsettled, hextends, .inl hdone⟩
      case h_3 hnext =>
        obtain rfl := Except.ok.inj hstep
        exact ⟨h, .refl _, .inl hnext⟩
      case h_4 hnext =>
        obtain rfl := Except.ok.inj hstep
        exact ⟨h, .refl _, .inr hnext⟩
    obtain ⟨hsettled, hextends, hnext⟩ := hbetween
    obtain ⟨hsettled', hextends', hnexts⟩ := ih hsettled hrest
    refine ⟨hsettled', hextends.trans hextends', List.forall_mem_cons.2 ⟨?_, hnexts⟩⟩
    rwa [hextends'.eq_of_ne (by rcases hnext with h | h <;> rw [h] <;> decide)]

/-- **One visit keeps the invariant** and marks its node as done, by induction on how deep it may
still go. -/
theorem sound_visit (room : Nat) (path : List Nat) : graph.Sound (graph.visit room path) := by
  -- a visit goes on from the nodes that it enters with one less to go, on a longer path
  induction room generalizing path with
  | zero => exact fun _ _ hvisit ↦ by cases hvisit
  | succ room ih =>
    intro node marks marks' h hunseen hvisit
    obtain ⟨followed, hfold, hfollowed⟩ := Except.bind_eq_ok_iff.1 hvisit
    obtain rfl := Except.ok.inj hfollowed
    obtain ⟨hsettled, hextends, hnexts⟩ := (h.setOpen node).follow (ih (node :: path)) hfold
    have hnode : graph.Grounded node :=
      .intro node fun next hpoints ↦ hsettled.grounded_of_followed (hnexts next hpoints)
    exact ⟨hsettled.setDone hnode, hextends.around hunseen⟩

/-- Each node that the search starts from is grounded in the end. -/
theorem Settled.search {nodes : List Nat} (h : graph.Settled marks)
    (hopen : ∀ j : Nat, marks[j]? ≠ some .open)
    (hfold : nodes.foldlM (startFrom (graph.visit room [])) marks = .ok marks') :
    ∀ node ∈ nodes, graph.Grounded node := by
  induction nodes generalizing marks with
  | nil => exact fun _ hnode ↦ by cases hnode
  | cons node nodes ih =>
    rw [List.foldlM_cons] at hfold
    obtain ⟨between, hstep, hrest⟩ := Except.bind_eq_ok_iff.1 hfold
    have hbetween : graph.Settled between ∧ Extends marks between ∧ graph.Grounded node := by
      rw [startFrom] at hstep
      split at hstep
      case h_1 hnode =>
        obtain ⟨hsettled, hextends, hdone⟩ := sound_visit room [] h hnode hstep
        exact ⟨hsettled, hextends, hsettled.grounded node hdone⟩
      case h_2 hnode => exact absurd hnode (hopen node)
      case h_3 hnode =>
        obtain rfl := Except.ok.inj hstep
        exact ⟨h, .refl _, h.grounded_of_followed (.inl hnode)⟩
      case h_4 hnode =>
        obtain rfl := Except.ok.inj hstep
        exact ⟨h, .refl _, h.grounded_of_followed (.inr hnode)⟩
    obtain ⟨hsettled, hextends, hnode⟩ := hbetween
    exact List.forall_mem_cons.2 ⟨hnode, ih hsettled (fun j ↦ hextends.ne_open (hopen j)) hrest⟩

/-- Before a search, no node has been seen. -/
theorem getElem?_replicate_ne {mark : Mark} (hne : mark ≠ .unseen) (size j : Nat) :
    (Array.replicate size Mark.unseen)[j]? ≠ some mark := by
  rw [Array.getElem?_replicate]
  split
  · exact fun heq ↦ hne (Option.some.inj heq).symm
  · exact fun heq ↦ by cases heq

theorem settled_replicate (graph : Graph) :
    graph.Settled (Array.replicate graph.size .unseen) where
  size_eq := Array.size_replicate
  grounded j hj := absurd hj (getElem?_replicate_ne (by decide) graph.size j)

/-- **A search finds nothing only where pointing is well-founded.** -/
theorem wellFounded_of_search {depth : Nat} (h : graph.search depth = .ok ()) :
    WellFounded fun a b ↦ graph.Points b a := by
  obtain ⟨marks, hfold⟩ := Except.discard_eq_ok_iff.1 h
  refine ⟨fun node ↦ ?_⟩
  by_cases hnode : node < graph.size
  · exact (settled_replicate graph).search (getElem?_replicate_ne (by decide) graph.size) hfold node
      (List.mem_range.2 hnode)
  · exact grounded_of_le (Nat.le_of_not_lt hnode)

/-- **A search finds nothing only where there is no cycle.** -/
theorem acyclic_of_search {depth : Nat} (h : graph.search depth = .ok ()) : graph.Acyclic := by
  intro i hway
  have hflipped : Relation.TransGen (fun a b ↦ graph.Points b a) i i :=
    Relation.transGen_swap.2 hway
  exact (wellFounded_of_search h).transGen.irrefl.irrefl i hflipped

end Search

end PointBuy.Graph
