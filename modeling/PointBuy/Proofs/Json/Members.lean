import Mathlib.Data.List.Nodup
import Mathlib.Data.List.Sort
import Mathlib.Order.Basic
import Mathlib.Data.String.Basic
import PointBuy.Json.Basic

/-!
# Members in order

The members of an object are kept in the order of their names, each name once. Such a list is
determined by its members (`Json.InOrder.eq_of_mem_iff`), and members of different names are put
into it without a loss.

## Main definition

* `Json.InOrder` : names that ascend.

## Main statements

* `Json.mem_sortMembers`, `Json.inOrder_sortMembers` : members of different names are put in order.
* `Json.InOrder.eq_of_mem_iff` : members in order are determined by which they are.
-/

namespace PointBuy.Json

variable {α : Type} {members members' : List (String × α)}

/-- The names of the members ascend, so that each is there once. -/
def InOrder (members : List (String × α)) : Prop := members.Pairwise fun m n ↦ m.1 < n.1

namespace InOrder

theorem nodup_names (h : InOrder members) : (members.map Prod.fst).Nodup :=
  List.pairwise_map.2 (h.imp fun hlt ↦ ne_of_lt hlt)

theorem filter (h : InOrder members) (p : String × α → Bool) : InOrder (members.filter p) :=
  List.Pairwise.filter p h

/-- **Members in order are determined by which they are.** -/
theorem eq_of_mem_iff (h : InOrder members) (h' : InOrder members')
    (hmem : ∀ m, m ∈ members ↔ m ∈ members') : members = members' := by
  have hperm : members.Perm members' :=
    (List.perm_ext_iff_of_nodup (List.Nodup.of_map _ h.nodup_names)
      (List.Nodup.of_map _ h'.nodup_names)).2 hmem
  exact hperm.eq_of_pairwise (fun _ _ _ _ hlt hgt ↦ absurd hgt (lt_asymm hlt)) h h'

end InOrder

/-- Members of different names in ascending order are kept, each of them. -/
theorem foldr_of_inOrder (h : InOrder members) :
    members.foldr
      (fun m kept => match kept with
        | next :: _ => if m.1 = next.1 then kept else m :: kept
        | [] => [m])
      [] = members := by
  induction members with
  | nil => rfl
  | cons m members ih =>
    obtain ⟨hfirst, hrest⟩ := List.pairwise_cons.1 h
    rw [List.foldr_cons, ih hrest]
    cases members with
    | nil => rfl
    | cons next members => exact if_neg (ne_of_lt (hfirst next List.mem_cons_self))

section Sorted

variable (h : (members.map Prod.fst).Nodup)

include h

theorem inOrder_mergeSort : InOrder (members.mergeSort fun a b => decide (a.1 ≤ b.1)) := by
  have hsorted : (members.mergeSort fun a b => decide (a.1 ≤ b.1)).Pairwise
      fun a b ↦ decide (a.1 ≤ b.1) = true := by
    refine List.pairwise_mergeSort (fun a b c hab hbc ↦ ?_) (fun a b ↦ ?_) members
    · exact decide_eq_true (le_trans (of_decide_eq_true hab) (of_decide_eq_true hbc))
    · rw [Bool.or_eq_true, decide_eq_true_iff, decide_eq_true_iff]
      exact le_total a.1 b.1
  have hnodup : ((members.mergeSort fun a b => decide (a.1 ≤ b.1)).map Prod.fst).Nodup :=
    ((List.mergeSort_perm members _).map Prod.fst).nodup_iff.2 h
  exact hsorted.imp₂ (fun _ _ hle hne ↦ lt_of_le_of_ne (of_decide_eq_true hle) hne)
    (List.pairwise_map.1 hnodup)

theorem sortMembers_eq_mergeSort :
    sortMembers members = members.mergeSort fun a b => decide (a.1 ≤ b.1) :=
  foldr_of_inOrder (inOrder_mergeSort h)

theorem inOrder_sortMembers : InOrder (sortMembers members) := by
  rw [sortMembers_eq_mergeSort h]
  exact inOrder_mergeSort h

/-- Of members of different names none is lost. -/
theorem mem_sortMembers {m : String × α} : m ∈ sortMembers members ↔ m ∈ members := by
  rw [sortMembers_eq_mergeSort h]
  exact (List.mergeSort_perm members _).mem_iff

end Sorted
end PointBuy.Json
