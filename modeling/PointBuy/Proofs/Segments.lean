/-!
# Segments

A list cut into segments, one for each member of another list. Both sides of a parser are of this
shape: the pieces of a group stand for runs of tokens, and what a pass of the folding leaves behind
stands for runs of the pieces it was given.

## Main statements

* `Segments.append` : segmented lists are put one after the other.
* `Segments.split` : where the members are split, the list is.
-/

namespace PointBuy

variable {α β : Type} {R : List α → β → Prop}

/-- The first list is the concatenation of segments, one for each member of the second, and each
segment stands in the relation `R` to its member. -/
inductive Segments (R : List α → β → Prop) : List α → List β → Prop
  | nil : Segments R [] []
  | cons {segment as : List α} {b : β} {bs : List β} (head : R segment b)
      (tail : Segments R as bs) : Segments R (segment ++ as) (b :: bs)

namespace Segments

theorem single {segment : List α} {b : β} (h : R segment b) : Segments R segment [b] := by
  simpa using cons h nil

theorem append {as as' : List α} {bs bs' : List β} (h : Segments R as bs)
    (h' : Segments R as' bs') : Segments R (as ++ as') (bs ++ bs') := by
  induction h with
  | nil => exact h'
  | cons head _ ih =>
    rw [List.append_assoc]
    exact .cons head ih

/-- Where the members are split, the list is. -/
theorem split {as : List α} {bs bs' : List β} (h : Segments R as (bs ++ bs')) :
    ∃ us vs, as = us ++ vs ∧ Segments R us bs ∧ Segments R vs bs' := by
  induction bs generalizing as with
  | nil => exact ⟨[], as, rfl, .nil, h⟩
  | cons b bs ih =>
    cases h with
    | @cons segment _ _ _ head tail =>
      obtain ⟨us, vs, rfl, hus, hvs⟩ := ih tail
      exact ⟨segment ++ us, vs, (List.append_assoc ..).symm, .cons head hus, hvs⟩

theorem of_cons {as : List α} {b : β} {bs : List β} (h : Segments R as (b :: bs)) :
    ∃ segment rest, as = segment ++ rest ∧ R segment b ∧ Segments R rest bs := by
  cases h with
  | cons head tail => exact ⟨_, _, rfl, head, tail⟩

theorem of_singleton {as : List α} {b : β} (h : Segments R as [b]) : R as b := by
  obtain ⟨segment, rest, rfl, head, tail⟩ := h.of_cons
  cases tail
  simpa using head

end Segments
end PointBuy
