import PointBuy.Declaration.Outline
import PointBuy.Proofs.Except

/-!
# Reading line by line

A source is read by one step for each line, and reading ends well where no step finds a fault and no
block is left open. The steps alone (`Outline.run`) can be put together: what is read of two lists
of lines one behind the other is what is read of the first and then, with further numbers, of the
second.

## Main definition

* `Outline.run` : the steps for some lines, as far as there is no fault.

## Main statements

* `Outline.run_append` : lines are read one list behind the other.
* `Outline.read_eq_iff` : what it means to read to the end without a fault.
-/

namespace PointBuy.Outline

variable {path : String} {outline outline' : Outline} {number : Nat} {ls : List (List Char)}

/-- The outline after some lines, the first of which has the given number. -/
def run (path : String) : Outline → Nat → List (List Char) →
    Except (Located DeclarationError) Outline
  | outline, _, [] => .ok outline
  | outline, number, line :: rest => do
    run path (← outline.step ⟨path, number⟩ line) (number + 1) rest

@[simp]
theorem run_nil (path : String) (outline : Outline) (number : Nat) :
    run path outline number [] = .ok outline := rfl

theorem run_cons (path : String) (outline : Outline) (number : Nat) (line : List Char)
    (ls : List (List Char)) :
    run path outline number (line :: ls) =
      (outline.step ⟨path, number⟩ line >>= fun next ↦ run path next (number + 1) ls) := rfl

/-- **Lines are read one list behind the other.** -/
theorem run_append (ls more : List (List Char)) :
    run path outline number (ls ++ more) =
      (run path outline number ls >>= fun next ↦ run path next (number + ls.length) more) := by
  induction ls generalizing outline number with
  | nil => rfl
  | cons line ls ih =>
    rw [List.cons_append, run_cons, run_cons]
    cases outline.step ⟨path, number⟩ line with
    | error e => rfl
    | ok next =>
      rw [Except.ok_bind, Except.ok_bind, ih, List.length_cons, Nat.add_right_comm, Nat.add_assoc]

/-- **Reading ends well** where no line has a fault and no block is left open. -/
theorem read_eq_iff :
    read path outline number ls = (outline', none) ↔
      run path outline number ls = .ok outline' ∧ outline'.enclosing = [] := by
  induction ls generalizing outline number with
  | nil =>
    rw [read, run_nil, Except.ok.injEq]
    split
    case h_1 henclosing =>
      rw [Prod.mk.injEq]
      exact ⟨fun ⟨heq, _⟩ ↦ ⟨heq, heq ▸ henclosing⟩, fun ⟨heq, _⟩ ↦ ⟨heq, rfl⟩⟩
    case h_2 block rest henclosing =>
      constructor
      · rintro ⟨⟩
      · rintro ⟨rfl, hclosed⟩
        cases henclosing.symm.trans hclosed
  | cons line ls ih =>
    rw [read, run_cons]
    cases outline.step ⟨path, number⟩ line with
    | error e => simp
    | ok next => exact ih

end PointBuy.Outline

namespace PointBuy.Source

variable {source : Source} {ds : List Declaration}

/-- A source declares something without a fault where all its lines can be read. -/
theorem outline_eq_iff :
    source.outline = (ds, none) ↔
      Outline.run source.path .empty 1 (Text.lines source.text.toList) = .ok ⟨ds.reverse, []⟩ := by
  obtain ⟨⟨⟨complete, enclosing⟩, fault⟩, hread⟩ :
      ∃ r, Outline.read source.path .empty 1 (Text.lines source.text.toList) = r := ⟨_, rfl⟩
  have houtline : source.outline = (complete.reverse, fault) := by rw [outline, hread]
  rw [houtline, Prod.mk.injEq, List.reverse_eq_iff]
  constructor
  · rintro ⟨rfl, rfl⟩
    obtain ⟨hrun, rfl⟩ := Outline.read_eq_iff.1 hread
    exact hrun
  · intro hrun
    obtain ⟨heq, rfl⟩ := Prod.mk.inj (hread.symm.trans (Outline.read_eq_iff.2 ⟨hrun, rfl⟩))
    exact ⟨congrArg Outline.complete heq, rfl⟩

theorem declarations_eq_ok_iff : source.declarations = .ok ds ↔ source.outline = (ds, none) := by
  rw [declarations]
  split
  case h_1 heq => rw [heq, Except.ok.injEq, Prod.mk.injEq, and_iff_left rfl]
  case h_2 heq =>
    rw [heq]
    exact ⟨fun h ↦ (nomatch h), fun h ↦ (nomatch h)⟩

end PointBuy.Source
