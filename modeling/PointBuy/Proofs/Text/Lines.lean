import Mathlib.Data.List.Basic
import PointBuy.Text.Lines

/-!
# Texts and their lines

A text that is written line by line has just these lines (`Text.lines_of_written`), and where a text
ends with its last line, what follows begins with a new one (`Text.lines_append`). So texts that are
put together have the lines of the first and then those of the second, and no line of the one is
joined to a line of the other.

## Main definitions

* `Text.Written` : a text as its lines are written one after another.
* `Text.Ended` : a text after which a new line begins.
-/

namespace PointBuy.Text

variable {found ls : List (List Char)} {collected line text rest : List Char}

/-- A text that is written line by line. A line ends at a line feed, before which there may be a
carriage return; the last line need not end. -/
inductive Written : List Char → List (List Char) → Prop
  | nil : Written [] []
  | last {line : List Char} (nonempty : line ≠ []) (plain : '\n' ∉ line) : Written line [line]
  | feed {line text : List Char} {ls : List (List Char)} (plain : '\n' ∉ line)
      (unreturned : line.getLast? ≠ some '\r') (rest : Written text ls) :
      Written (line ++ '\n' :: text) (line :: ls)
  | returnFeed {line text : List Char} {ls : List (List Char)} (plain : '\n' ∉ line)
      (rest : Written text ls) : Written (line ++ '\r' :: '\n' :: text) (line :: ls)

/-- A text after which a new line begins: it is empty, or its last line has ended. -/
def Ended (text : List Char) : Prop := text = [] ∨ text.getLast? = some '\n'

/-- The lines that have been found stand in front of all others. -/
theorem splitLines_eq_append (found : List (List Char)) (collected text : List Char) :
    splitLines found collected text = found.reverse ++ splitLines [] collected text := by
  induction text generalizing found collected with
  | nil => cases collected <;> simp [splitLines]
  | cons c text ih =>
    rw [splitLines, splitLines]
    split
    · rw [ih, ih [endedLine collected]]
      simp
    · exact ih found (c :: collected)

/-- What stands in front of the first line feed belongs to one line. -/
theorem splitLines_append (h : '\n' ∉ line) :
    splitLines found collected (line ++ rest) =
      splitLines found (line.reverse ++ collected) rest := by
  induction line generalizing collected with
  | nil => rfl
  | cons c line ih =>
    obtain ⟨hc, hline⟩ := List.ne_and_not_mem_of_not_mem_cons h
    rw [List.cons_append, splitLines, if_neg (Ne.symm hc), ih hline, List.reverse_cons,
      List.append_assoc]
    rfl

theorem lines_of_not_mem (hline : '\n' ∉ line) (hne : line ≠ []) : lines line = [line] := by
  have h : splitLines [] [] (line ++ []) = splitLines [] (line.reverse ++ []) [] :=
    splitLines_append hline
  rw [List.append_nil, List.append_nil] at h
  rw [lines, h]
  cases hreverse : line.reverse with
  | nil => exact absurd (List.reverse_eq_nil_iff.1 hreverse) hne
  | cons c cs =>
    rw [splitLines, ← hreverse, List.reverse_reverse, List.reverse_singleton]
    simp

/-- The lines of a text in which a line feed stands behind its first line. -/
theorem lines_append_feed (h : '\n' ∉ line) (text : List Char) :
    lines (line ++ '\n' :: text) = endedLine line.reverse :: lines text := by
  rw [lines, splitLines_append h, List.append_nil, splitLines, if_pos rfl, splitLines_eq_append]
  rfl

theorem endedLine_of_not_returned (h : line.getLast? ≠ some '\r') :
    endedLine line.reverse = line := by
  unfold endedLine
  split
  case h_1 collected heq =>
    rw [List.getLast?_eq_head?_reverse, heq] at h
    exact absurd rfl h
  case h_2 => exact List.reverse_reverse line

/-- **A text that is written line by line has just these lines.** -/
theorem lines_of_written (h : Written text ls) : lines text = ls := by
  induction h with
  | nil => rfl
  | last nonempty plain => exact lines_of_not_mem plain nonempty
  | feed plain unreturned _ ih =>
    rw [lines_append_feed plain, endedLine_of_not_returned unreturned, ih]
  | @returnFeed line text ls plain _ ih =>
    have hplain : '\n' ∉ line ++ ['\r'] := by
      rw [List.mem_append, List.mem_singleton]
      exact fun h ↦ h.elim plain (by decide)
    have hended := lines_append_feed hplain text
    rw [List.append_assoc, List.reverse_append, ih] at hended
    refine hended.trans ?_
    rw [List.reverse_singleton, List.singleton_append, endedLine, List.reverse_reverse]

/-- Lines that hold no line feed can be written with one behind each. -/
theorem written_flatMap (h : ∀ line ∈ ls, '\n' ∉ line ∧ line.getLast? ≠ some '\r') :
    Written (ls.flatMap (· ++ ['\n'])) ls := by
  induction ls with
  | nil => exact .nil
  | cons line ls ih =>
    obtain ⟨⟨hplain, hunreturned⟩, hls⟩ := List.forall_mem_cons.1 h
    rw [List.flatMap_cons, List.append_assoc]
    exact .feed hplain hunreturned (ih hls)

/-- Behind a line feed a new line begins. -/
theorem splitLines_feed (text rest : List Char) (collected : List Char) :
    splitLines [] collected (text ++ '\n' :: rest) =
      splitLines [] collected (text ++ ['\n']) ++ lines rest := by
  induction text generalizing collected with
  | nil =>
    rw [List.nil_append, List.nil_append, splitLines, if_pos rfl, splitLines_eq_append, splitLines,
      if_pos rfl]
    rfl
  | cons c text ih =>
    rw [List.cons_append, List.cons_append, splitLines, splitLines]
    split
    · rw [splitLines_eq_append, ih, splitLines_eq_append [endedLine collected], List.append_assoc]
    · exact ih (c :: collected)

/-- **Where a text has ended, a new line begins.** -/
theorem lines_append (h : Ended text) (rest : List Char) :
    lines (text ++ rest) = lines text ++ lines rest := by
  rcases h with rfl | hlast
  · rfl
  · obtain ⟨text, rfl⟩ := List.getLast?_eq_some_iff.1 hlast
    rw [List.append_assoc]
    exact splitLines_feed text rest []

end PointBuy.Text
