import PointBuy.Proofs.Text.Number
import PointBuy.Text.Blank

/-!
# Blanks around a text

Blanks in front of a text and behind it are what trimming takes away: a text that has none at its
ends comes back from between them.

## Main definitions

* `Text.Blank` : a text of blanks.
* `Text.Trimmed` : a text without blanks at its ends.

## Main statements

* `Text.trim_between` : a trimmed text comes back from between blanks.
* `Text.trim_append` : blanks inside a text are kept.
-/

namespace PointBuy.Text

variable {before text after rest : List Char}

/-- A text of blanks, or an empty one. -/
def Blank (text : List Char) : Prop := ∀ c ∈ text, isBlank c = true

/-- A text that neither begins nor ends with a blank. -/
structure Trimmed (text : List Char) : Prop where
  start : Stops isBlank text
  «end» : Stops isBlank text.reverse

instance (text : List Char) : Decidable (Blank text) :=
  decidable_of_iff (text.all isBlank = true) List.all_eq_true

instance (text : List Char) : Decidable (Trimmed text) :=
  decidable_of_iff (Stops isBlank text ∧ Stops isBlank text.reverse)
    ⟨fun ⟨hstart, hend⟩ ↦ ⟨hstart, hend⟩, fun h ↦ ⟨h.start, h.end⟩⟩

theorem blank_nil : Blank [] := fun _ hc ↦ (nomatch hc)

theorem blank_space : Blank [' '] := by decide

theorem Blank.reverse (h : Blank text) : Blank text.reverse :=
  fun c hc ↦ h c (List.mem_reverse.1 hc)

theorem trimStart_of_stops (h : Stops isBlank text) : trimStart text = text :=
  dropWhile_append_of_stops (a := []) (fun _ hc ↦ (nomatch hc)) h

theorem trimEnd_of_stops (h : Stops isBlank text.reverse) : trimEnd text = text := by
  rw [trimEnd]
  exact (congrArg List.reverse (trimStart_of_stops h)).trans (List.reverse_reverse text)

theorem trimStart_append (h : Blank before) (text : List Char) :
    trimStart (before ++ text) = trimStart text :=
  List.dropWhile_append_of_pos h

theorem trimEnd_append (text : List Char) (h : Blank after) :
    trimEnd (text ++ after) = trimEnd text := by
  rw [trimEnd, List.reverse_append, List.dropWhile_append_of_pos h.reverse]
  rfl

theorem trimEnd_of_blank (h : Blank text) : trimEnd text = [] :=
  trimEnd_append [] h

/-- What stands behind something that is no blank is trimmed by itself. -/
theorem trimEnd_append_of_stops (h : Stops isBlank text.reverse) (rest : List Char) :
    trimEnd (text ++ rest) = text ++ trimEnd rest := by
  have hkept : text.reverse.dropWhile isBlank = text.reverse := trimStart_of_stops h
  rw [trimEnd, trimEnd, List.reverse_append, List.dropWhile_append, hkept]
  split
  case isTrue hempty =>
    rw [List.isEmpty_iff.1 hempty, List.reverse_reverse, List.reverse_nil, List.append_nil]
  case isFalse => rw [List.reverse_append, List.reverse_reverse]

/-- What begins with no blank still does so with more behind it. -/
theorem stops_append {p : Char → Bool} (h : Stops p text) (hne : text ≠ []) (rest : List Char) :
    Stops p (text ++ rest) := by
  cases text with
  | nil => exact absurd rfl hne
  | cons c text => exact h

/-- Blanks in front of the last part of a text are kept. -/
theorem trimEnd_between (before : List Char) (h : Stops isBlank text.reverse) (hne : text ≠ [])
    (hafter : Blank after) : trimEnd (before ++ text ++ after) = before ++ text := by
  rw [trimEnd_append _ hafter]
  refine trimEnd_of_stops ?_
  rw [List.reverse_append]
  exact stops_append h (fun hnil ↦ hne (List.reverse_eq_nil_iff.1 hnil)) _

/-- **Blanks inside a text are kept**, and those at its ends are taken away. -/
theorem trim_append (hbefore : Blank before) (h : Trimmed text) (hne : text ≠ [])
    (rest : List Char) : trim (before ++ (text ++ rest)) = text ++ trimEnd rest := by
  rw [trim, trimStart_append hbefore, trimStart_of_stops (stops_append h.start hne rest),
    trimEnd_append_of_stops h.end]

/-- **A trimmed text comes back from between blanks.** -/
theorem trim_between (hbefore : Blank before) (h : Trimmed text) (hafter : Blank after) :
    trim (before ++ (text ++ after)) = text := by
  by_cases hne : text = []
  · subst hne
    rw [trim, trimStart_append hbefore, List.nil_append, ← List.append_nil after,
      trimStart_append hafter]
    rfl
  · rw [trim_append hbefore h hne, trimEnd_of_blank hafter, List.append_nil]

theorem Trimmed.trim_eq (h : Trimmed text) : trim text = text := by
  have hbetween := trim_between blank_nil h blank_nil
  rwa [List.nil_append, List.append_nil] at hbetween

end PointBuy.Text
