import Std.Data.String.ToInt
import Std.Data.String.ToNat
import PointBuy.Amount
import PointBuy.Text.Digits

/-!
# Texts of numbers

The text of a number determines it, and where the text stands in front of something that no number
goes on with, it can only be cut in one way: behind the last character that a number may have. So
values that are written one behind another can be told apart again.

## Main statements

* `append_inj_of_stops` : a text can be cut in one way.
* `Amount.text_injective` : the text of an amount determines it.
-/

namespace PointBuy

/-! ### Texts that can be cut in one way -/

/-- A text does not go on with a character of a sort. -/
def Stops (p : Char → Bool) (rest : List Char) : Prop := ∀ c ∈ rest.head?, p c = false

instance (p : Char → Bool) (rest : List Char) : Decidable (Stops p rest) :=
  decidable_of_iff (rest.head?.all (!p ·) = true) (by cases rest <;> simp [Stops])

theorem stops_nil (p : Char → Bool) : Stops p [] := fun _ hc ↦ (nomatch hc)

theorem stops_cons {p : Char → Bool} {c : Char} (h : p c = false) (rest : List Char) :
    Stops p (c :: rest) := by
  intro d hd
  obtain rfl := Option.some.inj hd
  exact h

section Cut

variable {p : Char → Bool} {a rest : List Char}

theorem takeWhile_append_of_stops (ha : ∀ c ∈ a, p c = true) (hrest : Stops p rest) :
    (a ++ rest).takeWhile p = a := by
  rw [List.takeWhile_append_of_pos ha]
  cases rest with
  | nil => exact List.append_nil a
  | cons c rest =>
    have hc : p c = false := hrest c rfl
    rw [List.takeWhile_cons_of_neg (show ¬ p c = true by simp [hc]), List.append_nil]

theorem dropWhile_append_of_stops (ha : ∀ c ∈ a, p c = true) (hrest : Stops p rest) :
    (a ++ rest).dropWhile p = rest := by
  rw [List.dropWhile_append_of_pos ha]
  cases rest with
  | nil => rfl
  | cons c rest =>
    have hc : p c = false := hrest c rfl
    exact List.dropWhile_cons_of_neg (show ¬ p c = true by simp [hc])

theorem stops_dropWhile (p : Char → Bool) (text : List Char) : Stops p (text.dropWhile p) := by
  intro c hc
  have hnot := List.head?_dropWhile_not p text
  rwa [hc] at hnot

/-- **A text can be cut in one way** after characters of a sort that are followed by another one. -/
theorem append_inj_of_stops {a' rest' : List Char} (ha : ∀ c ∈ a, p c = true)
    (ha' : ∀ c ∈ a', p c = true) (hrest : Stops p rest) (hrest' : Stops p rest')
    (h : a ++ rest = a' ++ rest') : a = a' ∧ rest = rest' := by
  have heq : a = a' := by
    rw [← takeWhile_append_of_stops ha hrest, h, takeWhile_append_of_stops ha' hrest']
  subst heq
  exact ⟨rfl, List.append_cancel_left h⟩

end Cut

/-! ### Numbers -/

/-- The codes of letters. They are other ones than those of digits. -/
theorem isAlpha_iff_toNat {c : Char} : c.isAlpha = true ↔
    ('A'.toNat ≤ c.toNat ∧ c.toNat ≤ 'Z'.toNat) ∨ ('a'.toNat ≤ c.toNat ∧ c.toNat ≤ 'z'.toNat) := by
  show (decide (c.val ≥ 'A'.val ∧ c.val ≤ 'Z'.val) ||
    (decide (c.val ≥ 'a'.val) && decide (c.val ≤ 'z'.val))) = true ↔ _
  rw [Bool.or_eq_true, Bool.and_eq_true, decide_eq_true_eq, decide_eq_true_eq, decide_eq_true_eq]
  exact Iff.rfl

/-- Whether a character is in the text of a number. -/
def inNumber (c : Char) : Bool := c.isDigit || c == '-'

/-- The text of a natural number has digits only. -/
theorem isDigit_of_mem_toString {n : Nat} {c : Char} (h : c ∈ (toString n).toList) :
    c.isDigit = true := by
  rw [Nat.toString_eq_repr, Nat.toList_repr] at h
  exact Nat.isDigit_of_mem_toDigits (by decide) (by decide) h

/-- The text of a natural number begins with a digit. -/
theorem exists_first_digit (n : Nat) :
    ∃ c digits, (toString n).toList = c :: digits ∧ c.isDigit = true := by
  have hne : (toString n).toList ≠ [] := by
    rw [Nat.toString_eq_repr, Nat.toList_repr]
    exact Nat.toDigits_ne_nil
  obtain ⟨c, digits, hdigits⟩ := List.exists_cons_of_ne_nil hne
  exact ⟨c, digits, hdigits, isDigit_of_mem_toString (hdigits ▸ List.mem_cons_self)⟩

/-- The text of a natural number denotes it. -/
theorem decimalValue_toString (n : Nat) : Text.decimalValue (toString n).toList = n := by
  rw [Nat.toString_eq_repr, Nat.toList_repr]
  exact Nat.ofDigitChars_toDigits (by decide) (by decide)

theorem toString_of_nonneg {n : Int} (h : 0 ≤ n) : toString n = toString n.toNat := by
  rw [Int.toString_eq_repr, Int.repr_eq_if, if_pos h, Nat.toString_eq_repr]

theorem toString_of_neg {n : Int} (h : n < 0) : toString n = "-" ++ toString (-n).toNat := by
  rw [Int.toString_eq_repr, Int.repr_eq_if, if_neg (show ¬ 0 ≤ n by omega), Nat.toString_eq_repr]

/-- The text of an integer has digits and a minus sign only. -/
theorem inNumber_of_mem_toString {n : Int} {c : Char} (h : c ∈ (toString n).toList) :
    inNumber c = true := by
  rw [inNumber, Bool.or_eq_true, beq_iff_eq]
  by_cases hn : 0 ≤ n
  · rw [toString_of_nonneg hn] at h
    exact .inl (isDigit_of_mem_toString h)
  · rw [toString_of_neg (show n < 0 by omega), String.toList_append, List.mem_append] at h
    rcases h with h | h
    · exact .inr (List.mem_singleton.1 h)
    · exact .inl (isDigit_of_mem_toString h)

/-- The text of an integer has a digit. -/
theorem toString_ne_dash (n : Int) : toString n ≠ "-" := by
  intro h
  by_cases hn : 0 ≤ n
  · rw [toString_of_nonneg hn] at h
    have hdash : '-' ∈ (toString n.toNat).toList := by
      rw [h]
      decide
    exact absurd (isDigit_of_mem_toString hdash) (by decide)
  · rw [toString_of_neg (show n < 0 by omega), String.append_eq_left_iff] at h
    obtain ⟨c, digits, hdigits, -⟩ := exists_first_digit (-n).toNat
    rw [h] at hdigits
    cases hdigits

namespace Amount

/-- **The text of an amount determines it.** -/
theorem text_injective {a b : Amount} (h : a.text = b.text) : a = b := by
  rw [text, text, Int.toString_eq_repr, Int.toString_eq_repr] at h
  exact Amount.ext (Int.repr_injective h)

theorem inNumber_of_mem_text {a : Amount} {c : Char} (h : c ∈ a.text.toList) : inNumber c = true :=
  inNumber_of_mem_toString h

theorem text_ne_dash (a : Amount) : a.text ≠ "-" := toString_ne_dash a.val

end Amount
end PointBuy
