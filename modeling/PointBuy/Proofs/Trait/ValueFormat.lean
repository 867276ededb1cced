import PointBuy.Proofs.Amount
import PointBuy.Proofs.Text.Number
import PointBuy.Trait.ValueFormat

/-!
# Values can be read back from what is shown

A value that changes has to be shown in another way, or the change would go unseen. Numbers are the
easy part: their text determines them. A value as dice or as quarters is written with a number, then
a character that no number has, then the rest, and so the text can only be cut in one way
(`append_inj_of_stops`). From the parts the value follows, with one exception: a level that is so
low that the addend of its dice would lie below all amounts is shown like the lowest that is not.

## Main statements

* `ValueFormat.render_injective` : what is shown determines the value, but for words and for dice
  that are too low.
-/

namespace PointBuy

namespace ValueFormat

/-! ### Dice -/

/-- The lowest level of which the dice have an exact addend. -/
def leastDice : Int := -9223372036854775808 + 4

/-- The parts of dice add up to the level. -/
theorem val_eq_of_diceParts {value : Amount} (h : leastDice ≤ value.val) :
    value.val = 4 * (diceParts value).1 + (diceParts value).2.val := by
  have hleast := value.least_le
  have hgreatest := value.le_greatest
  have hone : (1 : Amount).val = 1 := rfl
  have hfour : (4 : Amount).val = 4 := rfl
  rw [leastDice] at h
  rw [diceParts]
  have hnext := Amount.val_add value 1
  rw [hone] at hnext
  split
  · show value.val = 4 * 1 + (value - 4).val
    rw [Amount.val_sub, hfour]
    omega
  · show value.val = 4 * ((value + 1).val / 4) + (value - Amount.clamp _).val
    rw [Amount.val_sub, Amount.val_clamp]
    omega

/-- What is written after the `d` of dice. -/
def addend (adds : Amount) : List Char :=
  if adds.val = 0 then [] else if 0 < adds.val then '+' :: adds.text.toList else adds.text.toList

theorem toList_diceText (value : Amount) :
    (diceText value).toList =
      (toString (diceParts value).1).toList ++ 'd' :: addend (diceParts value).2 := by
  rw [diceText, addend]
  dsimp only
  split
  · rw [String.toList_append]
    rfl
  · split
    all_goals
      rw [String.toList_append, String.toList_append, List.append_assoc]
      rfl

/-- The text of a negative amount begins with a minus sign. -/
theorem toList_text_of_neg {a : Amount} (h : a.val < 0) :
    a.text.toList = '-' :: (toString (-a.val).toNat).toList := by
  rw [Amount.text, toString_of_neg h, String.toList_append]
  rfl

/-- The sign of an addend is how its text begins. -/
theorem head?_addend (a : Amount) : (addend a).head? =
    if a.val = 0 then none else if 0 < a.val then some '+' else some '-' := by
  rw [addend]
  split
  · rfl
  · split
    · rfl
    · rw [toList_text_of_neg (show a.val < 0 by omega)]
      rfl

theorem addend_injective {a b : Amount} (h : addend a = addend b) : a = b := by
  have hsign := head?_addend a
  rw [h, head?_addend b] at hsign
  have hzero : b.val = 0 ↔ a.val = 0 := by grind
  have hpos : 0 < b.val ↔ 0 < a.val := by grind
  rw [addend, addend] at h
  simp only [hzero, hpos] at h
  split at h
  case isTrue ha => exact Amount.ext (ha.trans (hzero.2 ha).symm)
  case isFalse =>
    split at h
    · exact Amount.text_injective (String.toList_injective (List.cons.inj h).2)
    · exact Amount.text_injective (String.toList_injective h)

/-- **Dice determine the level**, unless it is too low. -/
theorem diceText_injective {value value' : Amount} (h : leastDice ≤ value.val)
    (h' : leastDice ≤ value'.val) (heq : diceText value = diceText value') : value = value' := by
  have hlist := congrArg String.toList heq
  rw [toList_diceText, toList_diceText] at hlist
  have hstops (rest : List Char) : Stops inNumber ('d' :: rest) := stops_cons (by decide) rest
  obtain ⟨hcount, hrest⟩ := append_inj_of_stops (fun _ hc ↦ inNumber_of_mem_toString hc)
    (fun _ hc ↦ inNumber_of_mem_toString hc) (hstops _) (hstops _) hlist
  have hcount : (diceParts value).1 = (diceParts value').1 := by
    have hrepr := String.toList_injective hcount
    rw [Int.toString_eq_repr, Int.toString_eq_repr] at hrepr
    exact Int.repr_injective hrepr
  have hadds := addend_injective (List.cons.inj hrest).2
  refine Amount.ext ?_
  rw [val_eq_of_diceParts h, val_eq_of_diceParts h', hcount, hadds]

/-! ### Quarters -/

/-- The quarters behind the point determine the remainder. -/
theorem quarterText_injective {m n : Nat} (h : quarterText m = quarterText n) : m % 4 = n % 4 := by
  have hm : m % 4 < 4 := Nat.mod_lt m (by decide)
  have hn : n % 4 < 4 := Nat.mod_lt n (by decide)
  rw [quarterText, quarterText] at h
  generalize m % 4 = a at *
  generalize n % 4 = b at *
  revert a b
  decide

theorem stops_quarterText (n : Nat) : Stops Char.isDigit (quarterText n).toList := by
  rw [quarterText]
  split
  · exact stops_cons (by decide) _
  · exact stops_cons (by decide) _
  · exact stops_cons (by decide) _
  · exact stops_nil _

/-- The sign of a number of quarters and the text behind it. -/
theorem toList_quartersText (value : Amount) :
    (quartersText value).toList = (if value.val < 0 then ['-'] else []) ++
      ((toString (value.val.natAbs / 4)).toList ++ (quarterText value.val.natAbs).toList) := by
  rw [quartersText, String.toList_append, String.toList_append, List.append_assoc]
  split <;> rfl

/-- The text behind the sign determines the magnitude. -/
theorem magnitude_injective {m n : Nat}
    (h : (toString (m / 4)).toList ++ (quarterText m).toList =
      (toString (n / 4)).toList ++ (quarterText n).toList) : m = n := by
  obtain ⟨hwhole, hrest⟩ := append_inj_of_stops (fun _ hc ↦ isDigit_of_mem_toString hc)
    (fun _ hc ↦ isDigit_of_mem_toString hc) (stops_quarterText m) (stops_quarterText n) h
  have hwhole : m / 4 = n / 4 := by
    have hrepr := String.toList_injective hwhole
    rw [Nat.toString_eq_repr, Nat.toString_eq_repr] at hrepr
    exact Nat.repr_injective hrepr
  have hrest := quarterText_injective (String.toList_injective hrest)
  omega

/-- Nothing that follows a sign begins with one. -/
theorem magnitude_ne_sign (n : Nat) (rest rest' : List Char) :
    (toString n).toList ++ rest ≠ '-' :: rest' := by
  intro h
  obtain ⟨c, digits, hdigits, hc⟩ := exists_first_digit n
  rw [hdigits] at h
  rw [(List.cons.inj h).1] at hc
  cases hc

/-- **Quarters determine the level.** -/
theorem quartersText_injective {value value' : Amount}
    (heq : quartersText value = quartersText value') : value = value' := by
  have hlist := congrArg String.toList heq
  rw [toList_quartersText, toList_quartersText] at hlist
  refine Amount.ext ?_
  by_cases hneg : value.val < 0 <;> by_cases hneg' : value'.val < 0
  · rw [if_pos hneg, if_pos hneg'] at hlist
    have hmagnitude := magnitude_injective (List.cons.inj hlist).2
    omega
  · rw [if_pos hneg, if_neg hneg'] at hlist
    exact absurd hlist.symm (magnitude_ne_sign _ _ _)
  · rw [if_neg hneg, if_pos hneg'] at hlist
    exact absurd hlist (magnitude_ne_sign _ _ _)
  · rw [if_neg hneg, if_neg hneg'] at hlist
    have hmagnitude := magnitude_injective hlist
    omega

/-! ### All formats -/

/-- Only an absent value is shown as a dash. -/
theorem render_ne_dash (format : ValueFormat) (value : Amount) :
    format.render (some value) ≠ "-" := by
  cases format with
  | decimal => exact value.text_ne_dash
  | dice =>
    -- A dash has no `d`.
    intro h
    have hmem : 'd' ∈ (diceText value).toList := by
      rw [toList_diceText]
      exact List.mem_append_right _ List.mem_cons_self
    rw [show diceText value = "-" from h] at hmem
    exact absurd hmem (by decide)
  | yesNo =>
    show (if value.val = 0 then "No" else "Yes") ≠ "-"
    split <;> decide
  | quarters =>
    -- A dash has no digit.
    intro h
    obtain ⟨c, digits, hdigits, hc⟩ := exists_first_digit (value.val.natAbs / 4)
    have hmem : c ∈ (quartersText value).toList := by
      rw [toList_quartersText, hdigits]
      exact List.mem_append_right _ (List.mem_append_left _ List.mem_cons_self)
    rw [show quartersText value = "-" from h] at hmem
    rw [List.mem_singleton.1 hmem] at hc
    cases hc

/-- **What is shown determines the value**, but for words and for dice that are too low. -/
theorem render_injective {format : ValueFormat} {level level' : Option Amount}
    (hword : format ≠ .yesNo)
    (hdice : ∀ value, format = .dice → level = some value ∨ level' = some value →
      leastDice ≤ value.val)
    (h : format.render level = format.render level') : level = level' := by
  cases level with
  | none =>
    cases level' with
    | none => rfl
    | some value' => exact absurd h.symm (render_ne_dash format value')
  | some value =>
    cases level' with
    | none => exact absurd h (render_ne_dash format value)
    | some value' =>
      refine congrArg some ?_
      cases format with
      | decimal => exact Amount.text_injective h
      | dice =>
        exact diceText_injective (hdice value rfl (.inl rfl)) (hdice value' rfl (.inr rfl)) h
      | yesNo => exact absurd rfl hword
      | quarters => exact quartersText_injective h

end ValueFormat
end PointBuy
