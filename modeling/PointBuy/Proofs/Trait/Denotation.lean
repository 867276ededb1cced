import Mathlib.Tactic.NormNum
import Mathlib.Tactic.Ring
import PointBuy.Proofs.Trait.ValueFormat

/-!
# What shown values denote

A reader of a sheet sees texts and takes them for values: a decimal number for itself, and dice for
four to the die and what is added. This module reads texts in that way, without a look at how they
are written, and says what comes out. Numbers and quarters denote the value. So do dice, down to the
lowest level of which the addend is an amount; lower levels are all written like that one. This is
also the only way in which two values come to have the same text.

## Main definitions

* `ValueFormat.number?` : the number that a decimal text denotes.
* `ValueFormat.dice?` : the dice that a text denotes, and what is added to them.

## Main statements

* `ValueFormat.shown_values` : what shown values denote, and which of them are shown alike.
* `ValueFormat.not_forall_dice_exact` : dice do not denote all values, nor tell them apart.
-/

namespace PointBuy.ValueFormat

variable {format : ValueFormat} {value value' : Amount} {level level' : Option Amount}

/-! ### Reading numbers -/

/-- The number that a text of digits denotes. -/
def natural? (text : List Char) : Option Nat :=
  if text ≠ [] ∧ text.all Char.isDigit then some (Text.decimalValue text) else none

/-- The number that a decimal text without a sign denotes: digits, and perhaps a point with more
digits behind it, which are tenths, hundredths and so on. -/
def unsigned? (text : List Char) : Option ℚ :=
  match text.dropWhile Char.isDigit with
  | [] => (natural? text).map Nat.cast
  | '.' :: places => do
    let whole ← natural? (text.takeWhile Char.isDigit)
    let part ← natural? places
    return whole + part / 10 ^ places.length
  | _ => none

/-- The number that a decimal text denotes. -/
def number? : List Char → Option ℚ
  | '-' :: text => (unsigned? text).map fun q ↦ -q
  | text => unsigned? text

/-- The number that an addend denotes: none is zero, any other has a sign. -/
def addend? : List Char → Option Int
  | [] => some 0
  | '+' :: digits => (natural? digits).map fun n : Nat ↦ (n : Int)
  | '-' :: digits => (natural? digits).map fun n : Nat ↦ -(n : Int)
  | _ => none

/-- The number of dice that a text denotes, and what is added to them. -/
def dice? (text : List Char) : Option (Nat × Int) :=
  match text.dropWhile Char.isDigit with
  | 'd' :: rest => do
    let count ← natural? (text.takeWhile Char.isDigit)
    let adds ← addend? rest
    return (count, adds)
  | _ => none

theorem natural?_toString (n : Nat) : natural? (toString n).toList = some n := by
  obtain ⟨c, digits, hdigits, -⟩ := exists_first_digit n
  have hall : (toString n).toList.all Char.isDigit = true :=
    List.all_eq_true.2 fun _ hc ↦ isDigit_of_mem_toString hc
  rw [natural?, if_pos ⟨hdigits ▸ List.cons_ne_nil c digits, hall⟩, decimalValue_toString]

/-- Digits are read up to the first character that is none. -/
theorem dropWhile_toString_append (n : Nat) (rest : List Char) (hrest : Stops Char.isDigit rest) :
    ((toString n).toList ++ rest).takeWhile Char.isDigit = (toString n).toList ∧
      ((toString n).toList ++ rest).dropWhile Char.isDigit = rest :=
  ⟨takeWhile_append_of_stops (fun _ hc ↦ isDigit_of_mem_toString hc) hrest,
    dropWhile_append_of_stops (fun _ hc ↦ isDigit_of_mem_toString hc) hrest⟩

theorem unsigned?_toString (n : Nat) : unsigned? (toString n).toList = some (n : ℚ) := by
  obtain ⟨-, hrest⟩ := dropWhile_toString_append n [] (stops_nil _)
  rw [List.append_nil] at hrest
  rw [unsigned?, hrest]
  dsimp only
  rw [natural?_toString, Option.map_some]

/-- Digits behind a point. -/
theorem unsigned?_places (n : Nat) (places : List Char) {part : Nat}
    (hpart : natural? places = some part) :
    unsigned? ((toString n).toList ++ '.' :: places) =
      some (n + part / 10 ^ places.length : ℚ) := by
  obtain ⟨hwhole, hrest⟩ := dropWhile_toString_append n ('.' :: places)
    (stops_cons (by decide) _)
  rw [unsigned?, hrest]
  show ((natural? (((toString n).toList ++ '.' :: places).takeWhile Char.isDigit)).bind fun whole ↦
    (natural? places).bind fun part ↦ some (whole + part / 10 ^ places.length : ℚ)) = _
  rw [hwhole, natural?_toString, hpart]
  rfl

/-- A quarter of a natural number, as it is written, denotes it. -/
theorem unsigned?_quarters (n : Nat) :
    unsigned? ((toString (n / 4)).toList ++ (quarterText n).toList) = some (n / 4 : ℚ) := by
  have hsplit : (n : ℚ) = 4 * (n / 4 : ℕ) + (n % 4 : ℕ) := by
    exact_mod_cast (Nat.div_add_mod n 4).symm
  have hcases : n % 4 = 0 ∨ n % 4 = 1 ∨ n % 4 = 2 ∨ n % 4 = 3 := by omega
  rw [hsplit, quarterText]
  generalize n % 4 = remainder at hcases ⊢
  generalize n / 4 = whole
  rcases hcases with rfl | rfl | rfl | rfl
  · show unsigned? ((toString whole).toList ++ []) = _
    rw [List.append_nil, unsigned?_toString]
    norm_num
  · refine (unsigned?_places whole ['2', '5'] (show _ = some 25 by decide)).trans ?_
    norm_num
    ring
  · refine (unsigned?_places whole ['5'] (show _ = some 5 by decide)).trans ?_
    norm_num
    ring
  · refine (unsigned?_places whole ['7', '5'] (show _ = some 75 by decide)).trans ?_
    norm_num
    ring

/-- A sign in front of the text of a number. -/
theorem number?_append_sign (n : Int) {q : ℚ} {text : List Char}
    (hsign : ∀ rest, text ≠ '-' :: rest) (hq : unsigned? text = some q) :
    number? ((if n < 0 then ['-'] else []) ++ text) = some (if n < 0 then -q else q) := by
  split
  · show (unsigned? text).map (fun q ↦ -q) = _
    rw [hq, Option.map_some]
  · show number? text = _
    rw [number?.eq_2 text hsign, hq]

/-- The text of an integer is the one of its magnitude, behind a sign if it is negative. -/
theorem toList_toString (n : Int) : (toString n).toList =
    (if n < 0 then ['-'] else []) ++ (toString n.natAbs).toList := by
  split
  case isTrue h =>
    rw [toString_of_neg h, String.toList_append, show (-n).toNat = n.natAbs by omega]
    rfl
  case isFalse h =>
    rw [toString_of_nonneg (not_lt.1 h), show n.toNat = n.natAbs by omega]
    rfl

/-- The magnitude with its sign is the number. -/
theorem signed_natAbs (n : Int) : (if n < 0 then -(n.natAbs : ℚ) else n.natAbs) = (n : ℚ) := by
  split
  case isTrue h =>
    rw [neg_eq_iff_eq_neg, ← Int.cast_natCast, ← Int.cast_neg]
    exact congrArg Int.cast (show (n.natAbs : Int) = -n by omega)
  case isFalse h =>
    rw [← Int.cast_natCast]
    exact congrArg Int.cast (show (n.natAbs : Int) = n by omega)

/-- **The text of a number denotes it.** -/
theorem number?_text (value : Amount) : number? value.text.toList = some (value.val : ℚ) := by
  have hsign (rest : List Char) : (toString value.val.natAbs).toList ≠ '-' :: rest := by
    rw [← List.append_nil (toString _).toList]
    exact magnitude_ne_sign _ _ _
  rw [Amount.text, toList_toString, number?_append_sign value.val hsign (unsigned?_toString _),
    signed_natAbs]

/-- **Quarters denote a quarter of the value.** -/
theorem number?_quartersText (value : Amount) :
    number? (quartersText value).toList = some (value.val / 4 : ℚ) := by
  rw [toList_quartersText, number?_append_sign value.val (magnitude_ne_sign _ _)
    (unsigned?_quarters _), ← signed_natAbs]
  split
  · rw [neg_div]
  · rfl

/-! ### Reading dice -/

theorem addend?_addend (adds : Amount) : addend? (addend adds) = some adds.val := by
  rw [addend]
  split
  case isTrue hzero => rw [hzero, addend?]
  case isFalse hzero =>
    split
    case isTrue hpos =>
      rw [addend?, Amount.text, toString_of_nonneg hpos.le, natural?_toString, Option.map_some,
        Int.toNat_of_nonneg hpos.le]
    case isFalse hpos =>
      have hneg : adds.val < 0 := by omega
      rw [toList_text_of_neg hneg, addend?, natural?_toString, Option.map_some,
        Int.toNat_of_nonneg (by omega), Int.neg_neg]

/-- The parts of dice as they are computed, also where the addend is cut off. -/
theorem diceParts_spec (value : Amount) : 1 ≤ (diceParts value).1 ∧
    4 * (diceParts value).1 + (diceParts value).2.val = max leastDice value.val := by
  have hleast := value.least_le
  have hgreatest := value.le_greatest
  have hfour : (4 : Amount).val = 4 := rfl
  have hnext : (value + 1).val = min (value.val + 1) 9223372036854775807 := by
    have hone : (1 : Amount).val = 1 := rfl
    rw [Amount.val_add, hone]
    omega
  rw [leastDice, diceParts]
  split
  · refine ⟨le_rfl, ?_⟩
    show 4 * 1 + (value - 4).val = _
    rw [Amount.val_sub, hfour]
    omega
  case isFalse hcount =>
    refine ⟨not_lt.1 hcount, ?_⟩
    show 4 * ((value + 1).val / 4) + (value - Amount.clamp (4 * ((value + 1).val / 4))).val = _
    rw [Amount.val_sub, Amount.val_clamp]
    omega

/-- **Dice denote the value**, and the lowest level that they can denote if the value is lower. -/
theorem dice?_diceText (value : Amount) : ∃ count adds,
    dice? (diceText value).toList = some (count, adds) ∧ 1 ≤ count ∧
      4 * (count : Int) + adds = max leastDice value.val := by
  obtain ⟨hcount, hparts⟩ := diceParts_spec value
  refine ⟨(diceParts value).1.toNat, (diceParts value).2.val, ?_, by omega, by omega⟩
  obtain ⟨hwhole, hrest⟩ := dropWhile_toString_append (diceParts value).1.toNat
    ('d' :: addend (diceParts value).2) (stops_cons (by decide) _)
  rw [toList_diceText, toString_of_nonneg (show 0 ≤ (diceParts value).1 by omega), dice?, hrest]
  show ((natural? (((toString (diceParts value).1.toNat).toList ++
    'd' :: addend (diceParts value).2).takeWhile Char.isDigit)).bind fun count ↦
      (addend? (addend (diceParts value).2)).bind fun adds ↦ some (count, adds)) = _
  rw [hwhole, natural?_toString, addend?_addend]
  rfl

example : dice? "2d-1".toList = some (2, -1) ∧ dice? "1d".toList = some (1, 0) := by decide

/-- Levels with the same dice are the same to whoever reads the dice. -/
theorem max_leastDice_eq (h : diceText value = diceText value') :
    max leastDice value.val = max leastDice value'.val := by
  obtain ⟨count, adds, hread, -, hsum⟩ := dice?_diceText value
  obtain ⟨count', adds', hread', -, hsum'⟩ := dice?_diceText value'
  rw [h, hread'] at hread
  obtain ⟨rfl, rfl⟩ := Prod.mk.inj (Option.some.inj hread)
  rw [← hsum, ← hsum']

/-- The parts of dice of a level that is too low. -/
theorem diceParts_of_le (h : value.val ≤ leastDice) :
    diceParts value = (1, Amount.clamp (-9223372036854775808)) := by
  have hone : (1 : Amount).val = 1 := rfl
  have hfour : (4 : Amount).val = 4 := rfl
  rw [leastDice] at h
  have hcount : (value + 1).val / 4 < 1 := by
    rw [Amount.val_add, hone]
    omega
  rw [diceParts, if_pos hcount]
  refine congrArg (1, ·) (Amount.ext ?_)
  rw [Amount.val_sub, Amount.val_clamp, hfour]
  omega

/-- Levels that are too low for dice are all shown like the lowest that is not. -/
theorem diceText_eq_of_le (h : value.val ≤ leastDice) (h' : value'.val ≤ leastDice) :
    diceText value = diceText value' := by
  rw [diceText, diceText, diceParts_of_le h, diceParts_of_le h']

/-! ### All formats -/

/-- **Two levels are shown alike only where dice cannot denote them.** -/
theorem render_eq_render_iff (hword : format ≠ .yesNo) :
    format.render level = format.render level' ↔ level = level' ∨ format = .dice ∧
      ∃ low low', level = some low ∧ level' = some low' ∧
        low.val ≤ leastDice ∧ low'.val ≤ leastDice := by
  refine ⟨fun h ↦ ?_, ?_⟩
  · by_cases hdice : format = .dice
    case neg => exact .inl (render_injective hword (fun _ h' ↦ absurd h' hdice) h)
    case pos =>
      subst hdice
      cases level with
      | none =>
        cases level' with
        | none => exact .inl rfl
        | some value' => exact absurd h.symm (render_ne_dash .dice value')
      | some value =>
        cases level' with
        | none => exact absurd h (render_ne_dash .dice value)
        | some value' =>
          -- Two texts that are the same denote the same, and dice denote what is shown or more.
          have hsame : max leastDice value.val = max leastDice value'.val :=
            max_leastDice_eq (h : diceText value = diceText value')
          by_cases heq : value.val = value'.val
          · exact .inl (congrArg some (Amount.ext heq))
          · exact .inr ⟨rfl, value, value', rfl, rfl, by omega, by omega⟩
  · rintro (rfl | ⟨rfl, value, value', rfl, rfl, hvalue, hvalue'⟩)
    · rfl
    · exact diceText_eq_of_le hvalue hvalue'

/-- **What shown values denote.** Numbers denote the value and quarters a quarter of it. Dice, of
which there is at least one, denote the value if and only if it is not below the lowest level that
they can denote, and that level otherwise. Only from there on downwards are two levels shown
alike. -/
theorem shown_values (value : Amount) (hword : format ≠ .yesNo) :
    number? (decimal.render (some value)).toList = some (value.val : ℚ) ∧
    number? (quarters.render (some value)).toList = some (value.val / 4 : ℚ) ∧
    (∃ count adds, dice? (dice.render (some value)).toList = some (count, adds) ∧ 1 ≤ count ∧
      4 * (count : Int) + adds = max leastDice value.val ∧
      (4 * (count : Int) + adds = value.val ↔ leastDice ≤ value.val)) ∧
    (format.render level = format.render level' ↔ level = level' ∨ format = .dice ∧
      ∃ low low', level = some low ∧ level' = some low' ∧
        low.val ≤ leastDice ∧ low'.val ≤ leastDice) := by
  obtain ⟨count, adds, hread, hcount, hsum⟩ := dice?_diceText value
  exact ⟨number?_text value, number?_quartersText value,
    ⟨count, adds, hread, hcount, hsum, by omega⟩, render_eq_render_iff hword⟩

/-- The two lowest levels are shown alike as dice, but not as quarters. -/
theorem shown_values_lowest :
    (ValueFormat.dice ≠ .yesNo ∧ ValueFormat.quarters ≠ .yesNo) ∧
    dice.render (some (Amount.clamp (-9223372036854775808))) =
      dice.render (some (Amount.clamp (-9223372036854775807))) ∧
    quarters.render (some (Amount.clamp (-9223372036854775808))) ≠
      quarters.render (some (Amount.clamp (-9223372036854775807))) := by
  have hword : ValueFormat.dice ≠ .yesNo := by decide
  have hword' : ValueFormat.quarters ≠ .yesNo := by decide
  obtain ⟨-, -, -, halike⟩ := shown_values (Amount.clamp (-9223372036854775808)) hword
  obtain ⟨-, -, -, hdiffer⟩ := shown_values (Amount.clamp (-9223372036854775808)) hword'
  refine ⟨⟨hword, hword'⟩, halike.2 (.inr ⟨rfl, _, _, rfl, rfl, by decide, by decide⟩),
    fun h ↦ ?_⟩
  rcases hdiffer.1 h with h | ⟨h, -⟩
  · exact absurd h (by decide)
  · cases h

/-- **Dice do not denote every value**, and do not tell all values apart: the addend of a single die
is an amount, and so cannot be as low as the lowest levels need it. -/
theorem not_forall_dice_exact :
    ¬ (∀ value : Amount, ∃ count adds,
      dice? (dice.render (some value)).toList = some (count, adds) ∧ 1 ≤ count ∧
        4 * (count : Int) + adds = value.val) ∧
    ¬ ∀ value value' : Amount,
      dice.render (some value) = dice.render (some value') → value = value' := by
  have hlowest : (Amount.clamp (-9223372036854775808)).val = -9223372036854775808 := by decide
  refine ⟨fun hall ↦ ?_, fun hall ↦ ?_⟩
  · obtain ⟨count, adds, hread, -, hsum⟩ := hall (Amount.clamp (-9223372036854775808))
    obtain ⟨count', adds', hread', -, hsum'⟩ :=
      dice?_diceText (Amount.clamp (-9223372036854775808))
    obtain ⟨rfl, rfl⟩ := Prod.mk.inj (Option.some.inj (hread.symm.trans hread'))
    rw [hlowest, leastDice] at hsum'
    omega
  · have hsame := hall (Amount.clamp (-9223372036854775808)) (Amount.clamp (-9223372036854775807))
      ((render_eq_render_iff (by decide)).2
        (.inr ⟨rfl, _, _, rfl, rfl, by decide, by decide⟩))
    exact absurd hsame (by decide)

end PointBuy.ValueFormat
