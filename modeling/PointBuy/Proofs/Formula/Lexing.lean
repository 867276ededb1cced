import PointBuy.Formula.Lexer
import PointBuy.Proofs.Except
import PointBuy.Proofs.Text.Number

/-!
# Tokens can be read back

Reading is greedy: a name takes every word behind it and then a qualifier, and a number takes every
digit. So whether a token is read back from its own text depends on what stands behind it. Where
the text behind begins with a blank or a closing parenthesis and a name would take nothing of it
(`Breaks`), every token that reading ever gives is read back as it is (`Legible`). A name is the one
case with an argument in it: what it took of its own text was taken piece by piece, and each piece
is taken again in front of another rest (`nameTail_again`).

## Main definitions

* `Token.Breaks` : a text that goes on with no token in front of it.
* `Token.Legible` : a token that is read back in front of such a text.

## Main statements

* `Token.nameTail_again` : what a name took, it takes again.
* `Token.legible_of_readAll` : all tokens of a text are legible.
-/

namespace PointBuy.Token

variable {text rest after first tail cs : List Char} {c : Char} {token : Token} {sign : Symbol}

/-! ### Reading on -/

/-- What is read of a text after its blanks. -/
theorem readAll_of_dropWhile (hstart : text.dropWhile isBlank = c :: cs) :
    readAll text =
      match read c cs with
      | .error e => .error e
      | .ok (token, after) => (readAll after).map (token :: ·) := by
  rw [readAll]
  split
  case h_1 heq =>
    rw [hstart] at heq
    cases heq
  case h_2 heq =>
    rw [hstart] at heq
    cases heq
    split
    case h_1 heq => rw [heq]
    case h_2 heq => rw [heq]

theorem readAll_of_read (hstart : text.dropWhile isBlank = c :: cs)
    (hread : read c cs = .ok (token, after)) :
    readAll text = (readAll after).map (token :: ·) := by
  rw [readAll_of_dropWhile hstart, hread]

theorem readAll_of_blank (h : text.dropWhile isBlank = []) : readAll text = .ok [] := by
  rw [readAll]
  split
  case h_1 => rfl
  case h_2 heq =>
    rw [h] at heq
    cases heq

/-- Blanks in front of a token are passed over. -/
theorem readAll_congr (h : text.dropWhile isBlank = rest.dropWhile isBlank) :
    readAll text = readAll rest := by
  cases hstart : rest.dropWhile isBlank with
  | nil => rw [readAll_of_blank hstart, readAll_of_blank (h.trans hstart)]
  | cons c cs => rw [readAll_of_dropWhile hstart, readAll_of_dropWhile (h.trans hstart)]

theorem readAll_blank (rest : List Char) : readAll (' ' :: rest) = readAll rest :=
  readAll_congr (List.dropWhile_cons_of_pos rfl)

/-! ### Where a token ends -/

/-- A text that goes on with no token in front of it: it begins with a blank or a closing
parenthesis, if with anything, and a name takes nothing of it. -/
structure Breaks (rest : List Char) : Prop where
  head : ∀ c ∈ rest.head?, c = ' ' ∨ c = ')'
  nameTail_eq : nameTail rest = ([], rest)

/-- A token that is read back from its own text, in front of a text that does not go on with it. -/
def Legible (token : Token) : Prop :=
  ∀ rest, Breaks rest → readAll (token.text.toList ++ rest) = (readAll rest).map (token :: ·)

theorem stops_of_head {p : Char → Bool} (hrest : ∀ c ∈ rest.head?, c = ' ' ∨ c = ')')
    (hblank : p ' ' = false) (hparen : p ')' = false) : Stops p rest := by
  intro c hc
  rcases hrest c hc with rfl | rfl
  · exact hblank
  · exact hparen

/-! ### Signs and words -/

/-- A character of a sort that no blank is of is no blank. -/
theorem isBlank_eq_false {p : Char → Bool} (hc : p c = true)
    (hp : [' ', '\t', '\n', '\x0c', '\r'].any p = false) : isBlank c = false := by
  rw [← Bool.not_eq_true]
  intro hblank
  have hmem : c ∈ [' ', '\t', '\n', '\x0c', '\r'] := by
    simpa [isBlank, or_assoc] using hblank
  exact List.any_eq_false.1 hp c hmem hc

theorem isDigit_of_isWordStart (h : isWordStart c = true) : c.isDigit = false := by
  rw [isWordStart, Bool.or_eq_true, beq_iff_eq] at h
  rcases h with h | rfl
  · rw [← Bool.not_eq_true]
    intro hdigit
    have hhigh : c.toNat ≤ 57 := (Char.isDigit_iff_toNat.1 hdigit).2
    rcases isAlpha_iff_toNat.1 h with h | h
    · have hlow : 65 ≤ c.toNat := h.1
      omega
    · have hlow : 97 ≤ c.toNat := h.1
      omega
  · rfl

/-- A text that starts with a word is read as a word. -/
theorem readAll_of_readWord (hstart : isWordStart c = true)
    (hread : readWord (c :: cs) = .ok (token, after)) :
    readAll (c :: cs) = (readAll after).map (token :: ·) := by
  have hblank : isBlank c = false := isBlank_eq_false hstart rfl
  refine readAll_of_read (List.dropWhile_cons_of_neg (by simp [hblank])) ?_
  rw [read, if_neg (by simp [isDigit_of_isWordStart hstart]), if_pos hstart, hread]

section Word

variable (hfirst : ∀ d ∈ first, isWordPart d = true) (hrest : Stops isWordPart rest)

include hfirst hrest

theorem readWord_keyword (hkeyword : Symbol.keyword? (String.ofList first) = some sign) :
    readWord (first ++ rest) = .ok (.symbol sign, rest) := by
  rw [readWord]
  dsimp only
  rw [takeWhile_append_of_stops hfirst hrest, dropWhile_append_of_stops hfirst hrest, hkeyword]

theorem readWord_boolean {value : Bool} (htext : String.ofList first = truthText value) :
    readWord (first ++ rest) = .ok (.boolean value, rest) := by
  rw [readWord]
  dsimp only
  rw [takeWhile_append_of_stops hfirst hrest, dropWhile_append_of_stops hfirst hrest, htext]
  cases value <;> rfl

/-- A word that is neither a keyword nor a truth value begins a name. -/
theorem readWord_name (hkeyword : Symbol.keyword? (String.ofList first) = none)
    (htrue : String.ofList first ≠ "true") (hfalse : String.ofList first ≠ "false")
    (htail : nameTail rest = (tail, after))
    (hlength : (first ++ tail).length ≤ Limits.identifierLength) :
    readWord (first ++ rest) = .ok (.identifier (String.ofList (first ++ tail)), after) := by
  rw [readWord]
  dsimp only
  rw [takeWhile_append_of_stops hfirst hrest, dropWhile_append_of_stops hfirst hrest, hkeyword,
    htail]
  dsimp only
  rw [if_neg htrue, if_neg hfalse, if_neg (Nat.not_lt.2 hlength)]

end Word

/-- Any sign that does not begin like a longer one is read as it is. -/
theorem readAll_of_readSign (hblank : isBlank c = false) (hdigit : c.isDigit = false)
    (hstart : isWordStart c = false) (hread : readSign (c :: cs) = some (sign, after)) :
    readAll (c :: cs) = (readAll after).map (.symbol sign :: ·) := by
  refine readAll_of_read (List.dropWhile_cons_of_neg (by simp [hblank])) ?_
  rw [read, if_neg (by simp [hdigit]), if_neg (by simp [hstart]), hread]

theorem readAll_leftParen (rest : List Char) :
    readAll ('(' :: rest) = (readAll rest).map (.symbol .leftParen :: ·) :=
  readAll_of_readSign rfl rfl rfl rfl

theorem readAll_rightParen (rest : List Char) :
    readAll (')' :: rest) = (readAll rest).map (.symbol .rightParen :: ·) :=
  readAll_of_readSign rfl rfl rfl rfl

theorem readAll_minus (rest : List Char) :
    readAll ('-' :: rest) = (readAll rest).map (.symbol .minus :: ·) :=
  readAll_of_readSign rfl rfl rfl rfl

/-- A symbol is read back in front of a blank, a closing parenthesis or nothing. -/
theorem readAll_symbol (sign : Symbol) (hrest : ∀ d ∈ rest.head?, d = ' ' ∨ d = ')') :
    readAll (sign.text.toList ++ rest) = (readAll rest).map (.symbol sign :: ·) := by
  have hword (c : Char) (cs : List Char) (hstart : isWordStart c = true)
      (hfirst : (c :: cs).all isWordPart = true)
      (hkeyword : Symbol.keyword? (String.ofList (c :: cs)) = some sign) :
      readAll (c :: cs ++ rest) = (readAll rest).map (.symbol sign :: ·) :=
    readAll_of_readWord hstart
      (readWord_keyword (List.all_eq_true.1 hfirst) (stops_of_head hrest rfl rfl) hkeyword)
  cases sign with
  | «if» => exact hword 'I' ['F'] rfl rfl (by decide)
  | «then» => exact hword 'T' ['H', 'E', 'N'] rfl rfl (by decide)
  | «else» => exact hword 'E' ['L', 'S', 'E'] rfl rfl (by decide)
  | and => exact hword 'A' ['N', 'D'] rfl rfl (by decide)
  | or => exact hword 'O' ['R'] rfl rfl (by decide)
  | leftParen => exact readAll_leftParen rest
  | rightParen => exact readAll_rightParen rest
  | minus => exact readAll_minus rest
  | star | slash | plus | comma | lessEqual | greaterEqual =>
    exact readAll_of_readSign rfl rfl rfl rfl
  | less | greater =>
    refine readAll_of_readSign rfl rfl rfl ?_
    -- the sign could go on with an equals sign only
    cases rest with
    | nil => rfl
    | cons d cs => rcases hrest d rfl with rfl | rfl <;> rfl

theorem head_blank (rest : List Char) : ∀ c ∈ (' ' :: rest).head?, c = ' ' ∨ c = ')' := by
  intro c hc
  exact .inl (Option.some.inj hc).symm

/-- A sign between blanks. -/
theorem readAll_spaced (sign : Symbol) (rest : List Char) :
    readAll (' ' :: (sign.text.toList ++ ' ' :: rest)) =
      (readAll rest).map (.symbol sign :: ·) := by
  rw [readAll_blank, readAll_symbol sign (head_blank rest), readAll_blank]

theorem legible_symbol (sign : Symbol) : Legible (.symbol sign) :=
  fun _ hrest ↦ readAll_symbol sign hrest.head

theorem legible_boolean (value : Bool) : Legible (.boolean value) := by
  intro rest hrest
  have hstops : Stops isWordPart rest := stops_of_head hrest.head rfl rfl
  have hword (c : Char) (cs : List Char) (hstart : isWordStart c = true)
      (hfirst : (c :: cs).all isWordPart = true)
      (htext : String.ofList (c :: cs) = truthText value) :
      readAll (c :: cs ++ rest) = (readAll rest).map (.boolean value :: ·) :=
    readAll_of_readWord hstart (readWord_boolean (List.all_eq_true.1 hfirst) hstops htext)
  cases value with
  | true => exact hword 't' ['r', 'u', 'e'] rfl rfl (by decide)
  | false => exact hword 'f' ['a', 'l', 's', 'e'] rfl rfl (by decide)

/-! ### Numbers -/

theorem ofInt?_val (value : Amount) : Amount.ofInt? value.val = some value := by
  rw [Amount.ofInt?, dif_pos ⟨value.least_le, value.le_greatest⟩]

theorem val_of_ofInt? {n : Int} {value : Amount} (h : Amount.ofInt? n = some value) :
    value.val = n := by
  rw [Amount.ofInt?] at h
  split at h
  · cases h
    rfl
  · cases h

section Number

variable {value : Amount} (hvalue : 0 ≤ value.val)

include hvalue

theorem isDigit_of_mem_text {c : Char} (hc : c ∈ value.text.toList) : c.isDigit = true := by
  rw [show value.text = toString value.val.toNat from toString_of_nonneg hvalue] at hc
  exact isDigit_of_mem_toString hc

theorem ofInt?_decimalValue_text :
    Amount.ofInt? (Text.decimalValue value.text.toList) = some value := by
  rw [show value.text = toString value.val.toNat from toString_of_nonneg hvalue,
    decimalValue_toString, Int.toNat_of_nonneg hvalue, ofInt?_val]

/-- Digits are an integer in front of anything but a digit and a percent sign. -/
theorem readNumber_integer (hrest : ∀ d ∈ rest.head?, d = ' ' ∨ d = ')') :
    readNumber (value.text.toList ++ rest) = .ok (.integer value, rest) := by
  have hdigits : ∀ d ∈ value.text.toList, d.isDigit = true :=
    fun d hd ↦ isDigit_of_mem_text hvalue hd
  have hstops : Stops Char.isDigit rest := stops_of_head hrest rfl rfl
  rw [readNumber, takeWhile_append_of_stops hdigits hstops,
    dropWhile_append_of_stops hdigits hstops, ofInt?_decimalValue_text hvalue]
  cases rest with
  | nil => rfl
  | cons d cs => rcases hrest d rfl with rfl | rfl <;> rfl

/-- A percent sign right behind digits belongs to them. -/
theorem readNumber_percent (rest : List Char) :
    readNumber (value.text.toList ++ '%' :: rest) = .ok (.percent value, rest) := by
  have hdigits : ∀ d ∈ value.text.toList, d.isDigit = true :=
    fun d hd ↦ isDigit_of_mem_text hvalue hd
  have hstops : Stops Char.isDigit ('%' :: rest) := stops_cons rfl rest
  rw [readNumber, takeWhile_append_of_stops hdigits hstops,
    dropWhile_append_of_stops hdigits hstops, ofInt?_decimalValue_text hvalue]
  rfl

/-- A text that starts with a number is read as a number. -/
theorem readAll_of_readNumber
    (hread : readNumber (value.text.toList ++ rest) = .ok (token, after)) :
    readAll (value.text.toList ++ rest) = (readAll after).map (token :: ·) := by
  have htext : value.text = toString value.val.toNat := toString_of_nonneg hvalue
  obtain ⟨c, cs, hcs, hc⟩ := exists_first_digit value.val.toNat
  rw [← htext] at hcs
  rw [hcs, List.cons_append] at hread ⊢
  have hblank : isBlank c = false := isBlank_eq_false hc rfl
  refine readAll_of_read (List.dropWhile_cons_of_neg (by simp [hblank])) ?_
  rw [read, if_pos hc, hread]

theorem legible_integer : Legible (.integer value) := fun _ hrest ↦
  readAll_of_readNumber hvalue (readNumber_integer hvalue hrest.head)

theorem legible_percent : Legible (.percent value) := by
  intro rest _
  have htext : (Token.percent value).text.toList = value.text.toList ++ ['%'] :=
    String.toList_append
  rw [htext, List.append_assoc]
  exact readAll_of_readNumber hvalue (readNumber_percent hvalue rest)

end Number

/-! ### Names -/

theorem nameTail_of_nil (h : text.dropWhile (· == ' ') = []) : nameTail text = ([], text) := by
  rw [nameTail]
  split
  case h_1 => rfl
  case h_2 heq =>
    rw [h] at heq
    cases heq

/-- What a name takes of a text depends on what follows the spaces. -/
theorem nameTail_of_cons (h : text.dropWhile (· == ' ') = c :: cs) :
    nameTail text =
      if isWordPart c then
        if (Symbol.keyword? (String.ofList ((c :: cs).takeWhile isWordPart))).isSome then ([], text)
        else
          (text.takeWhile (· == ' ') ++ (c :: cs).takeWhile isWordPart ++
            (nameTail ((c :: cs).dropWhile isWordPart)).1,
            (nameTail ((c :: cs).dropWhile isWordPart)).2)
      else
        match qualifier? (c :: cs) with
        | some (qualifier, after) => (text.takeWhile (· == ' ') ++ qualifier, after)
        | none => ([], text) := by
  rw [nameTail]
  split
  case h_1 heq =>
    rw [h] at heq
    cases heq
  case h_2 heq =>
    rw [h] at heq
    cases heq
    split <;> rfl

theorem breaks_nil : Breaks [] := ⟨fun _ hc ↦ (nomatch hc), nameTail_of_nil rfl⟩

theorem breaks_rightParen (rest : List Char) : Breaks (')' :: rest) := by
  constructor
  · intro c hc
    obtain rfl := Option.some.inj hc
    exact .inr rfl
  · have hspaces : (')' :: rest).dropWhile (· == ' ') = ')' :: rest := rfl
    rw [nameTail_of_cons hspaces, if_neg (by decide)]
    rfl

/-- A sign between blanks ends a name, unless it could begin a qualifier. -/
theorem breaks_symbol {sign : Symbol} (hsign : sign ≠ .leftParen) (rest : List Char) :
    Breaks (' ' :: (sign.text.toList ++ ' ' :: rest)) := by
  have hblank : Stops isWordPart (' ' :: rest) := stops_cons rfl rest
  have hkeyword (c : Char) (cs : List Char) (hall : (c :: cs).all isWordPart = true)
      (hspace : (c == ' ') = false)
      (hfound : (Symbol.keyword? (String.ofList (c :: cs))).isSome = true) :
      nameTail (' ' :: (c :: cs ++ ' ' :: rest)) = ([], ' ' :: (c :: cs ++ ' ' :: rest)) := by
    have hword := List.all_eq_true.1 hall
    have hdrop : (' ' :: (c :: cs ++ ' ' :: rest)).dropWhile (· == ' ') =
        c :: (cs ++ ' ' :: rest) :=
      dropWhile_append_of_stops (a := [' ']) (by simp) (stops_cons (p := (· == ' ')) hspace _)
    rw [nameTail_of_cons hdrop, if_pos (hword c List.mem_cons_self), ← List.cons_append,
      takeWhile_append_of_stops hword hblank, if_pos hfound]
  refine ⟨head_blank _, ?_⟩
  cases sign with
  | leftParen => exact absurd rfl hsign
  | «if» => exact hkeyword 'I' ['F'] rfl rfl (by decide)
  | «then» => exact hkeyword 'T' ['H', 'E', 'N'] rfl rfl (by decide)
  | «else» => exact hkeyword 'E' ['L', 'S', 'E'] rfl rfl (by decide)
  | and => exact hkeyword 'A' ['N', 'D'] rfl rfl (by decide)
  | or => exact hkeyword 'O' ['R'] rfl rfl (by decide)
  | rightParen | star | slash | plus | minus | comma | lessEqual | less | greaterEqual
  | greater =>
    rw [nameTail_of_cons rfl, if_neg (by decide)]
    rfl

/-- A qualifier is at the start of the text, and is found in front of any other rest as well. -/
theorem qualifier?_eq_some {qualifier : List Char}
    (h : qualifier? text = some (qualifier, after)) :
    qualifier.head? = some '(' ∧ qualifier ++ after = text ∧
      ∀ rest, qualifier? (qualifier ++ rest) = some (qualifier, rest) := by
  unfold qualifier? at h
  split at h
  case h_2 => cases h
  case h_1 inner =>
    split at h
    case h_2 => cases h
    case h_1 found =>
      cases h
      have hinner : ∀ d ∈ inner.takeWhile isQualifierPart, isQualifierPart d = true :=
        List.all_eq_true.1 List.all_takeWhile
      refine ⟨rfl, ?_, fun rest ↦ ?_⟩
      · rw [List.append_assoc, List.cons_append, List.singleton_append, ← found,
          List.takeWhile_append_dropWhile]
      · have hclosed : Stops isQualifierPart (')' :: rest) := stops_cons rfl rest
        rw [List.append_assoc, List.cons_append, List.singleton_append]
        simp only [qualifier?, dropWhile_append_of_stops hinner hclosed,
          takeWhile_append_of_stops hinner hclosed]

/-- A name and what is left of a text make up the text. -/
theorem nameTail_append (text : List Char) : (nameTail text).1 ++ (nameTail text).2 = text := by
  fun_induction nameTail text with
  | case1 | case2 | case5 => rfl
  | case3 text c rest h part word _ tail ih =>
    calc text.takeWhile (· == ' ') ++ word ++ tail.1 ++ tail.2
        = text.takeWhile (· == ' ') ++ (word ++ (tail.1 ++ tail.2)) := by simp
      _ = text.takeWhile (· == ' ') ++ (c :: rest) := by
        rw [ih, List.takeWhile_append_dropWhile]
      _ = text := by rw [← h, List.takeWhile_append_dropWhile]
  | case4 text c rest h part qualifier after found =>
    rw [List.append_assoc, (qualifier?_eq_some found).2.1, ← h, List.takeWhile_append_dropWhile]

/-- What a name takes begins like the text that it takes it of. -/
theorem stops_nameTail (htext : Stops isWordPart text) (hrest : Stops isWordPart rest) :
    Stops isWordPart ((nameTail text).1 ++ rest) := by
  have happend := nameTail_append text
  cases htaken : (nameTail text).1 with
  | nil => exact hrest
  | cons d taken =>
    rw [htaken] at happend
    rw [← happend] at htext
    exact htext

/-- **What a name took, it takes again**, in front of any text that it would take nothing of. -/
theorem nameTail_again (htext : Stops isWordPart text) (hrest : Breaks rest) :
    nameTail ((nameTail text).1 ++ rest) = ((nameTail text).1, rest) := by
  have hspaces (text : List Char) : ∀ d ∈ text.takeWhile (· == ' '), (d == ' ') = true :=
    List.all_eq_true.1 List.all_takeWhile
  fun_induction nameTail text with
  | case1 | case2 | case5 => exact hrest.nameTail_eq
  | case3 text c cs h part word hkeyword tail ih =>
    have hword : word = c :: cs.takeWhile isWordPart := List.takeWhile_cons_of_pos part
    have hparts : ∀ d ∈ word, isWordPart d = true := List.all_eq_true.1 List.all_takeWhile
    have hnext : Stops isWordPart (tail.1 ++ rest) :=
      stops_nameTail (stops_dropWhile _ _) (stops_of_head hrest.head rfl rfl)
    have hspace : (c == ' ') = false := by
      rw [beq_eq_false_iff_ne]
      rintro rfl
      cases part
    have hcons : word ++ (tail.1 ++ rest) = c :: (cs.takeWhile isWordPart ++ (tail.1 ++ rest)) := by
      rw [hword, List.cons_append]
    have hstop : Stops (· == ' ') (word ++ (tail.1 ++ rest)) := by
      rw [hcons]
      exact stops_cons (p := (· == ' ')) hspace _
    have hdrop : (text.takeWhile (· == ' ') ++ (word ++ (tail.1 ++ rest))).dropWhile (· == ' ') =
        c :: (cs.takeWhile isWordPart ++ (tail.1 ++ rest)) := by
      rw [dropWhile_append_of_stops (hspaces text) hstop, hcons]
    show nameTail (text.takeWhile (· == ' ') ++ word ++ tail.1 ++ rest) =
      (text.takeWhile (· == ' ') ++ word ++ tail.1, rest)
    rw [List.append_assoc, List.append_assoc, nameTail_of_cons hdrop, if_pos part, ← hcons,
      takeWhile_append_of_stops hparts hnext, dropWhile_append_of_stops hparts hnext,
      if_neg hkeyword, ih (stops_dropWhile _ _), takeWhile_append_of_stops (hspaces text) hstop]
  | case4 text c cs h part qualifier after found =>
    obtain ⟨hhead, -, hagain⟩ := qualifier?_eq_some found
    obtain ⟨inner, rfl⟩ : ∃ inner, qualifier = '(' :: inner := by
      cases qualifier with
      | nil => cases hhead
      | cons d inner =>
        obtain rfl := Option.some.inj hhead
        exact ⟨inner, rfl⟩
    have hstop : Stops (· == ' ') ('(' :: (inner ++ rest)) := stops_cons (p := (· == ' ')) rfl _
    have hdrop : (text.takeWhile (· == ' ') ++ '(' :: (inner ++ rest)).dropWhile (· == ' ') =
        '(' :: (inner ++ rest) := dropWhile_append_of_stops (hspaces text) hstop
    have hfound : qualifier? ('(' :: (inner ++ rest)) = some ('(' :: inner, rest) := hagain rest
    rw [List.append_assoc, List.cons_append, nameTail_of_cons hdrop, if_neg (by decide), hfound,
      takeWhile_append_of_stops (hspaces text) hstop]

/-! ### Tokens that were read -/

theorem legible_of_readNumber (h : readNumber text = .ok (token, after)) : token.Legible := by
  rw [readNumber] at h
  split at h
  case h_1 => cases h
  case h_2 value hvalue =>
    have hnonneg : 0 ≤ value.val := by
      rw [val_of_ofInt? hvalue]
      exact Int.natCast_nonneg _
    split at h
    case h_1 =>
      cases h
      exact legible_percent hnonneg
    case h_2 =>
      cases h
      exact legible_integer hnonneg

theorem legible_of_readWord (hstart : isWordStart c = true)
    (h : readWord (c :: cs) = .ok (token, after)) : token.Legible := by
  rw [readWord] at h
  dsimp only at h
  split at h
  case h_1 =>
    cases h
    exact legible_symbol _
  case h_2 hkeyword =>
    split at h
    case isTrue =>
      cases h
      exact legible_boolean true
    case isFalse htrue =>
      split at h
      case isTrue =>
        cases h
        exact legible_boolean false
      case isFalse hfalse =>
        split at h
        case isTrue => cases h
        case isFalse hlength =>
          cases h
          -- a name: its first word and what it took are found again, one behind the other
          intro rest hrest
          have hparts : ∀ d ∈ (c :: cs).takeWhile isWordPart, isWordPart d = true :=
            List.all_eq_true.1 List.all_takeWhile
          have htext : Stops isWordPart ((c :: cs).dropWhile isWordPart) := stops_dropWhile _ _
          have hnext := stops_nameTail htext (stops_of_head hrest.head (p := isWordPart) rfl rfl)
          have hread := readWord_name hparts hnext hkeyword htrue hfalse
            (nameTail_again htext hrest) (Nat.not_lt.1 hlength)
          have hfirst : (c :: cs).takeWhile isWordPart = c :: cs.takeWhile isWordPart :=
            List.takeWhile_cons_of_pos (isWordPart_of_isWordStart hstart)
          show readAll ((String.ofList _).toList ++ rest) = _
          rw [String.toList_ofList, List.append_assoc]
          rw [hfirst, List.cons_append] at hread ⊢
          exact readAll_of_readWord hstart hread

theorem legible_of_read (h : read c cs = .ok (token, after)) : token.Legible := by
  rw [read] at h
  split at h
  case isTrue => exact legible_of_readNumber h
  case isFalse =>
    split at h
    case isTrue hstart => exact legible_of_readWord hstart h
    case isFalse =>
      split at h
      case h_1 =>
        cases h
        exact legible_symbol _
      case h_2 => cases h

/-- **All tokens of a text are legible.** -/
theorem legible_of_readAll {tokens : List Token} (h : readAll text = .ok tokens) :
    ∀ token ∈ tokens, token.Legible := by
  fun_induction readAll text generalizing tokens with
  | case1 =>
    cases h
    exact fun _ htoken ↦ nomatch htoken
  | case2 => cases h
  | case3 text c cs start token after step ih =>
    cases hafter : readAll after with
    | error e =>
      rw [hafter] at h
      cases h
    | ok rest =>
      rw [hafter] at h
      cases h
      intro other hother
      rcases List.mem_cons.1 hother with rfl | hother
      · exact legible_of_read step
      · exact ih hafter other hother

end PointBuy.Token
