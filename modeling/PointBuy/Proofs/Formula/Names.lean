import Mathlib.Data.List.Basic
import PointBuy.Proofs.Formula.Lexing

/-!
# What names look like

A name is made of words with spaces between them, and may have a qualifier in parentheses at its
end. Reading takes it from a text piece by piece, always looking over the spaces for what comes
next, and takes the spaces only if it takes what comes behind them. Hence no name ends in a space,
and no word of a name is a keyword, as reading stops in front of keywords; what stands in a
qualifier is not looked at.

The induction is over the pieces: the shape of a text is kept when a word or a qualifier is put in
front of it, and when spaces are put in front of one that is not empty.

## Main definitions

* `Token.words` : the words of a text, without the spaces.
* `Token.unqualified` : a name up to its qualifier.
* `Token.IsName` : what a name looks like.

## Main statement

* `Token.isName_of_readWord` : all identifiers that are read are names.
-/

namespace PointBuy.Token

/-- The words of a text: what stands between the spaces. -/
def words (text : List Char) : List (List Char) := (text.splitOnP (· == ' ')).filter (!·.isEmpty)

/-- A name up to its qualifier. -/
def unqualified (name : List Char) : List Char := name.takeWhile (· != '(')

/-- The qualifier of a name, with its parentheses. -/
def qualifier (name : List Char) : List Char := name.dropWhile (· != '(')

/-- Words between spaces and perhaps a qualifier at the end. No word but those in the qualifier is a
keyword, and no space is at the end. -/
structure Shape (text : List Char) : Prop where
  parts : ∀ c ∈ unqualified text, isWordPart c = true ∨ c = ' '
  keyword?_eq_none : ∀ word ∈ words (unqualified text), Symbol.keyword? (String.ofList word) = none
  qualifier : qualifier text = [] ∨ ∃ inner, qualifier text = '(' :: (inner ++ [')']) ∧
    ∀ c ∈ inner, isQualifierPart c = true
  last : ∀ c ∈ text.getLast?, c ≠ ' '

/-- What a name looks like: it has a bounded length and such a shape, begins with a letter or an
underscore, and has no truth value as its first word. -/
structure IsName (name : List Char) : Prop extends Shape name where
  length_le : name.length ≤ Limits.identifierLength
  head : ∃ c ∈ name.head?, isWordStart c = true
  first : ∃ word ∈ (words (unqualified name)).head?, ∀ value, word ≠ (truthText value).toList

variable {text rest after first tail word spaces inner cs : List Char} {c : Char}

/-! ### Words -/

theorem words_nil : words [] = [] := rfl

theorem words_cons_space (text : List Char) : words (' ' :: text) = words text := by
  rw [words, show ' ' :: text = [] ++ ' ' :: text from rfl, List.splitOnP_append_cons _ _ rfl]
  rfl

theorem words_spaces_append (hspaces : ∀ c ∈ spaces, c = ' ') :
    words (spaces ++ text) = words text := by
  induction spaces with
  | nil => rfl
  | cons c spaces ih =>
    obtain ⟨rfl, hrest⟩ := List.forall_mem_cons.1 hspaces
    rw [List.cons_append, words_cons_space, ih hrest]

/-- A word in front of a text that goes on with a space. -/
theorem words_append (hword : ∀ c ∈ word, isWordPart c = true) (hne : word ≠ [])
    (hrest : ∀ c ∈ rest.head?, c = ' ') : words (word ++ rest) = word :: words rest := by
  have hspaces : ∀ c ∈ word, (c == ' ') = false := by
    intro c hc
    rw [beq_eq_false_iff_ne]
    rintro rfl
    cases hword _ hc
  have hfilter : [word].filter (!·.isEmpty) = [word] := by
    simpa using hne
  cases rest with
  | nil => rw [List.append_nil, words, List.splitOnP_eq_singleton hspaces, hfilter, words_nil]
  | cons c rest =>
    obtain rfl := hrest c rfl
    rw [words_cons_space, words, List.splitOnP_append_cons _ _ rfl,
      List.splitOnP_eq_singleton hspaces, List.filter_append, hfilter]
    rfl

/-! ### Shapes -/

theorem isWordPart_ne_paren (h : isWordPart c = true) : (c != '(') = true := by
  rw [bne_iff_ne]
  rintro rfl
  cases h

/-- What stands in front of a parenthesis does not change the qualifier. -/
theorem unqualified_append (tail : List Char) (hfirst : ∀ c ∈ first, (c != '(') = true) :
    unqualified (first ++ tail) = first ++ unqualified tail ∧
      Token.qualifier (first ++ tail) = Token.qualifier tail :=
  ⟨List.takeWhile_append_of_pos hfirst, List.dropWhile_append_of_pos hfirst⟩

theorem shape_nil : Shape [] where
  parts _ hc := nomatch hc
  keyword?_eq_none _ hword := nomatch hword
  qualifier := .inl rfl
  last _ hc := nomatch hc

theorem shape_qualifier (hinner : ∀ c ∈ inner, isQualifierPart c = true) :
    Shape ('(' :: (inner ++ [')'])) where
  parts _ hc := nomatch hc
  keyword?_eq_none _ hword := nomatch hword
  qualifier := .inr ⟨inner, rfl, hinner⟩
  last c hc := by
    rw [← List.cons_append, List.getLast?_concat] at hc
    obtain rfl := Option.some.inj hc
    decide

/-- The last character stays the last when something is put in front of it. -/
theorem getLast?_append_ne_space (htail : Shape tail) (hne : tail ≠ []) :
    ∀ c ∈ (first ++ tail).getLast?, c ≠ ' ' := by
  rw [List.getLast?_append_of_ne_nil _ hne]
  exact htail.last

section Word

variable (hword : ∀ c ∈ word, isWordPart c = true) (hne : word ≠ []) (htail : Shape tail)
  (hstops : Stops isWordPart tail)

include hword hne htail hstops

/-- A word in front of what a name takes is one more word of it. -/
theorem words_unqualified_append :
    words (unqualified (word ++ tail)) = word :: words (unqualified tail) := by
  have hspace : ∀ c ∈ (unqualified tail).head?, c = ' ' := by
    intro c hc
    have hmem : c ∈ unqualified tail := List.mem_of_mem_head? hc
    refine (htail.parts c hmem).resolve_left fun hpart ↦ ?_
    have hhead : c ∈ (unqualified tail ++ Token.qualifier tail).head? := by
      rw [List.head?_append, Option.mem_def.1 hc]
      rfl
    rw [unqualified, Token.qualifier, List.takeWhile_append_dropWhile] at hhead
    rw [hstops c hhead] at hpart
    cases hpart
  rw [(unqualified_append tail fun c hc ↦ isWordPart_ne_paren (hword c hc)).1,
    words_append hword hne hspace]

theorem Shape.word_append (hkeyword : Symbol.keyword? (String.ofList word) = none) :
    Shape (word ++ tail) := by
  obtain ⟨hunqualified, hqualifier⟩ :=
    unqualified_append tail fun c hc ↦ isWordPart_ne_paren (hword c hc)
  constructor
  case parts =>
    intro c hc
    rw [hunqualified, List.mem_append] at hc
    exact hc.elim (fun hc ↦ .inl (hword c hc)) (htail.parts c)
  case keyword?_eq_none =>
    rw [words_unqualified_append hword hne htail hstops]
    exact List.forall_mem_cons.2 ⟨hkeyword, htail.keyword?_eq_none⟩
  case qualifier =>
    rw [hqualifier]
    exact htail.qualifier
  case last =>
    cases tail with
    | nil =>
      intro c hc
      rw [List.append_nil] at hc
      rintro rfl
      cases hword _ (List.mem_of_getLast? hc)
    | cons d tail => exact getLast?_append_ne_space htail (List.cons_ne_nil d tail)

end Word

/-- Spaces in front of something that a name takes. -/
theorem Shape.spaces_append (hspaces : ∀ c ∈ spaces, c = ' ') (htail : Shape tail)
    (hne : tail ≠ []) : Shape (spaces ++ tail) := by
  have hplain : ∀ c ∈ spaces, (c != '(') = true := by
    intro c hc
    rw [hspaces c hc]
    rfl
  obtain ⟨hunqualified, hqualifier⟩ := unqualified_append tail hplain
  constructor
  case parts =>
    intro c hc
    rw [hunqualified, List.mem_append] at hc
    exact hc.elim (fun hc ↦ .inr (hspaces c hc)) (htail.parts c)
  case keyword?_eq_none =>
    rw [hunqualified, words_spaces_append hspaces]
    exact htail.keyword?_eq_none
  case qualifier =>
    rw [hqualifier]
    exact htail.qualifier
  case last => exact getLast?_append_ne_space htail hne

/-- What a name takes behind a word does not go on with the word. -/
theorem stops_nameTail_dropWhile (text : List Char) :
    Stops isWordPart (nameTail (text.dropWhile isWordPart)).1 := by
  rw [← List.append_nil (nameTail _).1]
  exact stops_nameTail (stops_dropWhile _ _) (stops_nil _)

theorem exists_of_qualifier? {qualifier : List Char}
    (h : qualifier? text = some (qualifier, after)) :
    ∃ inner, qualifier = '(' :: (inner ++ [')']) ∧ ∀ c ∈ inner, isQualifierPart c = true := by
  unfold qualifier? at h
  split at h
  case h_2 => cases h
  case h_1 inner =>
    split at h
    case h_2 => cases h
    case h_1 =>
      cases h
      exact ⟨_, rfl, List.all_eq_true.1 List.all_takeWhile⟩

/-- **What a name takes has the shape of a name.** -/
theorem shape_nameTail (text : List Char) : Shape (nameTail text).1 := by
  have hspaces (text : List Char) : ∀ c ∈ text.takeWhile (· == ' '), c = ' ' :=
    fun c hc ↦ eq_of_beq (List.all_eq_true.1 List.all_takeWhile c hc)
  fun_induction nameTail text with
  | case1 | case2 | case5 => exact shape_nil
  | case3 text c rest h part word hkeyword tail ih =>
    have hword : ∀ d ∈ word, isWordPart d = true := List.all_eq_true.1 List.all_takeWhile
    have hne : word ≠ [] := by
      rw [show word = c :: rest.takeWhile isWordPart from List.takeWhile_cons_of_pos part]
      exact List.cons_ne_nil _ _
    have htaken : Shape (word ++ tail.1) :=
      ih.word_append hword hne (stops_nameTail_dropWhile _) (by simpa using hkeyword)
    rw [List.append_assoc]
    exact htaken.spaces_append (hspaces text) (List.append_ne_nil_of_left_ne_nil hne _)
  | case4 text c rest h part qualifier after found =>
    obtain ⟨inner, rfl, hinner⟩ := exists_of_qualifier? found
    exact (shape_qualifier hinner).spaces_append (hspaces text) (List.cons_ne_nil _ _)

/-! ### Names -/

/-- **Identifiers are names.** -/
theorem isName_of_readWord {name : String} (hstart : isWordStart c = true)
    (h : readWord (c :: cs) = .ok (.identifier name, after)) : IsName name.toList := by
  have hfirst : (c :: cs).takeWhile isWordPart = c :: cs.takeWhile isWordPart :=
    List.takeWhile_cons_of_pos (isWordPart_of_isWordStart hstart)
  have hword : ∀ d ∈ (c :: cs).takeWhile isWordPart, isWordPart d = true :=
    List.all_eq_true.1 List.all_takeWhile
  rw [readWord] at h
  dsimp only at h
  split at h
  case h_1 => cases h
  case h_2 hkeyword =>
    split at h
    case isTrue => cases h
    case isFalse htrue =>
      split at h
      case isTrue => cases h
      case isFalse hfalse =>
        split at h
        case isTrue => cases h
        case isFalse hlength =>
          cases h
          rw [String.toList_ofList]
          have htail := shape_nameTail ((c :: cs).dropWhile isWordPart)
          have hstops := stops_nameTail_dropWhile (c :: cs)
          have hne : (c :: cs).takeWhile isWordPart ≠ [] := hfirst ▸ List.cons_ne_nil _ _
          constructor
          case toShape => exact htail.word_append hword hne hstops hkeyword
          case length_le => exact Nat.not_lt.1 hlength
          case head =>
            rw [hfirst]
            exact ⟨c, rfl, hstart⟩
          case first =>
            rw [words_unqualified_append hword hne htail hstops]
            refine ⟨_, rfl, fun value hvalue ↦ ?_⟩
            have htext : String.ofList ((c :: cs).takeWhile isWordPart) = truthText value := by
              rw [hvalue, String.ofList_toList]
            cases value with
            | true => exact htrue htext
            | false => exact hfalse htext

end PointBuy.Token
