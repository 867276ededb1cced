import PointBuy.Declaration.Line
import PointBuy.Proofs.Text.Trimming

/-!
# Declaration lines can be read back

A declaration line is taken apart from left to right, and each part tells where it ends: no name
goes on with the character that an operator begins with, no operator with a blank, no formula with a
quote or a brace, and a comment ends with the last quote of its line. So a line that is written from
its parts (`Line.print`) comes apart into these parts again, whatever blanks stand around it and
whatever quotes and braces stand in its comment.

## Main definitions

* `Line.print` : a declaration line as it is written.
* `Line.WellFormed` : what the parts of a line have to be like to be told apart.

## Main statement

* `Line.split_trim_print` : a written line comes apart into its parts.
-/

namespace PointBuy.Declaration.Line

open Text

variable {l : Line} {name sub formula comment rest before after : List Char} {c : Char}
  {operator : Operator}

/-- The part of a name behind a point, as it is written. -/
def printSub : Option (List Char) → List Char
  | some sub => '.' :: sub
  | none => []

/-- A comment as it is written behind a formula. -/
def printComment : Option (List Char) → List Char
  | some comment => ' ' :: '"' :: comment ++ ['"']
  | none => []

/-- What a line begins with, up to its operator. -/
def printStart (name : List Char) (sub : Option (List Char)) (operator : Operator) : List Char :=
  name ++ (printSub sub ++ ' ' :: operator.text.toList)

/-- What a line goes on with behind its formula. -/
def printRest (comment : Option (List Char)) (opensBlock : Bool) : List Char :=
  printComment comment ++ if opensBlock then [' ', '\x7b'] else []

/-- **A declaration line as it is written.** -/
def print (l : Line) : List Char :=
  printStart l.name l.sub l.operator ++ ' ' :: (l.formula ++ printRest l.comment l.opensBlock)

/-- A name that can be read back: it is not empty, begins with no digit, and neither begins nor ends
with a blank. -/
structure NameShape (name : List Char) : Prop where
  start : name.head?.any isNameStart = true
  parts : ∀ c ∈ name, isNamePart c = true
  head : name.head? ≠ some ' '
  last : name.getLast? ≠ some ' '

instance (name : List Char) : Decidable (NameShape name) :=
  decidable_of_iff (name.head?.any isNameStart = true ∧ name.all isNamePart = true ∧
      name.head? ≠ some ' ' ∧ name.getLast? ≠ some ' ')
    ⟨fun ⟨hstart, hparts, hhead, hlast⟩ ↦ ⟨hstart, List.all_eq_true.1 hparts, hhead, hlast⟩,
      fun h ↦ ⟨h.start, List.all_eq_true.2 h.parts, h.head, h.last⟩⟩

/-- What the parts of a line have to be like to be told apart. -/
structure WellFormed (l : Line) : Prop where
  name : NameShape l.name
  sub : ∀ sub ∈ l.sub, NameShape sub
  formula : Trimmed l.formula
  formula_plain : ∀ c ∈ l.formula, endsFormula c = false
  comment : ∀ comment ∈ l.comment, Trimmed comment

/-! ### Names and operators -/

theorem code_of_isNamePart (h : isNamePart c = true) : 0x20 ≤ c.toNat ∧ c.toNat < 0x80 := by
  simp only [isNamePart, isNameStart, Char.isDigit_iff_toNat, isAlpha_iff_toNat, Bool.or_eq_true,
    beq_iff_eq] at h
  rcases h with h | ((((((h | h) | rfl) | rfl) | rfl) | rfl) | rfl) | rfl
  all_goals
    first
    | decide
    | exact ⟨Nat.le_trans (by decide) h.1, Nat.lt_of_le_of_lt h.2 (by decide)⟩

/-- The only blank in a name is the space. -/
theorem not_blank_of_isNamePart (h : isNamePart c = true) (hspace : c ≠ ' ') :
    isBlank c = false := by
  have hcode := code_of_isNamePart h
  have hne : c.toNat ≠ 0x20 := fun heq ↦ hspace (Char.toNat_inj.1 heq)
  simp only [isBlank, blankRanges, List.any_cons, List.any_nil, Bool.or_false,
    Bool.or_eq_false_iff, Bool.and_eq_false_iff, decide_eq_false_iff_not]
  omega

namespace NameShape

variable (h : NameShape name)

include h

theorem exists_eq_cons : ∃ c rest, name = c :: rest ∧ isNameStart c = true := by
  obtain ⟨c, hhead, hc⟩ := (Option.any_eq_true _ _).1 h.start
  obtain ⟨rest, hname⟩ := List.head?_eq_some_iff.1 hhead
  exact ⟨c, rest, hname, hc⟩

theorem ne_nil : name ≠ [] := by
  obtain ⟨c, rest, rfl, -⟩ := h.exists_eq_cons
  exact List.cons_ne_nil c rest

theorem trimmed : Trimmed name where
  start c hc := by
    refine not_blank_of_isNamePart (h.parts c (List.mem_of_mem_head? hc)) ?_
    rintro rfl
    exact h.head hc
  «end» c hc := by
    rw [List.head?_reverse] at hc
    refine not_blank_of_isNamePart (h.parts c (List.mem_of_getLast? hc)) ?_
    rintro rfl
    exact h.last hc

/-- A name is read with the spaces behind it. -/
theorem scanName_eq (gap : List Char) (hgap : ∀ c ∈ gap, isNamePart c = true)
    (hrest : Stops isNamePart rest) :
    scanName (name ++ (gap ++ rest)) = some (name ++ gap, rest) := by
  have hparts : ∀ c ∈ name ++ gap, isNamePart c = true := by
    intro c hc
    rcases List.mem_append.1 hc with hc | hc
    · exact h.parts c hc
    · exact hgap c hc
  obtain ⟨c, tail, rfl, hc⟩ := h.exists_eq_cons
  rw [← List.append_assoc, List.cons_append, List.cons_append, scanName, if_pos hc]
  rw [← List.cons_append, ← List.cons_append, takeWhile_append_of_stops hparts hrest,
    dropWhile_append_of_stops hparts hrest]

end NameShape

/-- No name goes on with an operator. -/
theorem stops_operator (operator : Operator) (rest : List Char) :
    Stops isNamePart (operator.text.toList ++ rest) := by
  cases operator <;> exact stops_cons (by decide) _

theorem trimmed_operator (operator : Operator) : Trimmed operator.text.toList := by
  cases operator <;> exact ⟨stops_cons (by decide) _, stops_cons (by decide) _⟩

/-- An operator is read as it is, unless an equals sign behind it makes another one of it. -/
theorem scanOperator_eq (operator : Operator) (hrest : Stops (· == '=') rest) :
    scanOperator (operator.text.toList ++ rest) = some (operator, rest) := by
  have hnone : after? ['='] rest = none := by
    cases rest with
    | nil => rfl
    | cons c rest =>
      have hc : c ≠ '=' := by simpa using hrest c rfl
      rw [after?, if_neg hc.symm]
  cases operator with
  | define =>
    have hinherit : after? Operator.inherit.text.toList (Operator.define.text.toList ++ rest) =
        none := hnone
    rw [scanOperator, Operator.all, List.findSome?_cons, hinherit]
    rfl
  | inherit => rfl
  | function => rfl
  | addTo => rfl
  | subtractFrom => rfl

/-! ### Formulas and comments -/

/-- The characters before the last quote are those before a quote that none follows. -/
theorem splitAtLastQuote_eq (comment : List Char) (hrest : '"' ∉ rest) :
    splitAtLastQuote (comment ++ '"' :: rest) = some (comment, rest) := by
  have hafter : ∀ c ∈ rest.reverse, (c != '"') = true := by
    intro c hc
    rw [bne_iff_ne]
    rintro rfl
    exact hrest (List.mem_reverse.1 hc)
  have hquote : Stops (· != '"') ('"' :: comment.reverse) := stops_cons (by decide) _
  have hreverse : (comment ++ '"' :: rest).reverse = rest.reverse ++ '"' :: comment.reverse := by
    simp
  rw [splitAtLastQuote, hreverse, dropWhile_append_of_stops hafter hquote,
    takeWhile_append_of_stops hafter hquote, List.reverse_reverse]
  exact congrArg (fun comment ↦ some (comment, rest)) (List.reverse_reverse comment)

/-- What ends the formula of a line: the quote of its comment, or the brace. -/
def closing (comment : Option (List Char)) (opensBlock : Bool) : List Char :=
  match comment with
  | some comment => '"' :: (comment ++ '"' :: if opensBlock then [' ', '\x7b'] else [])
  | none => if opensBlock then ['\x7b'] else []

theorem stops_closing (comment : Option (List Char)) (opensBlock : Bool) :
    Stops (fun c ↦ !endsFormula c) (closing comment opensBlock) := by
  cases comment with
  | some comment => exact stops_cons (by decide) _
  | none =>
    cases opensBlock
    · exact stops_nil _
    · exact stops_cons (by decide) _

theorem stops_closing_reverse (comment : Option (List Char)) (opensBlock : Bool) :
    Stops isBlank (closing comment opensBlock).reverse := by
  cases comment with
  | some comment =>
    rw [closing, List.reverse_cons, List.reverse_append, List.reverse_cons]
    cases opensBlock <;> exact stops_cons (by decide) _
  | none =>
    cases opensBlock
    · exact stops_nil _
    · exact stops_cons (by decide) _

/-- Behind the formula there is nothing, or a space and what ends it. -/
theorem printRest_eq (comment : Option (List Char)) (opensBlock : Bool) :
    printRest comment opensBlock = [] ∧ closing comment opensBlock = [] ∨
      printRest comment opensBlock = ' ' :: closing comment opensBlock ∧
        closing comment opensBlock ≠ [] := by
  cases comment with
  | some comment =>
    refine .inr ⟨?_, List.cons_ne_nil _ _⟩
    simp [printRest, printComment, closing]
  | none => cases opensBlock <;> simp [printRest, printComment, closing]

/-- A comment and a brace are read as they are. -/
theorem scanComment_closing (comment : Option (List Char)) (opensBlock : Bool) :
    ∃ rest, scanComment (closing comment opensBlock) = some (comment, rest) ∧
      scanOpening rest = some opensBlock := by
  cases comment with
  | some comment =>
    rw [closing, scanComment, splitAtLastQuote_eq comment (by cases opensBlock <;> decide)]
    refine ⟨_, rfl, ?_⟩
    cases opensBlock <;> rfl
  | none =>
    refine ⟨closing none opensBlock, ?_, ?_⟩ <;> cases opensBlock <;> rfl

/-- What is left of the end of a line when the blanks behind it are taken away: the formula between
blanks, and what ends it. -/
theorem exists_trimEnd_eq (hformula : Trimmed formula) (comment : Option (List Char))
    (opensBlock : Bool) (hafter : Blank after) :
    ∃ gap gap', Blank gap ∧ Blank gap' ∧
      trimEnd (' ' :: (formula ++ printRest comment opensBlock) ++ after) =
        gap ++ (formula ++ gap') ++ closing comment opensBlock ∧
      Stops (· == '=') (gap ++ (formula ++ gap') ++ closing comment opensBlock) := by
  rcases printRest_eq comment opensBlock with ⟨hrest, hclosing⟩ | ⟨hrest, hclosing⟩
  · by_cases hne : formula = []
    · refine ⟨[], [], blank_nil, blank_nil, ?_, ?_⟩ <;> rw [hclosing, hne]
      · rw [hrest]
        exact trimEnd_of_blank (List.forall_mem_cons.2 ⟨by decide, hafter⟩)
      · exact stops_nil _
    · refine ⟨[' '], [], blank_space, blank_nil, ?_, stops_cons (by decide) _⟩
      rw [hrest, hclosing, List.append_nil, List.append_nil]
      exact trimEnd_between [' '] hformula.end hne hafter
  · refine ⟨[' '], [' '], blank_space, blank_space, ?_, stops_cons (by decide) _⟩
    rw [hrest, ← trimEnd_between _ (stops_closing_reverse comment opensBlock) hclosing hafter]
    simp

/-! ### Lines -/

theorem trimmed_printStart (hname : NameShape name) (sub : Option (List Char))
    (operator : Operator) : Trimmed (printStart name sub operator) where
  start := stops_append hname.trimmed.start hname.ne_nil _
  «end» := by
    rw [printStart, List.reverse_append, List.reverse_append, List.reverse_cons, List.append_assoc,
      List.append_assoc]
    refine stops_append (trimmed_operator operator).end ?_ _
    cases operator <;> decide

/-- The start of a line is read up to its operator. -/
theorem exists_scanName_eq (hname : NameShape name) {sub : Option (List Char)}
    (hsub : ∀ s ∈ sub, NameShape s) (operator : Operator) (rest : List Char) :
    ∃ name' rest', scanName (printStart name sub operator ++ rest) = some (name', rest') ∧
      trim name' = name ∧ scanSub rest' = some (sub, operator.text.toList ++ rest) := by
  have hspace : ∀ c ∈ [' '], isNamePart c = true := List.all_eq_true.1 (by decide)
  have hstops := stops_operator operator rest
  have htrim {name : List Char} (h : NameShape name) : trim (name ++ [' ']) = name :=
    trim_between blank_nil h.trimmed blank_space
  cases sub with
  | none =>
    refine ⟨name ++ [' '], operator.text.toList ++ rest, ?_, htrim hname, ?_⟩
    · rw [← hname.scanName_eq [' '] hspace hstops]
      simp [printStart, printSub]
    · cases operator <;> rfl
  | some sub =>
    have hshape : NameShape sub := hsub sub rfl
    refine ⟨name, '.' :: (sub ++ ([' '] ++ (operator.text.toList ++ rest))), ?_, ?_, ?_⟩
    · have hpoint : Stops isNamePart ('.' :: (sub ++ ([' '] ++ (operator.text.toList ++ rest)))) :=
        stops_cons (by decide) _
      have hread := hname.scanName_eq [] (fun _ hc ↦ (nomatch hc)) hpoint
      rw [List.append_nil] at hread
      rw [← hread]
      simp [printStart, printSub]
    · exact hname.trimmed.trim_eq
    · rw [scanSub, hshape.scanName_eq [' '] hspace hstops]
      simp [htrim hshape, hshape.ne_nil]

theorem trim_print (h : l.WellFormed) (hbefore : Blank before) (after : List Char) :
    trim (before ++ (l.print ++ after)) = printStart l.name l.sub l.operator ++
      trimEnd (' ' :: (l.formula ++ printRest l.comment l.opensBlock) ++ after) := by
  have hne : printStart l.name l.sub l.operator ≠ [] :=
    List.append_ne_nil_of_left_ne_nil h.name.ne_nil _
  rw [print, List.append_assoc]
  exact trim_append hbefore (trimmed_printStart h.name _ _) hne _

/-- A written line begins with its name. -/
theorem exists_trim_print_eq_cons (h : l.WellFormed) (hbefore : Blank before) (after : List Char) :
    ∃ c rest, trim (before ++ (l.print ++ after)) = c :: rest ∧ isNameStart c = true := by
  obtain ⟨c, rest, hname, hc⟩ := h.name.exists_eq_cons
  rw [trim_print h hbefore, printStart, hname]
  exact ⟨c, _, rfl, hc⟩

theorem not_endsFormula_of_isBlank (h : isBlank c = true) : endsFormula c = false := by
  rw [← Bool.not_eq_true, endsFormula, Bool.or_eq_true, beq_iff_eq, beq_iff_eq]
  rintro (rfl | rfl) <;> exact absurd h (by decide)

/-- **A written line comes apart into its parts**, whatever blanks stand around it. -/
theorem split_trim_print (h : l.WellFormed) (hbefore : Blank before) (hafter : Blank after) :
    split (trim (before ++ (l.print ++ after))) = some l := by
  obtain ⟨gap, gap', hgap, hgap', htail, hequals⟩ :=
    exists_trimEnd_eq h.formula l.comment l.opensBlock hafter
  rw [trim_print h hbefore, htail]
  obtain ⟨name, rest, hname, htrim, hsub⟩ := exists_scanName_eq h.name h.sub l.operator
    (gap ++ (l.formula ++ gap') ++ closing l.comment l.opensBlock)
  have hstart := trimStart_of_stops (stops_append (trimmed_operator l.operator).start
    (by cases l.operator <;> decide) (gap ++ (l.formula ++ gap') ++ closing l.comment l.opensBlock))
  have hoperator := scanOperator_eq l.operator hequals
  have hformula : ∀ c ∈ gap ++ (l.formula ++ gap'), (!endsFormula c) = true := by
    intro c hc
    rw [Bool.not_eq_true']
    rcases List.mem_append.1 hc with hc | hc
    · exact not_endsFormula_of_isBlank (hgap c hc)
    · rcases List.mem_append.1 hc with hc | hc
      · exact h.formula_plain c hc
      · exact not_endsFormula_of_isBlank (hgap' c hc)
  have hends := stops_closing l.comment l.opensBlock
  obtain ⟨rest', hcomment, hopens⟩ := scanComment_closing l.comment l.opensBlock
  have hcommentTrim : l.comment.map trim = l.comment := by
    cases hsome : l.comment with
    | none => rfl
    | some comment => rw [Option.map_some, (h.comment comment hsome).trim_eq]
  rw [split, hname]
  simp only [Option.bind_eq_bind, Option.bind_some, hsub, hstart, hoperator,
    takeWhile_append_of_stops hformula hends, dropWhile_append_of_stops hformula hends, hcomment,
    hopens, htrim, hcommentTrim, trim_between hgap h.formula hgap']

end PointBuy.Declaration.Line
