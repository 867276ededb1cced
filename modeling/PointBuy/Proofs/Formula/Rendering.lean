import PointBuy.Proofs.Formula.Lexing
import PointBuy.Proofs.Formula.Parsing
import PointBuy.Trait.Builder

/-!
# The text of a formula spells the formula

The text of a formula has parentheses around everything that is not a single token. This module
shows that they are enough: the text of a formula that was parsed is parsed as the same formula, or
it is refused for its size, since the parentheses make it longer and nest it deeper than the text it
came from.

* The text is read as the tokens of `Formula.spelling` (`Formula.readAll_render`), by induction on
  the formula. A name in it is followed by a closing parenthesis, by an operator or by a keyword,
  and takes nothing of any of them.
* These tokens derive the formula where there is room for the groups among them
  (`Formula.derives_spelling`), and the first group without room ends the run
  (`Formula.runsOut_spelling`).

## Main definitions

* `Formula.spelling` : the tokens of the text of a formula.
* `Formula.nesting` : the groups inside one another in the text of a formula.

## Main statements

* `Formula.parse_render` : how the text of a parsed formula is parsed.
* `Trait.parseFormula_render` : the same where a declaration is read.
-/

namespace PointBuy

namespace Formula

variable {f : Formula}

/-- The tokens of the text of a formula. -/
def spelling : Formula → List Token
  | trait name => [.identifier name]
  | level => [.identifier "level"]
  | integer value => [.integer value]
  | percent hundredths => [.percent hundredths]
  | boolean value => [.boolean value]
  | negate operand =>
    .symbol .leftParen :: .symbol .minus :: operand.spelling ++ [.symbol .rightParen]
  | binary op left right =>
    .symbol .leftParen :: left.spelling ++
      (.symbol op.symbol :: right.spelling ++ [.symbol .rightParen])
  | conditional condition whenTrue whenFalse =>
    .symbol .leftParen :: .symbol .if :: condition.spelling ++
      (.symbol .then :: whenTrue.spelling ++
        (.symbol .else :: whenFalse.spelling ++ [.symbol .rightParen]))

/-- The groups inside one another in the text of a formula. A condition and what holds under it are
groups inside the parentheses of the conditional. -/
def nesting : Formula → Nat
  | trait _ | level | integer _ | percent _ | boolean _ => 0
  | negate operand => operand.nesting + 1
  | binary _ left right => max left.nesting right.nesting + 1
  | conditional condition whenTrue whenFalse =>
    max (max condition.nesting whenTrue.nesting + 1) whenFalse.nesting + 1

/-! ### The text is read as its tokens -/

/-- A formula whose text can be read back token by token. -/
structure Readable (f : Formula) : Prop where
  legible : ∀ token ∈ f.spelling, token.Legible
  level_notMem : "level" ∉ f.mentions

/-- A formula that derives from legible tokens is spelled with legible tokens: it has no names and
literals but theirs, and every sign is legible. -/
theorem readable_of_derives {room : Nat} {phrase : Phrase} {tokens : List Token}
    (h : Derives room phrase tokens f) (hlegible : ∀ token ∈ tokens, token.Legible) :
    f.Readable := by
  have hsign (sign : Symbol) : (Token.symbol sign).Legible := Token.legible_symbol sign
  induction h with
  | identifier name =>
    split
    case isTrue hlevel =>
      subst hlevel
      exact ⟨hlegible, List.not_mem_nil⟩
    case isFalse hlevel => exact ⟨hlegible, by simpa [mentions, eq_comm] using hlevel⟩
  | integer | percent | boolean => exact ⟨hlegible, List.not_mem_nil⟩
  | group _ ih => exact ih fun token htoken ↦ hlegible token (by simp [htoken])
  | alone _ _ ih => exact ih hlegible
  | negate _ ih =>
    have ho := ih fun token htoken ↦ hlegible token (by simp [htoken])
    refine ⟨?_, ho.level_notMem⟩
    simpa [spelling, or_imp, forall_and, hsign] using ho.legible
  | chain op _ _ ihl ihr =>
    have hl := ihl fun token htoken ↦ hlegible token (by simp [htoken])
    have hr := ihr fun token htoken ↦ hlegible token (by simp [htoken])
    constructor
    · simpa [spelling, or_imp, forall_and, hsign] using ⟨hl.legible, hr.legible⟩
    · simp [mentions, hl.level_notMem, hr.level_notMem]
  | conditional _ _ _ ihc iht ihe =>
    have hc := ihc fun token htoken ↦ hlegible token (by simp [htoken])
    have ht := iht fun token htoken ↦ hlegible token (by simp [htoken])
    have he := ihe fun token htoken ↦ hlegible token (by simp [htoken])
    constructor
    · simpa [spelling, or_imp, forall_and, hsign] using ⟨hc.legible, ht.legible, he.legible⟩
    · simp [mentions, hc.level_notMem, ht.level_notMem, he.level_notMem]

/-- **The text of a formula is read as its tokens**, whatever follows it without going on with
it. -/
theorem readAll_render {rest : List Char} (hlegible : ∀ token ∈ f.spelling, token.Legible)
    (hrest : Token.Breaks rest) :
    Token.readAll (f.render.toList ++ rest) = (Token.readAll rest).map (f.spelling ++ ·) := by
  induction f generalizing rest with
  | trait | level | integer | percent | boolean =>
    exact hlegible _ (List.mem_singleton_self _) rest hrest
  | negate operand ih =>
    have htext : (negate operand).render.toList ++ rest =
        '(' :: '-' :: (operand.render.toList ++ ')' :: rest) := by
      simp [render]
    have ho := ih (fun token htoken ↦ hlegible token (by simp [spelling, htoken]))
      (Token.breaks_rightParen rest)
    rw [htext, Token.readAll_leftParen, Token.readAll_minus, ho, Token.readAll_rightParen]
    cases Token.readAll rest <;> simp [Except.map, spelling]
  | binary op left right ihl ihr =>
    have htext : (binary op left right).render.toList ++ rest =
        '(' :: (left.render.toList ++
          ' ' :: (op.symbol.text.toList ++ ' ' :: (right.render.toList ++ ')' :: rest))) := by
      simp [render, Operator.text]
    have hop : op.symbol ≠ .leftParen := by cases op <;> decide
    have hl := ihl (fun token htoken ↦ hlegible token (by simp [spelling, htoken]))
      (Token.breaks_symbol hop (right.render.toList ++ ')' :: rest))
    have hr := ihr (fun token htoken ↦ hlegible token (by simp [spelling, htoken]))
      (Token.breaks_rightParen rest)
    rw [htext, Token.readAll_leftParen, hl, Token.readAll_spaced, hr, Token.readAll_rightParen]
    cases Token.readAll rest <;> simp [Except.map, spelling]
  | conditional condition whenTrue whenFalse ihc iht ihf =>
    have htext : (conditional condition whenTrue whenFalse).render.toList ++ rest =
        '(' :: (Symbol.if.text.toList ++ ' ' :: (condition.render.toList ++
          ' ' :: (Symbol.then.text.toList ++ ' ' :: (whenTrue.render.toList ++
            ' ' :: (Symbol.else.text.toList ++ ' ' :: (whenFalse.render.toList ++
              ')' :: rest)))))) := by
      simp [render, Symbol.text]
    -- what follows each part
    set afterFalse := ')' :: rest
    set afterTrue := ' ' :: (Symbol.else.text.toList ++
      ' ' :: (whenFalse.render.toList ++ afterFalse))
    set afterCondition := ' ' :: (Symbol.then.text.toList ++
      ' ' :: (whenTrue.render.toList ++ afterTrue))
    have hc := ihc (fun token htoken ↦ hlegible token (by simp [spelling, htoken]))
      (show Token.Breaks afterCondition from Token.breaks_symbol (by decide) _)
    have ht := iht (fun token htoken ↦ hlegible token (by simp [spelling, htoken]))
      (show Token.Breaks afterTrue from Token.breaks_symbol (by decide) _)
    have hf := ihf (fun token htoken ↦ hlegible token (by simp [spelling, htoken]))
      (show Token.Breaks afterFalse from Token.breaks_rightParen rest)
    rw [htext, Token.readAll_leftParen, Token.readAll_symbol .if (Token.head_blank _),
      Token.readAll_blank, hc, Token.readAll_spaced, ht, Token.readAll_spaced, hf,
      Token.readAll_rightParen]
    cases Token.readAll rest <;> simp [Except.map, spelling]

/-! ### The tokens spell the formula -/

/-- **The tokens of the text of a formula derive it**, where there is room for its groups. -/
theorem derives_spelling {room : Nat} (hlevel : "level" ∉ f.mentions) (hroom : f.nesting ≤ room) :
    Derives room .atom f.spelling f := by
  -- an atom is a phrase of every kind
  have hatom {room n : Nat} {tokens : List Token} {f : Formula}
      (h : Derives room .atom tokens f) : Derives room (phraseOf n) tokens f :=
    Derives.mono (m := 0) h (Nat.zero_le n)
  induction f generalizing room with
  | trait name =>
    have hname : name ≠ "level" := by simpa [mentions, eq_comm] using hlevel
    have hderives : Derives room .atom [.identifier name] _ := .identifier name
    rwa [if_neg hname] at hderives
  | level => exact .identifier "level"
  | integer value => exact .integer value
  | percent hundredths => exact .percent hundredths
  | boolean value => exact .boolean value
  | negate operand ih =>
    obtain ⟨room, rfl⟩ : ∃ r, room = r + 1 := ⟨room - 1, by rw [nesting] at hroom; omega⟩
    have ho : Derives room .atom operand.spelling operand :=
      ih hlevel (by rw [nesting] at hroom; omega)
    have hbody := Derives.negate (hatom (n := 3) ho)
    exact .group (hbody.mono (m := 3) (n := 14) (by decide))
  | binary op left right ihl ihr =>
    simp only [nesting] at hroom
    simp only [mentions, List.mem_append, not_or] at hlevel
    obtain ⟨room, rfl⟩ : ∃ r, room = r + 1 := ⟨room - 1, by omega⟩
    have hleft : Derives room .atom left.spelling left := ihl hlevel.1 (by omega)
    have hright : Derives room .atom right.spelling right := ihr hlevel.2 (by omega)
    have hl := hatom (n := 2 * op.tier + 2) hleft
    have hr := hatom (n := 2 * op.tier + 1) hright
    rw [phraseOf_whole] at hl
    rw [phraseOf_part] at hr
    have hbody := Derives.chain op hl hr
    rw [← phraseOf_whole] at hbody
    have hgroup := Derives.group (hbody.mono (n := 14) (by cases op <;> decide))
    simpa [spelling] using hgroup
  | conditional condition whenTrue whenFalse ihc iht ihf =>
    simp only [nesting] at hroom
    simp only [mentions, List.mem_append, not_or] at hlevel
    obtain ⟨room, rfl⟩ : ∃ r, room = r + 2 := ⟨room - 2, by omega⟩
    have hc : Derives room .atom condition.spelling condition := ihc hlevel.1 (by omega)
    have ht : Derives room .atom whenTrue.spelling whenTrue := iht hlevel.2.1 (by omega)
    have hf : Derives (room + 1) .atom whenFalse.spelling whenFalse := ihf hlevel.2.2 (by omega)
    have hbody := Derives.conditional (hatom (n := 14) hc) (hatom (n := 14) ht)
      (hatom (n := 11) hf)
    have hgroup := Derives.group (hbody.mono (m := 11) (n := 14) (by decide))
    simpa [spelling] using hgroup

/-- The tokens of the text of a formula add the formula to any layout that has the room. -/
theorem foldlM_step_spelling {pieces : List Piece} {enclosing : List (Opening × List Piece)}
    (hlevel : "level" ∉ f.mentions) (hfree : Layout.endsInOperand ⟨pieces, enclosing⟩ = false)
    (hroom : f.nesting + enclosing.length ≤ Limits.formulaNesting) :
    f.spelling.foldlM Layout.step ⟨pieces, enclosing⟩ =
      .ok ⟨.operand f :: pieces, enclosing⟩ := by
  obtain ⟨ps, hps, hlaid⟩ := (derives_spelling hlevel (Nat.le_refl _)).exists_laidOut
  obtain rfl := Spells.self_iff.1 hps
  exact hlaid pieces enclosing hroom hfree

/-- A group that holds one operand is closed. -/
theorem step_closer (opening : Opening) (outer : List Piece)
    (around : List (Opening × List Piece)) (f : Formula) :
    Layout.step ⟨[.operand f], (opening, outer) :: around⟩ (.symbol opening.closer) =
      .ok (Layout.close opening outer around f) := by
  have hfold : fold [.operand f].reverse = .ok f := fold_eq_ok_iff.2 (.operand f)
  cases opening <;> exact Layout.closeGroup_eq_ok hfold

/-! ### Too many groups inside one another -/

/-- A run that ends at a group without room. -/
def RunsOut (tokens : List Token) (layout : Layout) : Prop :=
  tokens.foldlM Layout.step layout = .error .tooDeep

theorem RunsOut.cons {tokens : List Token} {token : Token} {layout next : Layout}
    (hstep : layout.step token = .ok next) (h : RunsOut tokens next) :
    RunsOut (token :: tokens) layout := by
  rw [RunsOut, List.foldlM_cons, hstep, Except.ok_bind]
  exact h

/-- A run ends at a group without room where it does so inside the group, if there is room. -/
theorem RunsOut.opening {tokens : List Token} {token : Token} {layout : Layout}
    (opening : Opening) (hstep : layout.step token = layout.openGroup opening)
    (hinside : layout.enclosing.length < Limits.formulaNesting →
      RunsOut tokens ⟨[], (opening, layout.pieces) :: layout.enclosing⟩) :
    RunsOut (token :: tokens) layout := by
  by_cases hroom : layout.enclosing.length < Limits.formulaNesting
  · exact .cons (hstep.trans (Layout.openGroup_eq_ok opening hroom)) (hinside hroom)
  · have htooDeep : layout.openGroup opening = .error .tooDeep := if_pos (Nat.not_lt.1 hroom)
    rw [RunsOut, List.foldlM_cons, hstep, htooDeep, Except.error_bind]

/-- A run ends at a group without room where it does so behind a formula, if there is room for the
formula. -/
theorem RunsOut.part {rest : List Token} {pieces : List Piece}
    {enclosing : List (Opening × List Piece)} (hlevel : "level" ∉ f.mentions)
    (hfree : Layout.endsInOperand ⟨pieces, enclosing⟩ = false)
    (hdeep : Limits.formulaNesting < f.nesting + enclosing.length →
      RunsOut f.spelling ⟨pieces, enclosing⟩)
    (hrest : f.nesting + enclosing.length ≤ Limits.formulaNesting →
      RunsOut rest ⟨.operand f :: pieces, enclosing⟩) :
    RunsOut (f.spelling ++ rest) ⟨pieces, enclosing⟩ := by
  rw [RunsOut, List.foldlM_append]
  by_cases hroom : f.nesting + enclosing.length ≤ Limits.formulaNesting
  · rw [foldlM_step_spelling hlevel hfree hroom, Except.ok_bind]
    exact hrest hroom
  · have hout : f.spelling.foldlM Layout.step ⟨pieces, enclosing⟩ = .error .tooDeep :=
      hdeep (Nat.not_le.1 hroom)
    rw [hout, Except.error_bind]

/-- **A group without room ends the run.** The parts in front of it are laid out, and the first of
them that is too deep is refused. -/
theorem runsOut_spelling {pieces : List Piece} {enclosing : List (Opening × List Piece)}
    (hlevel : "level" ∉ f.mentions) (hfree : Layout.endsInOperand ⟨pieces, enclosing⟩ = false)
    (hlength : enclosing.length ≤ Limits.formulaNesting)
    (hdeep : Limits.formulaNesting < f.nesting + enclosing.length) :
    RunsOut f.spelling ⟨pieces, enclosing⟩ := by
  induction f generalizing pieces enclosing with
  | trait | level | integer | percent | boolean =>
    simp only [nesting] at hdeep
    omega
  | negate operand ih =>
    simp only [nesting] at hdeep
    refine .opening .parenthesis rfl fun hroom ↦ .cons (Layout.step_minus rfl) ?_
    refine .part hlevel rfl (ih hlevel rfl hroom) fun hoperand ↦ ?_
    simp only [List.length_cons] at hoperand
    omega
  | binary op left right ihl ihr =>
    simp only [nesting] at hdeep
    simp only [mentions, List.mem_append, not_or] at hlevel
    refine .opening .parenthesis rfl fun hroom ↦ ?_
    refine .part hlevel.1 rfl (ihl hlevel.1 rfl hroom) fun hleft ↦ ?_
    refine .cons (Layout.step_operator (by simp)) ?_
    refine .part hlevel.2 rfl (ihr hlevel.2 rfl hroom) fun hright ↦ ?_
    simp only [List.length_cons] at hleft hright
    omega
  | conditional condition whenTrue whenFalse ihc iht ihf =>
    simp only [nesting] at hdeep
    simp only [mentions, List.mem_append, not_or] at hlevel
    obtain ⟨hcondition, htrue, hfalse⟩ := hlevel
    refine .opening .parenthesis rfl fun hroom ↦ ?_
    -- the condition and what holds under it are one group further in
    refine .opening .condition rfl fun hinner ↦ ?_
    refine .part hcondition rfl (ihc hcondition rfl hinner) fun hc ↦ ?_
    refine .cons (step_closer .condition _ _ condition) ?_
    refine .part htrue rfl (iht htrue rfl hinner) fun ht ↦ ?_
    refine .cons (step_closer (.whenTrue condition) _ _ whenTrue) ?_
    refine .part hfalse rfl (ihf hfalse rfl hroom) fun hf ↦ ?_
    simp only [List.length_cons] at hc ht hf
    omega

/-! ### Rendering and parsing -/

/-- The tokens of the text of a formula spell the formula, unless they are too deep. -/
theorem ofTokens_spelling (hlevel : "level" ∉ f.mentions) :
    ofTokens f.spelling =
      if Limits.formulaNesting < f.nesting then .error .tooDeep else .ok f := by
  split
  case isTrue hdeep =>
    have hout : f.spelling.foldlM Layout.step Layout.empty = .error .tooDeep :=
      runsOut_spelling hlevel rfl (Nat.zero_le _) hdeep
    rw [ofTokens, hout, Except.error_bind]
  case isFalse hroom =>
    have hlaid : f.spelling.foldlM Layout.step ⟨[], []⟩ = .ok ⟨[.operand f], []⟩ :=
      foldlM_step_spelling hlevel rfl (Nat.not_lt.1 hroom)
    have hfold : fold [.operand f].reverse = .ok f := fold_eq_ok_iff.2 (.operand f)
    rw [ofTokens, Layout.empty, hlaid, Except.ok_bind]
    exact Layout.finish_eq_ok_iff.2 ⟨hfold, rfl⟩

/-- Only plus signs are left out of what the grammar derives a formula from. -/
theorem mem_of_mem_dropUnaryPlus {after : Bool} {tokens : List Token} {token : Token}
    (h : token ∈ dropUnaryPlus after tokens) : token ∈ tokens := by
  induction tokens generalizing after with
  | nil => cases h
  | cons first rest ih =>
    rw [dropUnaryPlus] at h
    split at h
    case isTrue => exact List.mem_cons_of_mem first (ih h)
    case isFalse =>
      rcases List.mem_cons.1 h with rfl | h
      · exact List.mem_cons_self
      · exact List.mem_cons_of_mem first (ih h)

/-- A formula that was parsed can be read back token by token. -/
theorem readable_of_parse {text : String} (h : parse text = .ok f) : f.Readable := by
  rw [parse] at h
  obtain ⟨ts, htokens, hf⟩ := Except.bind_eq_ok_iff.1 h
  rw [tokens] at htokens
  split at htokens
  case isTrue => cases htokens
  case isFalse =>
    have hlegible := Token.legible_of_readAll htokens
    exact readable_of_derives (ofTokens_eq_ok_iff.1 hf)
      fun token htoken ↦ hlegible token (mem_of_mem_dropUnaryPlus htoken)

/-- **Rendering and parsing** give a parsed formula back, unless its text is too long or has too
many groups inside one another. -/
theorem parse_render {text : String} (h : parse text = .ok f) :
    parse f.render =
      if Limits.formulaLength < f.render.length then .error (.tooLong f.render.length)
      else if Limits.formulaNesting < f.nesting then .error .tooDeep
      else .ok f := by
  obtain ⟨hlegible, hlevel⟩ := readable_of_parse h
  have hread : Token.readAll f.render.toList = .ok f.spelling := by
    have hrender := readAll_render hlegible Token.breaks_nil
    have hnil : Token.readAll [] = .ok [] := Token.readAll_of_blank rfl
    rw [List.append_nil, hnil] at hrender
    simpa [Except.map] using hrender
  rw [parse, tokens]
  split
  case isTrue => rfl
  case isFalse => rw [hread, Except.ok_bind, ofTokens_spelling hlevel]

end Formula

/-- **The text of a formula is parsed as the formula**, wherever it stands, or it is refused because
it is too long or has too many groups inside one another. -/
theorem Trait.parseFormula_render {location location' : Location} {text : String} {f : Formula}
    (h : parseFormula location text = .ok f) :
    (parseFormula location' f.render = .ok f ∧
      f.render.length ≤ Limits.formulaLength ∧ f.nesting ≤ Limits.formulaNesting) ∨
    (parseFormula location' f.render = .error ⟨.formula (.tooLong f.render.length), location'⟩ ∧
      Limits.formulaLength < f.render.length) ∨
    (parseFormula location' f.render = .error ⟨.formula .tooDeep, location'⟩ ∧
      Limits.formulaNesting < f.nesting) := by
  rw [parseFormula, Except.mapError_eq_ok_iff] at h
  rw [parseFormula, Formula.parse_render h]
  by_cases hlong : Limits.formulaLength < f.render.length
  · rw [if_pos hlong]
    exact .inr (.inl ⟨rfl, hlong⟩)
  · rw [if_neg hlong]
    by_cases hdeep : Limits.formulaNesting < f.nesting
    · rw [if_pos hdeep]
      exact .inr (.inr ⟨rfl, hdeep⟩)
    · rw [if_neg hdeep]
      exact .inl ⟨rfl, Nat.not_lt.1 hlong, Nat.not_lt.1 hdeep⟩

/-- A minus sign in front of a product, and a name with a qualifier in front of a sum: the text
`"(-(Basic Speed x4 * (Guns (Rifle) + 2)))"` is parsed as the formula that it is the text of. -/
theorem Trait.parseFormula_render_qualified :
    ∃ f, parseFormula ⟨"guns.gurps", 3⟩ "-Basic Speed x4 *(Guns (Rifle)+ 02)" = .ok f ∧
      parseFormula ⟨"guns.gurps", 4⟩ f.render = .ok f := by
  let f : Formula := .negate (.binary .multiply (.trait "Basic Speed x4")
    (.binary .add (.trait "Guns (Rifle)") (.integer 2)))
  have hparse : parseFormula ⟨"guns.gurps", 3⟩ "-Basic Speed x4 *(Guns (Rifle)+ 02)" = .ok f :=
    Except.eq_ok_of_toOption (by decide +kernel)
  refine ⟨f, hparse, ?_⟩
  rcases @parseFormula_render _ ⟨"guns.gurps", 4⟩ _ _ hparse with h | h | h
  · exact h.1
  · exact absurd h.2 (by decide)
  · exact absurd h.2 (by decide)

end PointBuy
