import PointBuy.Proofs.Formula.Buffer
import PointBuy.Proofs.Formula.Grammar

/-!
# Parsing follows the grammar

`Formula.ofTokens` lays tokens out in open groups and folds a group when it closes. This module
shows that it accepts exactly the grammar of `Derives`, with the same tree.

Nothing is left of a plus sign in front of an operand (`foldlM_step_dropUnaryPlus`): where the
layout drops such a sign, the nearest token before it ends no operand, and the two agree at a step
(`Layout.Steps.endsInOperand_eq`).

* Forward (`Derives.exists_laidOut`), a derivation is laid out token by token, by induction on it:
  from any layout that does not end in an operand, its tokens add the pieces of a phrase.
* Backward, `Opened` is the invariant of a run: the tokens read so far are those before each open
  group, followed by what opened it, followed by the tokens of the pieces of the innermost one
  (`opened_step`). A group that closes spells its formula, and that gives a derivation of its tokens
  (`derives_of_segments`).

## Main statements

* `ofTokens_eq_ok_iff` : parsing succeeds with exactly the formula that the tokens derive.
* `ofTokens_accepts_grammar` : the same with what happens in every other case, and with no index out
  of range on the way.
-/

namespace PointBuy.Formula

/-! ### Phrases and passes -/

/-- The number of passes that make up a phrase. -/
def Phrase.reach : Phrase → Nat
  | .atom => 0
  | .product => 2
  | .negation => 3
  | .sum => 4
  | .comparison => 6
  | .conjunction => 8
  | .disjunction => 10
  | .conditional => 11
  | .expression => 14

/-- The phrase that so many passes make up. -/
def phraseOf : (passes : Nat) → Phrase
  | 0 | 1 => .atom
  | 2 => .product
  | 3 => .negation
  | 4 | 5 => .sum
  | 6 | 7 => .comparison
  | 8 | 9 => .conjunction
  | 10 => .disjunction
  | 11 | 12 | 13 => .conditional
  | _ => .expression

theorem Phrase.reach_le_of_tighter? {phrase tighter : Phrase}
    (h : phrase.tighter? = some tighter) : tighter.reach ≤ phrase.reach := by
  cases phrase <;> cases h <;> decide

theorem Operator.reach_whole (op : Operator) : op.whole.reach = 2 * op.tier + 2 := by
  cases op <;> rfl

theorem Operator.reach_part_le (op : Operator) : op.part.reach ≤ 2 * op.tier + 1 := by
  cases op <;> decide

theorem phraseOf_whole (op : Operator) : phraseOf (2 * op.tier + 2) = op.whole := by
  cases op <;> rfl

theorem phraseOf_part (op : Operator) : phraseOf (2 * op.tier + 1) = op.part := by
  cases op <;> rfl

/-- One more pass makes up the same phrase, or one that may consist of it alone. -/
theorem phraseOf_succ (n : Nat) :
    phraseOf (n + 1) = phraseOf n ∨ (phraseOf (n + 1)).tighter? = some (phraseOf n) := by
  match n with
  | 0 | 1 | 2 | 3 | 4 | 5 | 6 | 7 | 8 | 9 | 10 | 11 | 12 | 13 => decide
  | n + 14 => exact .inl rfl

/-- A phrase of some passes is one of more. -/
theorem Derives.mono {room m n : Nat} {tokens : List Token} {f : Formula}
    (h : Derives room (phraseOf m) tokens f) (hmn : m ≤ n) :
    Derives room (phraseOf n) tokens f := by
  induction hmn with
  | refl => exact h
  | @step n _ ih =>
    rcases phraseOf_succ n with heq | htighter
    · exact heq ▸ ih
    · exact .alone htighter ih

/-! ### Steps of the layout -/

namespace Layout

@[simp]
theorem endsInOperand_operand (f : Formula) (pieces : List Piece)
    (enclosing : List (Opening × List Piece)) :
    endsInOperand ⟨.operand f :: pieces, enclosing⟩ = true :=
  rfl

@[simp]
theorem endsInOperand_nil (enclosing : List (Opening × List Piece)) :
    endsInOperand ⟨[], enclosing⟩ = false :=
  rfl

theorem step_operator {layout : Layout} {op : Operator}
    (h : layout.endsInOperand = false → op ≠ .add ∧ op ≠ .subtract) :
    layout.step (.symbol op.symbol) = .ok (layout.push (.operator op)) := by
  cases hend : layout.endsInOperand with
  | true => cases op <;> simp [step, Operator.symbol, hend] <;> rfl
  | false => cases op <;> simp [step, Operator.symbol, hend] at h ⊢ <;> rfl

theorem step_minus {layout : Layout} (h : layout.endsInOperand = false) :
    layout.step (.symbol .minus) = .ok (layout.push .negate) := by
  simp [step, h]

theorem step_plus {layout : Layout} (h : layout.endsInOperand = false) :
    layout.step (.symbol .plus) = .ok layout := by
  simp [step, h]

theorem openGroup_eq_ok {layout : Layout} (opening : Opening)
    (h : layout.enclosing.length < Limits.formulaNesting) :
    layout.openGroup opening = .ok ⟨[], (opening, layout.pieces) :: layout.enclosing⟩ := by
  rw [openGroup, if_neg (show ¬ Limits.formulaNesting ≤ layout.enclosing.length by omega)]

/-- What a closed group becomes in the layout around it. -/
def close (opening : Opening) (outer : List Piece) (around : List (Opening × List Piece))
    (f : Formula) : Layout :=
  match opening with
  | .parenthesis => ⟨.operand f :: outer, around⟩
  | .condition => ⟨[], (.whenTrue f, outer) :: around⟩
  | .whenTrue condition => ⟨.conditional condition f :: outer, around⟩

theorem closeGroup_eq_ok {opening : Opening} {pieces outer : List Piece}
    {around : List (Opening × List Piece)} {f : Formula} (h : fold pieces.reverse = .ok f) :
    closeGroup ⟨pieces, (opening, outer) :: around⟩ opening.closer =
      .ok (close opening outer around f) := by
  rw [closeGroup, current, h]
  cases opening <;> simp [close, Except.mapError]

/-- **What a step can do.** -/
inductive Steps (layout : Layout) : Token → Layout → Prop
  | atom {token : Token} {f : Formula} (ends : token.endsOperand = true)
      (derives : ∀ room, Derives room .atom [token] f) :
      Steps layout token (layout.push (.operand f))
  | plus (free : layout.endsInOperand = false) : Steps layout (.symbol .plus) layout
  | minus (free : layout.endsInOperand = false) :
      Steps layout (.symbol .minus) (layout.push .negate)
  | operator (op : Operator) (plus : layout.endsInOperand = false → op ≠ .add) :
      Steps layout (.symbol op.symbol) (layout.push (.operator op))
  | parenthesis (room : layout.enclosing.length < Limits.formulaNesting) :
      Steps layout (.symbol .leftParen) ⟨[], (.parenthesis, layout.pieces) :: layout.enclosing⟩
  | condition (room : layout.enclosing.length < Limits.formulaNesting) :
      Steps layout (.symbol .if) ⟨[], (.condition, layout.pieces) :: layout.enclosing⟩
  | closed {opening : Opening} {outer : List Piece} {around : List (Opening × List Piece)}
      {f : Formula} (group : layout.enclosing = (opening, outer) :: around)
      (formula : fold layout.pieces.reverse = .ok f) :
      Steps layout (.symbol opening.closer) (close opening outer around f)

theorem steps_of_openGroup {layout layout' : Layout} {opening : Opening}
    (h : layout.openGroup opening = .ok layout') :
    layout.enclosing.length < Limits.formulaNesting ∧
      layout' = ⟨[], (opening, layout.pieces) :: layout.enclosing⟩ := by
  rw [openGroup] at h
  split at h
  · simp at h
  · simp only [Except.ok.injEq] at h
    exact ⟨by omega, h.symm⟩

theorem steps_of_closeGroup {layout layout' : Layout} {sign : Symbol}
    (h : layout.closeGroup sign = .ok layout') : layout.Steps (.symbol sign) layout' := by
  obtain ⟨pieces, enclosing⟩ := layout
  rw [closeGroup] at h
  obtain ⟨f, hf, h⟩ := Except.bind_eq_ok_iff.1 h
  rw [current, Except.mapError_eq_ok_iff] at hf
  match enclosing with
  | [] => simp at h
  | (opening, outer) :: around =>
    simp only at h
    split at h
    · next hsign =>
      have hclose : layout' = close opening outer around f := by
        cases opening <;> simpa [close, eq_comm] using h
      rw [hsign, hclose]
      exact .closed rfl hf
    · simp at h

theorem steps_of_operator {layout layout' : Layout} (op : Operator)
    (free : layout.endsInOperand = false → op ≠ .add ∧ op ≠ .subtract)
    (h : layout.step (.symbol op.symbol) = .ok layout') :
    layout.Steps (.symbol op.symbol) layout' := by
  rw [step_operator free, Except.ok.injEq] at h
  exact h ▸ .operator op fun hend ↦ (free hend).1

theorem steps_of_step {layout layout' : Layout} {token : Token}
    (h : layout.step token = .ok layout') : layout.Steps token layout' := by
  cases token with
  | identifier name =>
    cases h
    exact .atom rfl fun room ↦ .identifier name
  | integer value =>
    cases h
    exact .atom rfl fun room ↦ .integer value
  | percent hundredths =>
    cases h
    exact .atom rfl fun room ↦ .percent hundredths
  | boolean value =>
    cases h
    exact .atom rfl fun room ↦ .boolean value
  | symbol sign =>
    cases sign with
    | rightParen | «then» | «else» => exact steps_of_closeGroup h
    | leftParen =>
      obtain ⟨hroom, rfl⟩ := steps_of_openGroup h
      exact .parenthesis hroom
    | «if» =>
      obtain ⟨hroom, rfl⟩ := steps_of_openGroup h
      exact .condition hroom
    | plus =>
      cases hend : layout.endsInOperand with
      | false =>
        rw [step_plus hend, Except.ok.injEq] at h
        exact h ▸ .plus hend
      | true => exact steps_of_operator .add (by simp [hend]) h
    | minus =>
      cases hend : layout.endsInOperand with
      | false =>
        rw [step_minus hend, Except.ok.injEq] at h
        exact h ▸ .minus hend
      | true => exact steps_of_operator .subtract (by simp [hend]) h
    | star => exact steps_of_operator .multiply (by simp) h
    | slash => exact steps_of_operator .divide (by simp) h
    | comma => exact steps_of_operator .comma (by simp) h
    | lessEqual => exact steps_of_operator .lessEqual (by simp) h
    | less => exact steps_of_operator .less (by simp) h
    | greaterEqual => exact steps_of_operator .greaterEqual (by simp) h
    | greater => exact steps_of_operator .greater (by simp) h
    | and => exact steps_of_operator .and (by simp) h
    | or => exact steps_of_operator .or (by simp) h

end Layout

/-! ### Plus signs in front of operands -/

/-- Except for a plus sign that is dropped, the layout ends in an operand when the token does. -/
theorem Layout.Steps.endsInOperand_eq {layout layout' : Layout} {token : Token}
    (h : layout.Steps token layout')
    (kept : ¬(layout.endsInOperand = false ∧ token = .symbol .plus)) :
    layout'.endsInOperand = token.endsOperand := by
  cases h with
  | atom ends => exact ends.symm
  | plus free => exact absurd ⟨free, rfl⟩ kept
  | minus | parenthesis | condition => rfl
  | operator op => cases op <;> rfl
  | @closed opening => cases opening <;> rfl

/-- **Nothing is left of a plus sign in front of an operand.** -/
theorem foldlM_step_dropUnaryPlus (layout : Layout) (tokens : List Token) :
    (dropUnaryPlus layout.endsInOperand tokens).foldlM Layout.step layout =
      tokens.foldlM Layout.step layout := by
  induction tokens generalizing layout with
  | nil => rfl
  | cons token rest ih =>
    rw [dropUnaryPlus]
    by_cases hplus : layout.endsInOperand = false ∧ token = .symbol .plus
    · rw [if_pos hplus, ih, List.foldlM_cons, hplus.2, Layout.step_plus hplus.1, Except.ok_bind]
    · rw [if_neg hplus, List.foldlM_cons, List.foldlM_cons]
      cases hstep : layout.step token with
      | error e => rfl
      | ok layout' =>
        rw [Except.ok_bind, Except.ok_bind, ← ih layout',
          (Layout.steps_of_step hstep).endsInOperand_eq hplus]

theorem ofTokens_withoutUnaryPlus (tokens : List Token) :
    ofTokens (withoutUnaryPlus tokens) = ofTokens tokens :=
  congrArg (· >>= Layout.finish) (foldlM_step_dropUnaryPlus .empty tokens)

/-! ### Forward: derivations are laid out -/

/-- The tokens add these pieces to every layout that has the room and does not end in an operand. -/
def LaidOut (room : Nat) (tokens : List Token) (ps : List Piece) : Prop :=
  ∀ (pieces : List Piece) (enclosing : List (Opening × List Piece)),
    room + enclosing.length ≤ Limits.formulaNesting →
    Layout.endsInOperand ⟨pieces, enclosing⟩ = false →
    tokens.foldlM Layout.step ⟨pieces, enclosing⟩ = .ok ⟨ps.reverse ++ pieces, enclosing⟩

/-- A group is laid out and closed. -/
theorem LaidOut.closed {room : Nat} {tokens : List Token} {ps : List Piece} {f : Formula}
    (h : LaidOut room tokens ps) (hps : Spells 0 14 ps f) (opening : Opening) (outer : List Piece)
    {around : List (Opening × List Piece)}
    (hroom : room + 1 + around.length ≤ Limits.formulaNesting) (rest : List Token) :
    (tokens ++ .symbol opening.closer :: rest).foldlM Layout.step ⟨[], (opening, outer) :: around⟩ =
      rest.foldlM Layout.step (Layout.close opening outer around f) := by
  have hinside : room + ((opening, outer) :: around).length ≤ Limits.formulaNesting := by
    rw [List.length_cons]
    omega
  have hinner := h [] ((opening, outer) :: around) hinside rfl
  have hclose :
      Layout.step ⟨ps.reverse ++ [], (opening, outer) :: around⟩ (.symbol opening.closer) =
      .ok (Layout.close opening outer around f) := by
    have hfold : fold (ps.reverse ++ []).reverse = .ok f := by simpa using fold_eq_ok_iff.2 hps
    cases opening <;> exact Layout.closeGroup_eq_ok hfold
  rw [List.foldlM_append, hinner, Except.ok_bind, List.foldlM_cons, hclose, Except.ok_bind]

theorem step_eq_openGroup {pieces : List Piece} {enclosing : List (Opening × List Piece)}
    {room : Nat} (hroom : room + 1 + enclosing.length ≤ Limits.formulaNesting) :
    Layout.step ⟨pieces, enclosing⟩ (.symbol .leftParen) =
        .ok ⟨[], (.parenthesis, pieces) :: enclosing⟩ ∧
      Layout.step ⟨pieces, enclosing⟩ (.symbol .if) =
        .ok ⟨[], (.condition, pieces) :: enclosing⟩ :=
  ⟨Layout.openGroup_eq_ok .parenthesis (by simp only; omega),
    Layout.openGroup_eq_ok .condition (by simp only; omega)⟩

/-- **A derivation is laid out as the pieces of its phrase.** -/
theorem Derives.exists_laidOut {room : Nat} {phrase : Phrase} {tokens : List Token} {f : Formula}
    (h : Derives room phrase tokens f) :
    ∃ ps, Spells 0 phrase.reach ps f ∧ LaidOut room tokens ps := by
  induction h with
  | identifier | integer | percent | boolean =>
    exact ⟨_, .operand _, fun pieces enclosing _ _ ↦ rfl⟩
  | @group room inner f _ ih =>
    obtain ⟨ps, hps, hlaid⟩ := ih
    refine ⟨[.operand f], .operand f, fun pieces enclosing hroom _ ↦ ?_⟩
    rw [List.cons_append, List.foldlM_cons, (step_eq_openGroup hroom).1, Except.ok_bind]
    exact hlaid.closed hps .parenthesis pieces hroom []
  | @negate room tokens f _ ih =>
    obtain ⟨ps, hps, hlaid⟩ := ih
    refine ⟨.negate :: ps, .front rfl (by omega) (by decide) hps,
      fun pieces enclosing hroom hfree ↦ ?_⟩
    rw [List.foldlM_cons, Layout.step_minus hfree, Except.ok_bind, Layout.push,
      hlaid _ _ hroom rfl]
    simp
  | @conditional room cs ts es c t e _ _ _ ihc iht ihe =>
    obtain ⟨pc, hpc, hc⟩ := ihc
    obtain ⟨pt, hpt, ht⟩ := iht
    obtain ⟨pe, hpe, he⟩ := ihe
    refine ⟨.conditional c t :: pe, .front rfl (by omega) (by decide) hpe,
      fun pieces enclosing hroom _ ↦ ?_⟩
    have hcondition := hc.closed hpc .condition pieces hroom (ts ++ .symbol .else :: es)
    have hwhenTrue := ht.closed hpt (.whenTrue c) pieces hroom es
    simp only [Layout.close, Opening.closer] at hcondition hwhenTrue
    rw [List.cons_append, List.cons_append, List.foldlM_cons, (step_eq_openGroup hroom).2,
      Except.ok_bind, List.append_assoc, List.cons_append, hcondition, hwhenTrue,
      he _ _ hroom rfl]
    simp
  | @chain room op ls rs l r _ _ ihl ihr =>
    obtain ⟨pl, hpl, hl⟩ := ihl
    obtain ⟨pr, hpr, hr⟩ := ihr
    rw [op.reach_whole] at hpl ⊢
    refine ⟨pl ++ .operator op :: pr,
      .between (by omega) (Nat.le_refl _) hpl (hpr.mono op.reach_part_le),
      fun pieces enclosing hroom hfree ↦ ?_⟩
    -- the left side ends in an operand, so that the sign behind it is an operator
    obtain ⟨before, g, rfl⟩ := hpl.exists_last
    rw [List.foldlM_append, hl _ _ hroom hfree, Except.ok_bind, List.foldlM_cons,
      Layout.step_operator (by simp), Except.ok_bind, Layout.push, hr _ _ hroom rfl]
    simp
  | alone below _ ih =>
    obtain ⟨ps, hps, hlaid⟩ := ih
    exact ⟨ps, hps.mono (Phrase.reach_le_of_tighter? below), hlaid⟩

/-! ### Backward: a run gives derivations -/

/-- The tokens of one piece. -/
inductive Reads : (room : Nat) → List Token → Piece → Prop
  | operand {room : Nat} {tokens : List Token} {f : Formula} (atom : Derives room .atom tokens f) :
      Reads room tokens (.operand f)
  | negate {room : Nat} : Reads room [.symbol .minus] .negate
  | operator {room : Nat} (op : Operator) : Reads room [.symbol op.symbol] (.operator op)
  | conditional {room : Nat} {cs ts : List Token} {c t : Formula}
      (condition : Derives room .expression cs c) (whenTrue : Derives room .expression ts t) :
      Reads (room + 1) (.symbol .if :: cs ++ .symbol .then :: ts ++ [.symbol .else])
        (.conditional c t)

/-- A phrase of pieces derives from the tokens of the pieces. -/
theorem derives_of_segments {room n : Nat} {tokens : List Token} {ps : List Piece} {f : Formula}
    (h : Spells 0 n ps f) (segments : Segments (Reads room) tokens ps) :
    Derives room (phraseOf n) tokens f := by
  induction h generalizing tokens with
  | operand f =>
    cases segments.of_singleton with
    | operand atom => exact Derives.mono (m := 0) atom (Nat.zero_le _)
  | @front reach tier piece wrap ps f own lo hi rest ih =>
    obtain ⟨segment, tail, rfl, hpiece, htail⟩ := segments.of_cons
    refine Derives.mono ?_ hi
    cases hpiece with
    | operand | operator => simp [Piece.front?] at own
    | negate =>
      cases own
      exact .negate (ih htail)
    | conditional condition whenTrue =>
      cases own
      have hrest := Derives.conditional condition whenTrue (ih htail)
      simpa [phraseOf] using hrest
  | @between reach op ls rs l r lo hi left right ihl ihr =>
    obtain ⟨us, vs, rfl, hus, hvs⟩ := segments.split
    obtain ⟨segment, tail, rfl, hop, htail⟩ := hvs.of_cons
    have hl := ihl hus
    have hr := ihr htail
    rw [phraseOf_whole] at hl
    rw [phraseOf_part] at hr
    cases hop
    exact Derives.mono (phraseOf_whole op ▸ .chain op hl hr) hi

/-- The tokens that opened a group with that room inside. -/
inductive Begins : (room : Nat) → List Token → Opening → Prop
  | parenthesis {room : Nat} : Begins room [.symbol .leftParen] .parenthesis
  | condition {room : Nat} : Begins room [.symbol .if] .condition
  | whenTrue {room : Nat} {cs : List Token} {c : Formula}
      (condition : Derives room .expression cs c) :
      Begins room (.symbol .if :: cs ++ [.symbol .then]) (.whenTrue c)

/-- **The invariant of a run.** The tokens read so far are those before each open group, followed by
what opened it, followed by the tokens of the pieces of the innermost group. -/
inductive Opened : List Token → Layout → Prop
  | outermost {tokens : List Token} {ps : List Piece}
      (pieces : Segments (Reads Limits.formulaNesting) tokens ps) : Opened tokens ⟨ps.reverse, []⟩
  | inside {room : Nat} {before opener tokens : List Token} {outer ps : List Piece}
      {opening : Opening} {around : List (Opening × List Piece)}
      (outside : Opened before ⟨outer, around⟩)
      (depth : room + 1 + around.length = Limits.formulaNesting)
      (begins : Begins room opener opening)
      (pieces : Segments (Reads room) tokens ps) :
      Opened (before ++ opener ++ tokens) ⟨ps.reverse, (opening, outer) :: around⟩

namespace Opened

theorem exists_room {tokens : List Token} {layout : Layout} (h : Opened tokens layout) :
    ∃ room, room + layout.enclosing.length = Limits.formulaNesting := by
  cases h with
  | outermost => exact ⟨_, rfl⟩
  | @inside room _ _ _ _ _ _ _ _ depth => exact ⟨room, by rw [List.length_cons]; omega⟩

theorem segments {tokens : List Token} {layout : Layout} (h : Opened tokens layout)
    (houtermost : layout.enclosing = []) :
    Segments (Reads Limits.formulaNesting) tokens layout.pieces.reverse := by
  cases h with
  | outermost pieces => simpa using pieces
  | inside => simp at houtermost

/-- One more piece is read. -/
theorem push {room : Nat} {tokens segment : List Token} {layout : Layout} {piece : Piece}
    (h : Opened tokens layout) (depth : room + layout.enclosing.length = Limits.formulaNesting)
    (hpiece : Reads room segment piece) : Opened (tokens ++ segment) (layout.push piece) := by
  cases h with
  | @outermost tokens ps pieces =>
    obtain rfl : room = Limits.formulaNesting := depth
    rw [Layout.push, ← List.reverse_concat]
    exact .outermost (pieces.append (.single hpiece))
  | @inside room' before opener tokens outer ps opening around outside depth' begins pieces =>
    obtain rfl : room = room' := by
      simp only [List.length_cons] at depth
      omega
    rw [Layout.push, ← List.reverse_concat, List.append_assoc]
    exact .inside outside depth' begins (pieces.append (.single hpiece))

/-- A group that closes derives its formula, and is read as one more piece, or as what opens the
next group. -/
theorem close {tokens : List Token} {pieces outer : List Piece} {opening : Opening}
    {around : List (Opening × List Piece)} {f : Formula}
    (h : Opened tokens ⟨pieces, (opening, outer) :: around⟩) (hf : fold pieces.reverse = .ok f) :
    Opened (tokens ++ [.symbol opening.closer]) (Layout.close opening outer around f) := by
  cases h with
  | @inside room before opener tokens _ ps _ _ outside depth begins pieces =>
    rw [List.reverse_reverse] at hf
    have hbody : Derives room .expression tokens f :=
      derives_of_segments (fold_eq_ok_iff.1 hf) pieces
    -- what has been read so far with this group depends on what opened it
    cases begins with
    | parenthesis =>
      have hatom := outside.push depth (.operand (.group hbody))
      simpa [Opening.closer, Layout.close, Layout.push] using hatom
    | condition =>
      have hnext := Opened.inside outside depth (.whenTrue hbody) .nil
      simpa [Opening.closer, Layout.close, Layout.push] using hnext
    | whenTrue condition =>
      have hpiece := outside.push depth (.conditional condition hbody)
      simpa [Opening.closer, Layout.close, Layout.push] using hpiece

end Opened

/-- One step keeps the invariant, where a plus sign that is dropped is not read. -/
theorem opened_step {tokens : List Token} {token : Token} {layout layout' : Layout}
    (h : Opened tokens layout) (hstep : layout.Steps token layout')
    (kept : ¬(layout.endsInOperand = false ∧ token = .symbol .plus)) :
    Opened (tokens ++ [token]) layout' := by
  obtain ⟨room, hroom⟩ := h.exists_room
  cases hstep with
  | atom _ derives => exact h.push hroom (.operand (derives room))
  | plus free => exact absurd ⟨free, rfl⟩ kept
  | minus => exact h.push hroom .negate
  | operator op => exact h.push hroom (.operator op)
  | parenthesis hlt =>
    obtain ⟨room, rfl⟩ : ∃ r, room = r + 1 := ⟨room - 1, by omega⟩
    simpa using Opened.inside h hroom .parenthesis .nil
  | condition hlt =>
    obtain ⟨room, rfl⟩ : ∃ r, room = r + 1 := ⟨room - 1, by omega⟩
    simpa using Opened.inside h hroom .condition .nil
  | closed group formula =>
    obtain ⟨pieces, enclosing⟩ := layout
    obtain rfl := group
    exact h.close formula

/-- A run keeps the invariant. -/
theorem opened_run {tokens before : List Token} {layout layout' : Layout}
    (h : Opened before layout) (hrun : tokens.foldlM Layout.step layout = .ok layout') :
    Opened (before ++ dropUnaryPlus layout.endsInOperand tokens) layout' := by
  induction tokens generalizing before layout with
  | nil =>
    rw [List.foldlM_nil, Except.pure_eq_ok, Except.ok.injEq] at hrun
    simpa [dropUnaryPlus, ← hrun] using h
  | cons token rest ih =>
    rw [List.foldlM_cons] at hrun
    obtain ⟨next, hstep, hrun⟩ := Except.bind_eq_ok_iff.1 hrun
    rw [dropUnaryPlus]
    by_cases hplus : layout.endsInOperand = false ∧ token = .symbol .plus
    · -- a plus sign that is dropped leaves both the layout and what has been read as they are
      rw [hplus.2, Layout.step_plus hplus.1, Except.ok.injEq] at hstep
      rw [if_pos hplus]
      exact ih (hstep ▸ h) (hstep ▸ hrun)
    · have hsteps := Layout.steps_of_step hstep
      rw [if_neg hplus, ← hsteps.endsInOperand_eq hplus]
      simpa using ih (opened_step h hsteps hplus) hrun

/-! ### The parser and its grammar -/

theorem Layout.finish_eq_ok_iff {layout : Layout} {f : Formula} :
    layout.finish = .ok f ↔ fold layout.pieces.reverse = .ok f ∧ layout.enclosing = [] := by
  rw [Layout.finish, Except.bind_eq_ok_iff]
  simp only [Layout.current, Except.mapError_eq_ok_iff]
  constructor
  · rintro ⟨g, hg, h⟩
    cases henclosing : layout.enclosing with
    | nil =>
      simp only [henclosing, List.isEmpty_nil, if_true, Except.ok.injEq] at h
      exact ⟨h ▸ hg, rfl⟩
    | cons => simp [henclosing] at h
  · rintro ⟨hf, henclosing⟩
    exact ⟨f, hf, by simp [henclosing]⟩

/-- **Parsing succeeds with exactly the formula that the tokens derive.** -/
theorem ofTokens_eq_ok_iff {tokens : List Token} {f : Formula} :
    ofTokens tokens = .ok f ↔
      Derives Limits.formulaNesting .expression (withoutUnaryPlus tokens) f := by
  constructor
  · intro h
    obtain ⟨layout, hrun, hfinish⟩ := Except.bind_eq_ok_iff.1 h
    obtain ⟨hfold, houtermost⟩ := Layout.finish_eq_ok_iff.1 hfinish
    have hopened : Opened (withoutUnaryPlus tokens) layout :=
      opened_run (.outermost .nil) hrun
    exact derives_of_segments (fold_eq_ok_iff.1 hfold) (hopened.segments houtermost)
  · intro h
    obtain ⟨ps, hps, hlaid⟩ := h.exists_laidOut
    rw [← ofTokens_withoutUnaryPlus]
    refine Except.bind_eq_ok_iff.2 ⟨_, hlaid [] [] (Nat.le_refl _) rfl, ?_⟩
    refine Layout.finish_eq_ok_iff.2 ⟨?_, rfl⟩
    simpa using fold_eq_ok_iff.2 hps

/-- **The parser accepts exactly the grammar.** It gives a formula just where the tokens without
their plus signs in front of operands derive it, and an error in every other case; and the folding
of any group in a buffer is the folding that the parser asks for, with no index out of range. -/
theorem ofTokens_accepts_grammar (tokens : List Token) :
    (∀ f, ofTokens tokens = .ok f ↔
      Derives Limits.formulaNesting .expression (withoutUnaryPlus tokens) f) ∧
    ((∃ e, ofTokens tokens = .error e) ↔
      ¬ ∃ f, Derives Limits.formulaNesting .expression (withoutUnaryPlus tokens) f) ∧
    (∀ pieces, Buffer.fold pieces = (fold pieces).mapError some ∧
      Buffer.fold pieces ≠ .error none) := by
  refine ⟨fun f ↦ ofTokens_eq_ok_iff, ?_, fun pieces ↦ ⟨Buffer.fold_eq pieces, ?_⟩⟩
  · rw [Except.exists_error_iff]
    simp only [ofTokens_eq_ok_iff]
  · rw [Buffer.fold_eq]
    cases fold pieces <;> simp [Except.mapError]

end PointBuy.Formula
