import PointBuy.Formula.Lexer

/-!
# From tokens to formulas

Tokens are first laid out as pieces: finished operands, and operators that still wait for theirs.
Parentheses and the parts of a conditional are groups; the pieces of a group become one formula
when the group closes. They are folded tier by tier, tightest first: in each tier the operators in
front of an operand from right to left, then those between operands from left to right. So
`-1-2` is `(-1)-2`, and `-2*3` is `-(2*3)`.

## Main definitions

* `Formula.fold` : the formula of the pieces of one group.
* `Formula.Layout.step` : what one token does to the open groups.
* `Formula.ofTokens` : the formula of a whole list of tokens.
* `Formula.parse` : the formula of a text.
-/

namespace PointBuy.Formula

/-! ### Folding the pieces of one group -/

/-- Whether a piece is a finished operand. -/
def Piece.isOperand : Piece → Bool
  | operand _ => true
  | negate | operator _ | conditional _ _ => false

/-- What a piece that stands in front of its operand makes of it, and the tier in which it does. -/
def Piece.front? : Piece → Option (Nat × (Formula → Formula))
  | negate => some (1, Formula.negate)
  | conditional condition whenTrue => some (5, Formula.conditional condition whenTrue)
  | operand _ | operator _ => none

/-- Folds the pieces of one tier that stand in front of their operand, from right to left. -/
def foldFronts (tier : Nat) : List Piece → Except GrammarFault (List Piece)
  | [] => .ok []
  | piece :: rest => do
    let rest ← foldFronts tier rest
    match piece.front? with
    | some (own, wrap) =>
      if own = tier then
        match rest with
        | [] => .error (.expectedAfter piece)
        | .operand f :: after => .ok (.operand (wrap f) :: after)
        | next :: _ => .error (.expectedBetween piece next)
      else .ok (piece :: rest)
    | none => .ok (piece :: rest)

/-- Folds the operators of one tier that stand between operands, from left to right. The first
list holds the pieces already passed, nearest first. -/
def foldBetween (tier : Nat) : List Piece → List Piece → Except GrammarFault (List Piece)
  | passed, [] => .ok passed.reverse
  | passed, .operator op :: rest =>
    if op.tier = tier then
      match passed with
      | [] => .error (.cannotStart (.operator op))
      | .operand left :: before =>
        match rest with
        | [] => .error (.expectedAfter (.operator op))
        | .operand right :: after =>
          foldBetween tier (.operand (.binary op left right) :: before) after
        | next :: _ => .error (.expectedBetween (.operator op) next)
      | previous :: _ => .error (.expectedBetween previous (.operator op))
    else foldBetween tier (.operator op :: passed) rest
  | passed, piece :: rest => foldBetween tier (piece :: passed) rest

/-- Folds one tier. -/
def foldTier (tier : Nat) (pieces : List Piece) : Except GrammarFault (List Piece) := do
  foldBetween tier [] (← foldFronts tier pieces)

/-- The formula that the pieces of a group make up. -/
def fold (pieces : List Piece) : Except GrammarFault Formula := do
  match ← (List.range 7).foldlM (fun pieces tier => foldTier tier pieces) pieces with
  | [] => .error .emptyExpression
  | [.operand f] => .ok f
  | [piece] => .error (.expectedAfter piece)
  | first :: _ => .error (.expectedEndAfter first)

/-! ### Laying tokens out in groups -/

/-- What opened a group, and so what has to close it. -/
inductive Opening where
  /-- A parenthesis. -/
  | parenthesis
  /-- `IF`: the group is a condition. -/
  | condition
  /-- `THEN`, after the condition: the group is what holds if the condition does. -/
  | whenTrue (condition : Formula)

/-- The symbol that closes a group. -/
def Opening.closer : Opening → Symbol
  | parenthesis => .rightParen
  | condition => .then
  | whenTrue _ => .else

/-- The pieces of the innermost open group, last one first, and the groups around it: what opened
each, and the pieces before it. -/
structure Layout where
  pieces : List Piece
  enclosing : List (Opening × List Piece)

namespace Layout

/-- Nothing read yet. -/
def empty : Layout := ⟨[], []⟩

/-- Adds a piece to the innermost group. -/
def push (layout : Layout) (piece : Piece) : Layout :=
  { layout with pieces := piece :: layout.pieces }

/-- Opens a group inside the innermost one. -/
def openGroup (layout : Layout) (opening : Opening) : Except FormulaError Layout :=
  if Limits.formulaNesting ≤ layout.enclosing.length then .error .tooDeep
  else .ok ⟨[], (opening, layout.pieces) :: layout.enclosing⟩

/-- The formula of the innermost group. -/
def current (layout : Layout) : Except FormulaError Formula :=
  (fold layout.pieces.reverse).mapError .malformed

/-- Closes the innermost group at a closing symbol. -/
def closeGroup (layout : Layout) (sign : Symbol) : Except FormulaError Layout := do
  let formula ← layout.current
  match layout.enclosing with
  | [] => .error (.malformed (.expectedEnd (.symbol sign)))
  | (opening, outer) :: around =>
    if sign = opening.closer then
      match opening with
      | .parenthesis => .ok ⟨.operand formula :: outer, around⟩
      | .condition => .ok ⟨[], (.whenTrue formula, outer) :: around⟩
      | .whenTrue condition => .ok ⟨.conditional condition formula :: outer, around⟩
    else .error (.malformed (.expectedSymbol opening.closer (.symbol sign)))

/-- Whether the innermost group ends in a finished operand. -/
def endsInOperand (layout : Layout) : Bool := layout.pieces.head?.any Piece.isOperand

/-- What one token does. A plus sign with no operand before it changes nothing. -/
def step (layout : Layout) : Token → Except FormulaError Layout
  | .identifier name =>
    .ok (layout.push (.operand (if name = "level" then .level else .trait name)))
  | .integer value => .ok (layout.push (.operand (.integer value)))
  | .percent hundredths => .ok (layout.push (.operand (.percent hundredths)))
  | .boolean value => .ok (layout.push (.operand (.boolean value)))
  | .symbol sign =>
    match sign with
    | .rightParen | .then | .else => layout.closeGroup sign
    | .leftParen => layout.openGroup .parenthesis
    | .if => layout.openGroup .condition
    | _ =>
      if !layout.endsInOperand && sign == .plus then .ok layout
      else if !layout.endsInOperand && sign == .minus then .ok (layout.push .negate)
      else
        match Operator.ofSymbol? sign with
        | some op => .ok (layout.push (.operator op))
        | none => .error (.malformed (.outOfPlace sign))

/-- The formula of a layout after the last token. -/
def finish (layout : Layout) : Except FormulaError Formula := do
  let formula ← layout.current
  if layout.enclosing.isEmpty then .ok formula else .error (.malformed .unexpectedEnd)

end Layout

/-- The formula that a list of tokens spells. -/
def ofTokens (tokens : List Token) : Except FormulaError Formula := do
  (← tokens.foldlM Layout.step Layout.empty).finish

/-- The formula that a text spells. -/
def parse (text : String) : Except FormulaError Formula := do
  ofTokens (← tokens text)

end PointBuy.Formula
