import PointBuy.Formula.Basic

/-!
# The grammar of formulas

What the formulas of this library look like, said without a parser. A formula is one of nine kinds
of phrase inside one another, from the loosest to the tightest:

```
expression  := conditional (',' conditional)*
conditional := IF expression THEN expression ELSE conditional | disjunction
disjunction := conjunction (OR conjunction)*
conjunction := comparison (AND comparison)*
comparison  := sum (('<=' | '<' | '>=' | '>') sum)*
sum         := negation (('+' | '-') negation)*
negation    := '-' negation | product
product     := atom (('*' | '/') atom)*
atom        := identifier | integer | percent | boolean | '(' expression ')'
```

The chains of operators group to the left, which `Derives.chain` says by recursion on the left: a
chain is a shorter chain, an operator and one more part. Parentheses, conditions and the parts after
`THEN` are groups, and a derivation says how many groups may stand inside one another: the `room`
of `Derives` shrinks by one at each group that is entered.

A plus sign in front of an operand has no place in the grammar. It means nothing, and
`withoutUnaryPlus` takes it away.
-/

namespace PointBuy

/-- Whether a token ends an operand: a name, a literal or a closing parenthesis. -/
def Token.endsOperand : Token → Bool
  | .identifier _ | .integer _ | .percent _ | .boolean _ | .symbol .rightParen => true
  | .symbol _ => false

namespace Formula

/-- The kinds of phrase, loosest first. -/
inductive Phrase where
  | expression
  | conditional
  | disjunction
  | conjunction
  | comparison
  | sum
  | negation
  | product
  | atom
deriving DecidableEq

/-- The phrase that a phrase may consist of alone. -/
def Phrase.tighter? : Phrase → Option Phrase
  | .expression => some .conditional
  | .conditional => some .disjunction
  | .disjunction => some .conjunction
  | .conjunction => some .comparison
  | .comparison => some .sum
  | .sum => some .negation
  | .negation => some .product
  | .product => some .atom
  | .atom => none

/-- The phrase that an operator makes, and that it takes on its left. -/
def Operator.whole : Operator → Phrase
  | .comma => .expression
  | .or => .disjunction
  | .and => .conjunction
  | .lessEqual | .less | .greaterEqual | .greater => .comparison
  | .add | .subtract => .sum
  | .multiply | .divide => .product

/-- The phrase that an operator takes on its right. -/
def Operator.part : Operator → Phrase
  | .comma => .conditional
  | .or => .conjunction
  | .and => .comparison
  | .lessEqual | .less | .greaterEqual | .greater => .sum
  | .add | .subtract => .negation
  | .multiply | .divide => .atom

/-- `Derives room phrase tokens formula` : the tokens are a phrase of that kind, with at most `room`
groups inside one another, and the formula is its tree. -/
inductive Derives : (room : Nat) → Phrase → List Token → Formula → Prop
  | identifier {room : Nat} (name : String) :
      Derives room .atom [.identifier name] (if name = "level" then .level else .trait name)
  | integer {room : Nat} (value : Amount) :
      Derives room .atom [.integer value] (.integer value)
  | percent {room : Nat} (hundredths : Amount) :
      Derives room .atom [.percent hundredths] (.percent hundredths)
  | boolean {room : Nat} (value : Bool) :
      Derives room .atom [.boolean value] (.boolean value)
  | group {room : Nat} {inner : List Token} {f : Formula}
      (body : Derives room .expression inner f) :
      Derives (room + 1) .atom (.symbol .leftParen :: inner ++ [.symbol .rightParen]) f
  | negate {room : Nat} {tokens : List Token} {f : Formula}
      (operand : Derives room .negation tokens f) :
      Derives room .negation (.symbol .minus :: tokens) (.negate f)
  | conditional {room : Nat} {cs ts es : List Token} {c t e : Formula}
      (condition : Derives room .expression cs c) (whenTrue : Derives room .expression ts t)
      (whenFalse : Derives (room + 1) .conditional es e) :
      Derives (room + 1) .conditional
        (.symbol .if :: cs ++ .symbol .then :: ts ++ .symbol .else :: es) (.conditional c t e)
  | chain {room : Nat} (op : Operator) {ls rs : List Token} {l r : Formula}
      (left : Derives room op.whole ls l) (right : Derives room op.part rs r) :
      Derives room op.whole (ls ++ .symbol op.symbol :: rs) (.binary op l r)
  | alone {room : Nat} {phrase tighter : Phrase} {tokens : List Token} {f : Formula}
      (below : phrase.tighter? = some tighter) (inner : Derives room tighter tokens f) :
      Derives room phrase tokens f

/-! ### Plus signs in front of operands -/

/-- The tokens without the plus signs that stand in front of an operand, where `after` tells whether
the nearest token before them, such plus signs left aside, ends an operand. -/
def dropUnaryPlus : (after : Bool) → List Token → List Token
  | _, [] => []
  | after, token :: rest =>
    if after = false ∧ token = .symbol .plus then dropUnaryPlus after rest
    else token :: dropUnaryPlus token.endsOperand rest

/-- The tokens without the plus signs that stand in front of an operand. -/
def withoutUnaryPlus (tokens : List Token) : List Token := dropUnaryPlus false tokens

end Formula
end PointBuy
