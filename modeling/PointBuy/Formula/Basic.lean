import PointBuy.Formula.Token

/-!
# Formulas

The tree of a formula, the names it mentions and its fully parenthesized text.
-/

namespace PointBuy

namespace Formula

/-- The operators that stand between two operands. -/
inductive Operator where
  | multiply
  | divide
  | add
  | subtract
  | lessEqual
  | less
  | greaterEqual
  | greater
  | and
  | or
  | comma
deriving DecidableEq, Inhabited

namespace Operator

/-- The symbol that an operator is written with. -/
def symbol : Operator → Symbol
  | multiply => .star
  | divide => .slash
  | add => .plus
  | subtract => .minus
  | lessEqual => .lessEqual
  | less => .less
  | greaterEqual => .greaterEqual
  | greater => .greater
  | .and => .and
  | .or => .or
  | comma => .comma

/-- The spelling of an operator. -/
def text (op : Operator) : String := op.symbol.text

/-- All operators. -/
def all : List Operator :=
  [multiply, divide, add, subtract, lessEqual, less, greaterEqual, greater, .and, .or, comma]

/-- The operator that a symbol writes, if it writes one. -/
def ofSymbol? (s : Symbol) : Option Operator := all.find? fun op => op.symbol == s

/-- How loosely an operator binds: a lower tier takes its operands first. Tier 1 also holds the
minus sign in front of an operand, and tier 5 is that of conditionals. -/
def tier : Operator → Nat
  | multiply | divide => 0
  | add | subtract => 1
  | lessEqual | less | greaterEqual | greater => 2
  | .and => 3
  | .or => 4
  | comma => 6

end Operator

end Formula

/-- A formula. -/
inductive Formula where
  /-- The level, or the truth, of the trait of that name. -/
  | trait (name : String)
  /-- The purchased levels of the trait that the formula belongs to. -/
  | level
  | integer (value : Amount)
  | percent (hundredths : Amount)
  | boolean (value : Bool)
  | negate (operand : Formula)
  | binary (op : Formula.Operator) (left right : Formula)
  | conditional (condition whenTrue whenFalse : Formula)
deriving DecidableEq, Inhabited

namespace Formula

/-- The trait names of a formula from left to right, with repetitions. -/
def mentions : Formula → List String
  | trait name => [name]
  | level | integer _ | percent _ | boolean _ => []
  | negate operand => operand.mentions
  | binary _ left right => left.mentions ++ right.mentions
  | conditional condition whenTrue whenFalse =>
    condition.mentions ++ (whenTrue.mentions ++ whenFalse.mentions)

/-- The trait names of a formula in the order of their first occurrence, each once. -/
def names (f : Formula) : List String := f.mentions.eraseDups

/-- Whether the purchased levels of the own trait occur. -/
def mentionsLevel : Formula → Bool
  | level => true
  | trait _ | integer _ | percent _ | boolean _ => false
  | negate operand => operand.mentionsLevel
  | binary _ left right => left.mentionsLevel || right.mentionsLevel
  | conditional condition whenTrue whenFalse =>
    condition.mentionsLevel || whenTrue.mentionsLevel || whenFalse.mentionsLevel

/-- The text of a formula, with parentheses around everything that is not a single token. -/
def render : Formula → String
  | trait name => name
  | level => "level"
  | integer value => value.text
  | percent hundredths => hundredths.text ++ "%"
  | boolean value => truthText value
  | negate operand => "(-" ++ operand.render ++ ")"
  | binary op left right => "(" ++ left.render ++ " " ++ op.text ++ " " ++ right.render ++ ")"
  | conditional condition whenTrue whenFalse =>
    "(IF " ++ condition.render ++ " THEN " ++ whenTrue.render ++ " ELSE " ++ whenFalse.render ++ ")"

/-- The formula in postfix order: operands, then what is done to them. -/
def postfixOrder : Formula → List String
  | trait name => ["id:" ++ name]
  | level => ["level"]
  | integer value => ["int:" ++ value.text]
  | percent hundredths => ["pct:" ++ hundredths.text]
  | boolean value => ["bool:" ++ truthText value]
  | negate operand => operand.postfixOrder ++ ["neg"]
  | binary op left right => left.postfixOrder ++ right.postfixOrder ++ [op.text]
  | conditional condition whenTrue whenFalse =>
    condition.postfixOrder ++ whenTrue.postfixOrder ++ whenFalse.postfixOrder ++ ["if"]

end Formula
end PointBuy
