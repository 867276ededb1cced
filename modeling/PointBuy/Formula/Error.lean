import PointBuy.Formula.Basic
import PointBuy.Limits
import PointBuy.Location

/-!
# Faults of formulas

What can be wrong with the text of a formula, and how it is said. A fault carries no location: the
place of the declaration that holds the formula is added by whoever knows it.
-/

namespace PointBuy

namespace Formula

/-- A part of a formula whose operators have not all taken their operands yet. -/
inductive Piece where
  | operand (formula : Formula)
  /-- A minus sign in front of its operand. -/
  | negate
  | operator (op : Operator)
  /-- A conditional that still waits for what follows `ELSE`. -/
  | conditional (condition whenTrue : Formula)
deriving DecidableEq, Inhabited

/-- A piece as messages show it. -/
def Piece.text : Piece → String
  | operand formula => formula.render
  | negate => "-"
  | operator op => op.text
  | conditional condition whenTrue =>
    "IF " ++ condition.render ++ " THEN " ++ whenTrue.render ++ " ELSE"

/-- How tokens fail to form a formula. -/
inductive GrammarFault where
  | emptyExpression
  | expectedEnd (got : Token)
  | expectedEndAfter (first : Piece)
  | unexpectedEnd
  | expectedSymbol (expected : Symbol) (got : Token)
  | outOfPlace (sign : Symbol)
  | expectedAfter (piece : Piece)
  | expectedBetween (left right : Piece)
  | cannotStart (piece : Piece)
deriving DecidableEq

/-- The wording of a fault in the grammar. -/
def GrammarFault.message : GrammarFault → String
  | emptyExpression => "empty expression"
  | expectedEnd got => s!"expected end of expression. got '{got.text}'"
  | expectedEndAfter first => s!"expected end of expression after '{first.text}'"
  | unexpectedEnd => "unexpected end of formula"
  | expectedSymbol expected got => s!"expected '{expected.text}'. got '{got.text}'"
  | outOfPlace sign => s!"symbol out of place '{sign.text}'"
  | expectedAfter piece => s!"expected something after '{piece.text}'"
  | expectedBetween left right => s!"expected something between '{left.text}' and '{right.text}'"
  | cannotStart piece => s!"can't start an expression with '{piece.text}'"

end Formula

/-- What can be wrong with the text of a formula. -/
inductive FormulaError where
  | invalidCharacter (character : Char)
  /-- The digits of a number that is too large to be an amount. -/
  | invalidNumber (digits : String)
  | identifierTooLong (length : Nat)
  | tooLong (length : Nat)
  | malformed (fault : Formula.GrammarFault)
  | tooDeep
deriving DecidableEq

namespace FormulaError

/-- The wording, without the location. -/
def message : FormulaError → String
  | invalidCharacter character => s!"invalid character in formula '{character}'"
  | invalidNumber digits => s!"invalid number '{digits}'"
  | identifierTooLong length =>
    s!"identifier is {length} characters long (max {Limits.identifierLength})"
  | tooLong length => s!"formula is {length} characters long (max {Limits.formulaLength})"
  | malformed fault => fault.message
  | tooDeep => s!"formula nested deeper than {Limits.formulaNesting} levels"

/-- Whether the text already fails to split into tokens. -/
def isLexical : FormulaError → Bool
  | invalidCharacter _ | invalidNumber _ | identifierTooLong _ => true
  | tooLong _ | malformed _ | tooDeep => false

/-- The code that a log line carries. -/
def code : FormulaError → String
  | invalidCharacter _ => "E030"
  | invalidNumber _ => "E031"
  | identifierTooLong _ => "E032"
  | tooLong _ => "E042"
  | malformed _ => "E040"
  | tooDeep => "E041"

end FormulaError

/-- The wording of a fault in a formula, with its location. -/
def Located.formulaMessage (e : Located FormulaError) : String :=
  e.fault.message ++ " " ++ e.location.text

end PointBuy
