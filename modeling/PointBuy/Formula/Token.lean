import PointBuy.Amount

/-!
# Tokens of formulas

The words and signs that a formula is made of, and the text of each.
-/

namespace PointBuy

/-- The fixed signs and keywords. -/
inductive Symbol where
  | leftParen
  | rightParen
  | star
  | slash
  | plus
  | minus
  | comma
  | lessEqual
  | less
  | greaterEqual
  | greater
  | if
  | then
  | else
  | and
  | or
deriving DecidableEq, Inhabited

namespace Symbol

/-- The spelling of a symbol. -/
def text : Symbol → String
  | leftParen => "("
  | rightParen => ")"
  | star => "*"
  | slash => "/"
  | plus => "+"
  | minus => "-"
  | comma => ","
  | lessEqual => "<="
  | less => "<"
  | greaterEqual => ">="
  | greater => ">"
  | .if => "IF"
  | .then => "THEN"
  | .else => "ELSE"
  | .and => "AND"
  | .or => "OR"

/-- The symbol that a whole word spells, if the word is a keyword. -/
def keyword? (word : String) : Option Symbol :=
  [Symbol.if, Symbol.then, Symbol.else, Symbol.and, Symbol.or].find? fun s => s.text == word

end Symbol

/-- A token of a formula. -/
inductive Token where
  /-- The name of a trait, or the word `level`. -/
  | identifier (name : String)
  | integer (value : Amount)
  /-- A number of hundredths, written with a percent sign. -/
  | percent (hundredths : Amount)
  | boolean (value : Bool)
  | symbol (sign : Symbol)
deriving DecidableEq

/-- The text of a truth value. -/
def truthText (b : Bool) : String := if b then "true" else "false"

/-- The text of a token. -/
def Token.text : Token → String
  | identifier name => name
  | integer value => value.text
  | percent hundredths => hundredths.text ++ "%"
  | boolean value => truthText value
  | symbol sign => sign.text

end PointBuy
