import PointBuy.Declaration.Basic
import PointBuy.Text.Blank

/-!
# The parts of a declaration line

A declaration line reads `name operator formula`, with `.sub` after the name, a comment in quotes
after the formula, and an opening brace at the end where it has them. Names consist of characters
that no operator starts with, so a name ends where its operator begins; a formula ends at the first
quote or brace; a comment runs to the last quote of the line.
-/

namespace PointBuy.Declaration

/-- A declaration line taken apart. -/
structure Line where
  name : List Char
  sub : Option (List Char)
  operator : Operator
  formula : List Char
  comment : Option (List Char)
  /-- Whether the line opens a block. -/
  opensBlock : Bool
deriving DecidableEq

namespace Line

/-- What a name may start with. -/
def isNameStart (c : Char) : Bool :=
  c.isAlpha || c == '_' || c == ' ' || c == '&' || c == '(' || c == ')' || c == '!'

/-- What a name may go on with. -/
def isNamePart (c : Char) : Bool := c.isDigit || isNameStart c

/-- A name at the start of a text, and what follows it. -/
def scanName : List Char → Option (List Char × List Char)
  | [] => none
  | c :: rest =>
    if isNameStart c then
      some ((c :: rest).takeWhile isNamePart, (c :: rest).dropWhile isNamePart)
    else none

/-- What follows a given start of a text. -/
def after? : List Char → List Char → Option (List Char)
  | [], rest => some rest
  | _ :: _, [] => none
  | p :: start, c :: rest => if p = c then after? start rest else none

/-- The operator at the start of a text, and what follows it. -/
def scanOperator (text : List Char) : Option (Operator × List Char) :=
  Operator.all.findSome? fun operator => (after? operator.text.toList text).map (operator, ·)

/-- Whether a character ends a formula. -/
def endsFormula (c : Char) : Bool := c == '"' || c == '\x7b'

/-- The characters before the last quote of a text, and those after it. -/
def splitAtLastQuote (text : List Char) : Option (List Char × List Char) :=
  match text.reverse.dropWhile (· != '"') with
  | [] => none
  | _ :: before => some (before.reverse, (text.reverse.takeWhile (· != '"')).reverse)

/-- A comment in quotes at the start of a text, if there is one, and what follows it. -/
def scanComment : List Char → Option (Option (List Char) × List Char)
  | '"' :: quoted => (splitAtLastQuote quoted).map fun (comment, rest) => (some comment, rest)
  | text => some (none, text)

/-- The part of a name after a point, if there is one, and what follows it. -/
def scanSub : List Char → Option (Option (List Char) × List Char)
  | '.' :: rest => do
    let (sub, rest) ← scanName rest
    let sub := Text.trim sub
    if sub.isEmpty then none else some (some sub, rest)
  | text => some (none, text)

/-- Whether the end of a line opens a block. -/
def scanOpening (text : List Char) : Option Bool :=
  match Text.trim text with
  | [] => some false
  | ['\x7b'] => some true
  | _ => none

/-- Takes a declaration line apart. -/
def split (line : List Char) : Option Line := do
  let (name, rest) ← scanName line
  let (sub, rest) ← scanSub rest
  let (operator, rest) ← scanOperator (Text.trimStart rest)
  let formula := rest.takeWhile fun c => !endsFormula c
  let (comment, rest) ← scanComment (rest.dropWhile fun c => !endsFormula c)
  let opensBlock ← scanOpening rest
  some ⟨Text.trim name, sub, operator, Text.trim formula, comment.map Text.trim, opensBlock⟩

/-- The comment of a line that holds nothing else. -/
def bareComment? : List Char → Option (List Char)
  | '"' :: quoted =>
    match quoted.reverse with
    | '"' :: comment => some (Text.trim comment.reverse)
    | _ => none
  | _ => none

/-- Whether a trimmed line holds nothing to read. -/
def isIgnored (line : List Char) : Bool := line.isEmpty || line.head? == some '#'

end Line
end PointBuy.Declaration
