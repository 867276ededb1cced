import PointBuy.Toml.Text

/-!
# Tokens of settings

Between the signs that give settings their structure stand runs of words, quoted texts, points and
blanks. What a run means depends on where it stands: the same characters are a number as a value and
a path of two names before an equals sign. Remarks leave no token.

## Main definition

* `Toml.tokens?` : the tokens of a text.
-/

namespace PointBuy.Toml

/-- A part of a run. -/
inductive Part where
  /-- Letters, digits, and the signs that can stand in a number, a time or a name. -/
  | word (chars : List Char)
  | quoted (text : String) (multiline : Bool)
  | point
  /-- Spaces and tabs. -/
  | blank (chars : List Char)

/-- A token. No run is empty, and no two follow one another. -/
inductive Token where
  | run (parts : List Part)
  | sign (c : Char)
  | lineEnd

/-- Whether a character can stand in a word. -/
def isWordChar (c : Char) : Bool :=
  c.isAlphanum || c == '_' || c == '-' || c == '+' || c == ':'

/-- Whether a character is a space or a tab. -/
def isBlank (c : Char) : Bool := c == ' ' || c == '\t'

/-- Whether a character is a sign of the structure. -/
def isSign (c : Char) : Bool :=
  c == '[' || c == ']' || c == '\x7b' || c == '\x7d' || c == ',' || c == '='

namespace Token

/-- A token before others. Two runs become one. -/
def before (token : Token) (later : List Token) : List Token :=
  match token, later with
  | run parts, run more :: rest => run (parts ++ more) :: rest
  | token, later => token :: later

/-- The token that the text `c :: rest` starts with, or a remark, and what follows it. -/
def read (c : Char) (rest : List Char) : Option (Option Token × List Char) :=
  if isSign c then some (some (sign c), rest)
  else if c = '.' then some (some (run [.point]), rest)
  else if c = '\n' then some (some lineEnd, rest)
  else if c = '\r' then
    match rest with
    | '\n' :: rest => some (some lineEnd, rest)
    | _ => none
  else if c = '#' then some (none, rest.dropWhile isPlain)
  else if isBlank c then
    some (some (run [.blank (c :: rest.takeWhile isBlank)]), rest.dropWhile isBlank)
  else if isWordChar c then
    some (some (run [.word (c :: rest.takeWhile isWordChar)]), rest.dropWhile isWordChar)
  else if c = '"' || c = '\'' then
    let (quotes, inside) := Quotes.start c rest
    (quotes.read inside).map fun (text, rest) =>
      (some (run [.quoted text quotes.multiline]), rest)
  else none

/-- Reads tokens until the text ends. The first argument bounds their number. -/
def readAll : Nat → List Char → Option (List Token)
  | _, [] => some []
  | 0, _ :: _ => none
  | fuel + 1, c :: rest =>
    match read c rest with
    | some (some token, rest) => (readAll fuel rest).map token.before
    | some (none, rest) => readAll fuel rest
    | none => none

end Token

/-- The tokens of a text. Each takes at least one character, so the bound is never met. A mark of
the byte order at the start is passed over. -/
def tokens? (text : String) : Option (List Token) :=
  match text.toList with
  | '\uFEFF' :: rest => Token.readAll rest.length rest
  | rest => Token.readAll rest.length rest

end PointBuy.Toml
