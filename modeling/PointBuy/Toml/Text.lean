import PointBuy.Text.Digits

/-!
# Quoted texts of settings

A text stands between double quotes, inside which a backslash begins an escape, or between single
quotes, inside which every character stands for itself. Between three quotes of either kind it may
have several lines, the first line end is no part of it, and up to two quotes may stand at its end;
a backslash at the end of a line then joins that line to what follows the blanks after it.

## Main definitions

* `Toml.Quotes.read` : the text between quotes.
* `Toml.quoted` : a text in quotes, without escapes if some quotes can hold it so.
-/

namespace PointBuy.Toml

/-- Whether a character may stand in a text or a remark as it is. -/
def isPlain (c : Char) : Bool := c == '\t' || (32 ≤ c.toNat && c.toNat != 127)

/-- What follows the line end that a text starts with. -/
def afterLineEnd? : List Char → Option (List Char)
  | '\n' :: rest => some rest
  | '\r' :: '\n' :: rest => some rest
  | _ => none

/-! ### Reading -/

/-- The quotes of a text. -/
structure Quotes where
  /-- A double or a single quote. -/
  sign : Char
  /-- Whether there are three of them. -/
  multiline : Bool

/-- The character that a one-letter escape stands for. -/
def escaped? (c : Char) : Option Char :=
  if c = '"' || c = '\\' then some c
  else if c = 'b' then some '\x08'
  else if c = 'f' then some '\x0c'
  else if c = 'n' then some '\n'
  else if c = 'r' then some '\r'
  else if c = 't' then some '\t'
  else none

/-- The character of a number in hexadecimal digits. -/
def numbered? (digits : List Char) : Option Char := do
  let n ← Text.numberIn? 16 digits
  if n.isValidChar then some (Char.ofNat n) else none

/-- Whether there is nothing but blanks up to the next line end. -/
def startsBlankLine (text : List Char) : Bool :=
  (afterLineEnd? (text.dropWhile fun c => c == ' ' || c == '\t')).isSome

namespace Quotes

/-- The end of a text of several lines after its three quotes. Two more may belong to it. -/
def closeMultiline (quotes : Quotes) (collected rest : List Char) : List Char × List Char :=
  let more := (rest.take 2).takeWhile (· == quotes.sign)
  ((more ++ collected).reverse, rest.drop more.length)

/-- The text from some place inside quotes on, and what follows the quotes. The second list holds
the characters already read, last one first; the blanks after a joined line are `skipped`. -/
def readOn (quotes : Quotes) :
    (skipped : Bool) → (collected : List Char) → List Char → Option (List Char × List Char)
  | _, _, [] => none
  | skipped, collected, c :: rest =>
    if c = quotes.sign then
      if quotes.multiline then
        match rest with
        | d :: e :: after =>
          if d = c && e = c then some (quotes.closeMultiline collected after)
          else readOn quotes false (c :: collected) rest
        | _ => none
      else some (collected.reverse, rest)
    else if c = '\\' && quotes.sign = '"' then
      if quotes.multiline && startsBlankLine rest then readOn quotes true collected rest
      else
        match rest with
        | 'u' :: c₁ :: c₂ :: c₃ :: c₄ :: rest =>
          match numbered? [c₁, c₂, c₃, c₄] with
          | some c => readOn quotes false (c :: collected) rest
          | none => none
        | 'U' :: c₁ :: c₂ :: c₃ :: c₄ :: c₅ :: c₆ :: c₇ :: c₈ :: rest =>
          match numbered? [c₁, c₂, c₃, c₄, c₅, c₆, c₇, c₈] with
          | some c => readOn quotes false (c :: collected) rest
          | none => none
        | c :: rest =>
          match escaped? c with
          | some c => readOn quotes false (c :: collected) rest
          | none => none
        | [] => none
    else if c = '\n' && quotes.multiline then
      readOn quotes skipped (if skipped then collected else c :: collected) rest
    else if c = '\r' && quotes.multiline && rest.head? == some '\n' then
      readOn quotes skipped collected rest
    else if skipped && (c = ' ' || c = '\t') then readOn quotes true collected rest
    else if isPlain c then readOn quotes false (c :: collected) rest
    else none

/-- The quotes that a text starts with, given the sign of the first one, and what follows them. -/
def start (sign : Char) (rest : List Char) : Quotes × List Char :=
  match rest with
  | c :: d :: inner =>
    if c = sign && d = sign then (⟨sign, true⟩, (afterLineEnd? inner).getD inner)
    else (⟨sign, false⟩, rest)
  | _ => (⟨sign, false⟩, rest)

/-- The text inside quotes, and what follows them. -/
def read (quotes : Quotes) (text : List Char) : Option (String × List Char) :=
  (quotes.readOn false [] text).map fun (inside, rest) => (String.ofList inside, rest)

end Quotes

/-! ### Writing -/

/-- Whether a character stands three times in a row. -/
def hasThree (sign : Char) : List Char → Bool
  | c :: d :: e :: rest =>
    (c == sign && d == sign && e == sign) || hasThree sign (d :: e :: rest)
  | _ => false

/-- The quotes that a text is written in: the first kind that can hold it without escapes, where one
line goes before several and double quotes go before single ones. If there is none, double quotes
hold it with escapes. Between three quotes up to two may stand in a row. -/
def quotesFor (text : List Char) : Quotes :=
  let oneLine := !text.contains '\n'
  let plain := text.all fun c => isPlain c || c == '\n'
  let unescaped := plain && !text.contains '\\'
  if unescaped && oneLine && !text.contains '"' then ⟨'"', false⟩
  else if plain && oneLine && !text.contains '\'' then ⟨'\'', false⟩
  else if unescaped && !hasThree '"' text then ⟨'"', true⟩
  else if plain && !hasThree '\'' text then ⟨'\'', true⟩
  else ⟨'"', !oneLine⟩

/-- A character other than a quote between double quotes. -/
def escape (multiline : Bool) (c : Char) : List Char :=
  if c = '\\' then ['\\', '\\']
  else if c = '\n' then if multiline then ['\n'] else ['\\', 'n']
  else if c = '\r' then ['\\', 'r']
  else if c = '\t' then ['\\', 't']
  else if c = '\x08' then ['\\', 'b']
  else if c = '\x0c' then ['\\', 'f']
  else if c.toNat < 32 || c.toNat = 127 then
    let digit (n : Nat) : Char := (n.digitChar).toUpper
    ['\\', 'u', '0', '0', digit (c.toNat / 16), digit (c.toNat % 16)]
  else [c]

/-- A text between double quotes, of which `room` more may follow without an escape, and `most` in a
row. -/
def escapeText (multiline : Bool) (most : Nat) : (room : Nat) → List Char → List Char
  | _, [] => []
  | room, c :: rest =>
    if c = '"' then
      match room with
      | room + 1 => c :: escapeText multiline most room rest
      | 0 => '\\' :: c :: escapeText multiline most most rest
    else escape multiline c ++ escapeText multiline most most rest

/-- What stands between the quotes of a text. -/
def Quotes.inside (quotes : Quotes) (text : List Char) : List Char :=
  if quotes.sign = '"' then
    let most := if quotes.multiline then 2 else 0
    escapeText quotes.multiline most most text
  else text

/-- A text in quotes. Before several lines there is a line end that is no part of the text. -/
def quoted (text : String) : String :=
  let inside := text.toList
  let quotes := quotesFor inside
  let delimiter := List.replicate (if quotes.multiline then 3 else 1) quotes.sign
  let lineEnd := if inside.contains '\n' then ['\n'] else []
  let start := if quotes.multiline then delimiter ++ lineEnd else delimiter
  String.ofList (start ++ quotes.inside inside ++ delimiter)

end PointBuy.Toml
