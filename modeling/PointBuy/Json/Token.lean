import PointBuy.Json.Basic
import PointBuy.Text.Digits

/-!
# Tokens of documents

The signs and scalars that the text of a document is made of. A scalar may be well formed and yet
denote nothing: a number beyond the largest finite one, or a text with half of a surrogate pair.
Such a scalar is a token without a value, so that a reader may still skip it.
-/

namespace PointBuy.Json

/-- A token of a document. -/
inductive Token where
  | openList
  | closeList
  | openObject
  | closeObject
  | comma
  | colon
  | null
  | boolean (value : Bool)
  | number (value : Option Number)
  | text (value : Option String)

/-- The blanks between tokens. -/
def isBlank (c : Char) : Bool := c == ' ' || c == '\n' || c == '\t' || c == '\r'

/-! ### Numbers -/

/-- Multiplies or divides by a power of ten, 308 powers at a time. A result beyond the largest
finite number does not exist. Three steps down leave nothing of a number below `2 ^ 64`, so the
first argument need not be large. -/
def scaleByTen : Nat → Float → Int → Option Float
  | 0, x, _ => some x
  | fuel + 1, x, e =>
    if e.natAbs ≤ 308 then
      let power := Float.ofScientific 1 false e.natAbs
      if 0 ≤ e then
        let scaled := x * power
        if scaled.isInf then none else some scaled
      else some (x / power)
    else if x == 0 then some x
    else if 0 ≤ e then none
    else scaleByTen fuel (x / Float.ofScientific 1 false 308) (e + 308)

/-- Appends digits to a number as long as it stays below `2 ^ 64`, and gives the digits left. -/
def appendDigits : Nat → List Char → Nat × List Char
  | n, [] => (n, [])
  | n, d :: rest =>
    let grown := 10 * n + Text.digitValue d
    if Decimal.twoTo 64 ≤ grown then (n, d :: rest) else appendDigits grown rest

/-- The number of a sign, the digits before and after the point and a written exponent. Digits
that no longer fit into 64 bits count only by their place. -/
def numberValue (negative : Bool) (whole fraction : List Char) (exponent : Int) : Option Number :=
  let (head, dropped) := appendDigits 0 whole
  let (digits, left) := appendDigits head fraction
  let scale : Int := (dropped.length : Int) - (fraction.length - left.length : Nat) + exponent
  let signed (x : Float) : Number := .fraction (if negative then -x else x)
  if 2147483647 < exponent then if digits ≠ 0 then none else some (signed 0)
  else if exponent < -2147483647 then some (signed 0)
  else (scaleByTen 4 (Float.ofScientific digits false 0) scale).map signed

/-- The number of an integer literal. Zero with a sign is a fraction, as it has no integer. -/
def integerValue (negative : Bool) (whole : List Char) : Option Number :=
  let (n, dropped) := appendDigits 0 whole
  if !dropped.isEmpty then numberValue negative whole [] 0
  else if !negative then some (.integer n)
  else if n = 0 || Decimal.twoTo 63 < n then numberValue negative whole [] 0
  else some (.integer (-(n : Int)))

/-- The exponent after its mark, and what follows it. -/
def readExponent (text : List Char) : Option (Int × List Char) :=
  let (negative, rest) : Bool × List Char := match text with
    | '-' :: rest => (true, rest)
    | '+' :: rest => (false, rest)
    | _ => (false, text)
  let digits := rest.takeWhile Char.isDigit
  if digits.isEmpty then none
  else
    let n := Text.decimalValue digits
    some (if negative then -(n : Int) else n, rest.dropWhile Char.isDigit)

/-- A number without its sign, and what follows it. -/
def readNumber (negative : Bool) (text : List Char) : Option (Option Number × List Char) :=
  let whole := text.takeWhile Char.isDigit
  let rest := text.dropWhile Char.isDigit
  if whole.isEmpty || (whole.head? == some '0' && 1 < whole.length) then none
  else
    match rest with
    | '.' :: rest =>
      let fraction := rest.takeWhile Char.isDigit
      if fraction.isEmpty then none
      else
        match rest.dropWhile Char.isDigit with
        | mark :: rest =>
          if mark = 'e' || mark = 'E' then
            (readExponent rest).map fun (e, rest) => (numberValue negative whole fraction e, rest)
          else some (numberValue negative whole fraction 0, mark :: rest)
        | [] => some (numberValue negative whole fraction 0, [])
    | mark :: rest =>
      if mark = 'e' || mark = 'E' then
        (readExponent rest).map fun (e, rest) => (numberValue negative whole [] e, rest)
      else some (integerValue negative whole, mark :: rest)
    | [] => some (integerValue negative whole, [])

/-! ### Texts -/

/-- The 16-bit unit of four hexadecimal digits. -/
def unit? (a b c d : Char) : Option Nat := Text.numberIn? 16 [a, b, c, d]

/-- The character that a one-letter escape stands for. -/
def escaped? (c : Char) : Option Char :=
  if c = '"' || c = '\\' || c = '/' then some c
  else if c = 'b' then some '\x08'
  else if c = 'f' then some '\x0c'
  else if c = 'n' then some '\n'
  else if c = 'r' then some '\r'
  else if c = 't' then some '\t'
  else none

/-- Puts the characters of a text together: those written as they are, and those written as one or
two 16-bit units. A unit that is half of a pair needs its other half. -/
def joinUnits : List (Char ⊕ Nat) → Option (List Char)
  | [] => some []
  | .inl c :: rest => (joinUnits rest).map (c :: ·)
  | .inr high :: rest =>
    if 0xD800 ≤ high && high ≤ 0xDBFF then
      match rest with
      | .inr low :: rest =>
        if 0xDC00 ≤ low && low ≤ 0xDFFF then
          let c := Char.ofNat (0x10000 + (high - 0xD800) * 0x400 + (low - 0xDC00))
          (joinUnits rest).map (c :: ·)
        else none
      | _ => none
    else if 0xDC00 ≤ high && high ≤ 0xDFFF then none
    else (joinUnits rest).map (Char.ofNat high :: ·)

/-- The units of a text after its opening quote, and what follows the closing one. The first list
holds the units already read, last one first. -/
def readUnits : List (Char ⊕ Nat) → List Char → Option (List (Char ⊕ Nat) × List Char)
  | _, [] => none
  | units, '"' :: rest => some (units.reverse, rest)
  | units, '\\' :: 'u' :: a :: b :: c :: d :: rest =>
    match unit? a b c d with
    | some n => readUnits (.inr n :: units) rest
    | none => none
  | units, '\\' :: c :: rest =>
    match escaped? c with
    | some c => readUnits (.inl c :: units) rest
    | none => none
  | units, c :: rest =>
    if c.toNat < 32 || c = '\\' then none else readUnits (.inl c :: units) rest

/-! ### Whole texts -/

/-- The first token of the text `c :: rest`, and what follows it. -/
def read (c : Char) (rest : List Char) : Option (Token × List Char) :=
  if c = '[' then some (.openList, rest)
  else if c = ']' then some (.closeList, rest)
  else if c = '\x7b' then some (.openObject, rest)
  else if c = '\x7d' then some (.closeObject, rest)
  else if c = ',' then some (.comma, rest)
  else if c = ':' then some (.colon, rest)
  else if c = '"' then
    (readUnits [] rest).map fun (units, rest) =>
      (.text ((joinUnits units).map String.ofList), rest)
  else if c = '-' then (readNumber true rest).map fun (n, rest) => (.number n, rest)
  else if c.isDigit then (readNumber false (c :: rest)).map fun (n, rest) => (.number n, rest)
  else
    match c, rest with
    | 'n', 'u' :: 'l' :: 'l' :: rest => some (.null, rest)
    | 't', 'r' :: 'u' :: 'e' :: rest => some (.boolean true, rest)
    | 'f', 'a' :: 'l' :: 's' :: 'e' :: rest => some (.boolean false, rest)
    | _, _ => none

/-- Reads tokens until the text ends; the first argument bounds their number, and the second holds
those already read, last one first. -/
def readTokens : Nat → List Token → List Char → Option (List Token)
  | 0, _, _ => none
  | fuel + 1, tokens, cs =>
    match cs.dropWhile isBlank with
    | [] => some tokens.reverse
    | c :: rest =>
      match read c rest with
      | some (token, rest) => readTokens fuel (token :: tokens) rest
      | none => none

/-- The tokens of a text. Each takes at least one character, so the bound is never met. -/
def tokens (text : String) : Option (List Token) :=
  readTokens (text.length + 1) [] text.toList

end PointBuy.Json
