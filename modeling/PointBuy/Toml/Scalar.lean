import PointBuy.Decimal.Shortest
import PointBuy.Text.Digits
import PointBuy.Toml.Table

/-!
# Scalars of settings

Truth values, whole numbers, numbers with places, dates and times, each from the whole of what is
written. Digits may be grouped by single underscores.

## Main definition

* `Toml.scalar?` : the value that is written.
-/

namespace PointBuy.Toml

/-- A sign, and what follows it; whether the sign is a minus. -/
def splitSign : List Char → Bool × List Char
  | '-' :: rest => (true, rest)
  | '+' :: rest => (false, rest)
  | text => (false, text)

/-- Digits without the underscores between them. -/
def ungrouped? (isDigit : Char → Bool) (text : List Char) : Option (List Char) :=
  let groups := text.splitOn '_'
  if groups.all (fun group => !group.isEmpty && group.all isDigit) then some groups.flatten
  else none

/-- The digits of a whole number without a sign. Only zero starts with the digit zero. -/
def wholeDigits? (text : List Char) : Option (List Char) := do
  let digits ← ungrouped? Char.isDigit text
  if digits.head? = some '0' && 1 < digits.length then none else some digits

/-- The number of digits in a base other than ten. -/
def numberIn? (base : Nat) (text : List Char) : Option Nat := do
  Text.numberIn? base (← ungrouped? (fun c => (Text.hexValue? c).isSome) text)

/-! ### Numbers -/

/-- A whole number. -/
def integer? (text : List Char) : Option Amount :=
  match text with
  | '0' :: 'x' :: digits => (numberIn? 16 digits).bind fun n => Amount.ofInt? n
  | '0' :: 'o' :: digits => (numberIn? 8 digits).bind fun n => Amount.ofInt? n
  | '0' :: 'b' :: digits => (numberIn? 2 digits).bind fun n => Amount.ofInt? n
  | _ => do
    let (negative, magnitude) := splitSign text
    let n : Int := Text.decimalValue (← wholeDigits? magnitude)
    Amount.ofInt? (if negative then -n else n)

/-- Whether the number `digits * 10 ^ exponent` is nearer to `2 ^ 1024` than to any number that 53
binary digits below it can write. -/
def isTooGreat (digits : Nat) (exponent : Int) : Bool :=
  let magnitude := ((toString digits).length : Int) + exponent
  if digits = 0 || magnitude < 300 then false
  else if 400 < magnitude then true
  else Decimal.comparePowers digits exponent (Decimal.twoTo 54 - 1) 970 != .lt

/-- Whether a character separates the digits of a number from its exponent. -/
def isExponentMark (c : Char) : Bool := c == 'e' || c == 'E'

/-- A number with places or an exponent, or one that is none. A number may be too small for 64
bits, but not too great. -/
def isFraction (text : List Char) : Bool :=
  let (negative, magnitude) := splitSign text
  if magnitude = ['i', 'n', 'f'] || magnitude = ['n', 'a', 'n'] then true
  else
    let mantissa := magnitude.takeWhile fun c => !isExponentMark c
    let whole? := wholeDigits? (mantissa.takeWhile (· ≠ '.'))
    let places? := match mantissa.dropWhile (· ≠ '.') with
      | [] => some []
      | _ :: places => ungrouped? Char.isDigit places
    let exponent? : Option Int := match magnitude.dropWhile fun c => !isExponentMark c with
      | [] => some 0
      | _ :: exponent =>
        let (negative, digits) := splitSign exponent
        (ungrouped? Char.isDigit digits).map fun digits =>
          let n : Int := Text.decimalValue digits
          if negative then -n else n
    match whole?, places?, exponent? with
    | some whole, some places, some exponent =>
      magnitude.any (fun c => c == '.' || isExponentMark c)
        && (negative
          || !isTooGreat (Text.decimalValue (whole ++ places)) (exponent - places.length))
    | _, _, _ => false

/-! ### Dates and times -/

/-- A number of two digits that is not above a bound, and what follows it. -/
def twoDigits? (bound : Nat) : List Char → Option (Nat × List Char)
  | c :: d :: rest =>
    let n := Text.decimalValue [c, d]
    if c.isDigit && d.isDigit && n ≤ bound then some (n, rest) else none
  | _ => none

/-- What follows a character that has to be there. -/
def after? (c : Char) : List Char → Option (List Char)
  | d :: rest => if d = c then some rest else none
  | [] => none

/-- The hours and minutes that a text starts with are passed over. -/
def afterMinutes? (text : List Char) : Option (List Char) := do
  let (_, rest) ← twoDigits? 23 text
  let (_, rest) ← twoDigits? 59 (← after? ':' rest)
  some rest

/-- The time that a text starts with is passed over. A minute may have a second too many. -/
def afterTime? (text : List Char) : Option (List Char) := do
  let (_, rest) ← twoDigits? 60 (← after? ':' (← afterMinutes? text))
  match rest with
  | '.' :: places =>
    if (places.head?.any Char.isDigit) then some (places.dropWhile Char.isDigit) else none
  | _ => some rest

/-- The days of a month. -/
def daysOf (year month : Nat) : Nat :=
  if month = 2 then
    if year % 4 = 0 && (year % 100 != 0 || year % 400 = 0) then 29 else 28
  else if month = 4 || month = 6 || month = 9 || month = 11 then 30
  else 31

/-- The date that a text starts with is passed over. -/
def afterDate? (text : List Char) : Option (List Char) := do
  let (century, rest) ← twoDigits? 99 text
  let (year, rest) ← twoDigits? 99 rest
  let (month, rest) ← twoDigits? 12 (← after? '-' rest)
  let (day, rest) ← twoDigits? (daysOf (100 * century + year) month) (← after? '-' rest)
  if month = 0 || day = 0 then none else some rest

/-- Whether a text is a distance from universal time, or nothing. -/
def isOffset : List Char → Bool
  | [] => true
  | sign :: rest =>
    ((sign == 'Z' || sign == 'z') && rest.isEmpty)
      || ((sign == '+' || sign == '-') && afterMinutes? rest == some [])

/-- Whether a text is a date, a time, or both. -/
def isMoment (text : List Char) : Bool :=
  afterTime? text == some [] || match afterDate? text with
    | some [] => true
    | some (mark :: rest) =>
      (mark == 'T' || mark == 't' || mark == ' ') && (afterTime? rest).any isOffset
    | none => false

/-! ### All scalars -/

/-- The value that is written. -/
def scalar? (text : List Char) : Option Value :=
  if text = "true".toList then some (.boolean true)
  else if text = "false".toList then some (.boolean false)
  else
    match integer? text with
    | some n => some (.integer n)
    | none =>
      if isMoment text then some (.moment (String.ofList text))
      else if isFraction text then some (.fraction (String.ofList text))
      else none

end PointBuy.Toml
