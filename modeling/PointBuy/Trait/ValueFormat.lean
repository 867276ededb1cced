import PointBuy.Amount

/-!
# How values are shown

The value of a trait is a whole number, or is absent. A format says how it is written.
-/

namespace PointBuy

/-- How the value of a trait is written. -/
inductive ValueFormat where
  /-- As a number. -/
  | decimal
  /-- As dice with an addend, four to the die: `7` is `2d-1`. -/
  | dice
  /-- As a word, `No` for zero. -/
  | yesNo
  /-- As a quarter of the number: `21` is `5.25`. -/
  | quarters
deriving DecidableEq, Inhabited

namespace ValueFormat

/-- The number of dice that a value is written with, and what is added to them. The addend is from
`-1` to `2`, unless a single die is already too much; only the greatest amount has the addend `3`,
since there is no amount above it for the number of dice to be reckoned from. -/
def diceParts (value : Amount) : Int × Amount :=
  let count := (value + 1).val / 4
  if count < 1 then (1, value - 4) else (count, value - Amount.clamp (4 * count))

/-- A value as dice. -/
def diceText (value : Amount) : String :=
  let (count, adds) := diceParts value
  if adds.val = 0 then s!"{count}d"
  else if 0 < adds.val then s!"{count}d+{adds.text}"
  else s!"{count}d{adds.text}"

/-- What is written after the point for a number of quarters. -/
def quarterText (n : Nat) : String :=
  match n % 4 with
  | 1 => ".25"
  | 2 => ".5"
  | 3 => ".75"
  | _ => ""

/-- A value as quarters. -/
def quartersText (value : Amount) : String :=
  let magnitude := value.val.natAbs
  (if value.val < 0 then "-" else "") ++ toString (magnitude / 4) ++ quarterText magnitude

/-- A value in a format; a dash stands for an absent one. -/
def render (format : ValueFormat) : Option Amount → String
  | none => "-"
  | some value =>
    match format with
    | decimal => value.text
    | dice => diceText value
    | yesNo => if value.val = 0 then "No" else "Yes"
    | quarters => quartersText value

end ValueFormat
end PointBuy
