import PointBuy.Sheet.Basic

/-!
# Rows

What is shown of one trait of a sheet, and the record of it that tells whether it has changed.

## Main definitions

* `Sheet.row` : what is shown of a trait.
* `Row.record` : the text that changes when what is shown changes.
* `Sheet.visibleRows`, `Sheet.total` : what is shown of a whole sheet.
-/

namespace PointBuy

/-- What is shown of a trait. -/
structure Row where
  name : String
  shownAs : String
  purchased : Amount
  level : Option Amount
  cost : Option Amount
  formatted : String
deriving DecidableEq, Inhabited

/-- A row as a record. A dash stands for an absent cost. -/
def Row.record (row : Row) : String :=
  row.name ++ ":" ++ row.purchased.text ++ ":" ++ (row.cost.map Amount.text).getD "-" ++ ":"
    ++ row.formatted

namespace Sheet

/-- The row of the trait at a place. -/
def row (s : Sheet) (i : Nat) : Row :=
  let level := s.level i
  let t? := s.database.trait? i
  { name := (t?.map Trait.name).getD ""
    shownAs := (t?.map Trait.displayName).getD ""
    purchased := s.purchasedAt i
    level
    cost := s.cost i
    formatted := (t?.map fun t => t.format.render level).getD "" }

/-- The record of the trait at a place. -/
def record (s : Sheet) (i : Nat) : String := (s.row i).record

/-- The records of all traits. -/
def records (s : Sheet) : Array String := (Array.range s.purchased.size).map s.record

/-- The rows of the traits that are purchased or have a level. -/
def visibleRows (s : Sheet) : List Row :=
  ((List.range s.purchased.size).map s.row).filter fun row =>
    row.purchased.val != 0 || row.level.isSome

/-- The cost of everything. -/
def total (s : Sheet) : Amount :=
  ((List.range s.purchased.size).filterMap s.cost).foldl (· + ·) 0

end Sheet
end PointBuy
