import PointBuy.Character.Basic

/-!
# Printed sheets

A character as a table with a line for each trait that is purchased or has a level.
-/

namespace PointBuy

/-- A text with spaces after it up to a width. -/
def padEnd (width : Nat) (text : String) : String :=
  text ++ String.ofList (List.replicate (width - text.length) ' ')

/-- A text with spaces before it up to a width. -/
def padStart (width : Nat) (text : String) : String :=
  String.ofList (List.replicate (width - text.length) ' ') ++ text

/-- A line of the table. -/
def tableLine (trait purchased cost value : String) : String :=
  padEnd 32 trait ++ " " ++ padStart 9 purchased ++ " " ++ padStart 8 cost ++ " "
    ++ padStart 8 value

/-- The line of a trait. A dash stands for an absent cost. -/
def Row.line (row : Row) : String :=
  tableLine row.shownAs row.purchased.text ((row.cost.map Amount.text).getD "-") row.formatted

/-- The lines of a printed sheet, the database of which comes from so many files. -/
def Character.sheetLines (c : Character) (files : Nat) : List String :=
  let name := if c.name.isEmpty then "(unnamed)" else c.name
  [s!"Character: {name}",
    s!"Database: {c.sheet.database.size} traits from {files} file(s)",
    "",
    tableLine "TRAIT" "PURCHASED" "COST" "VALUE"]
    ++ c.sheet.visibleRows.map Row.line
    ++ ["", s!"Total points: {c.sheet.total.text}"]

end PointBuy
