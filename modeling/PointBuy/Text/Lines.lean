/-!
# Lines

A line ends at a line feed, and a carriage return just before the line feed belongs to the end. A
text that ends in a line feed has no further line after it, and an empty text has no line.
-/

namespace PointBuy.Text

/-- The line whose characters were collected last one first, at a line feed. -/
def endedLine : List Char → List Char
  | '\r' :: collected => collected.reverse
  | collected => collected.reverse

/-- Splits a text into lines. The first argument holds the lines already found, last one first, and
the second the characters of the current line, last one first. -/
def splitLines : List (List Char) → List Char → List Char → List (List Char)
  | found, [], [] => found.reverse
  | found, collected, [] => (collected.reverse :: found).reverse
  | found, collected, c :: rest =>
    if c = '\n' then splitLines (endedLine collected :: found) [] rest
    else splitLines found (c :: collected) rest

/-- The lines of a text. -/
def lines (text : List Char) : List (List Char) := splitLines [] [] text

end PointBuy.Text
