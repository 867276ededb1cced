/-!
# Classes of characters

A class of characters is given by the ranges of its code points in ascending order, and a character
is looked up in it by halving.

## Main definition

* `Text.held` : whether a class holds a character.
-/

namespace PointBuy.Text

/-- Whether one of the ranges from `first` to before `last` holds a number, by halving. -/
def heldBetween (ranges : Array (Nat × Nat)) (n : Nat) : (steps first last : Nat) → Bool
  | 0, _, _ => false
  | steps + 1, first, last =>
    let middle := (first + last) / 2
    match ranges[middle]? with
    | none => false
    | some (low, high) =>
      if last ≤ first then false
      else if n < low then heldBetween ranges n steps first middle
      else if high < n then heldBetween ranges n steps (middle + 1) last
      else true

/-- Whether one of the ranges holds a character. -/
def held (ranges : Array (Nat × Nat)) (c : Char) : Bool :=
  heldBetween ranges c.toNat ranges.size 0 ranges.size

end PointBuy.Text
