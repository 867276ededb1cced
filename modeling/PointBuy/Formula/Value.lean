import PointBuy.Formula.Basic

/-!
# The values of formulas

A formula has a value as an integer, as a truth and as a percentage, of which the analysis of a
database lets only one be asked for. What it reads of the traits that it mentions is given by a
reader. Two things may be missing, and they are kept apart:

* an integer or a percentage may be *absent*, like the level of a skill that nobody has learned;
  what is computed from it is absent too, and a comparison with it is false;
* a reader may *give up* on a trait, and then the whole formula has no value. The outer `Option` of
  every result stands for this.

## Main definitions

* `Formula.integer?`, `Formula.truth?`, `Formula.percent?` : the values of a formula.
-/

namespace PointBuy.Formula

/-- What formulas read of the traits that they mention. -/
structure Reader where
  level : String → Option (Option Amount)
  truth : String → Option Bool

/-- The result of an operator on two integers, if it has one. -/
def Operator.apply? (op : Operator) (a b : Amount) : Option Amount :=
  match op with
  | .add => some (a + b)
  | .subtract => some (a - b)
  | .multiply => some (a * b)
  | .divide => if b.val = 0 then none else some (a.quotient b)
  | .lessEqual | .less | .greaterEqual | .greater | .and | .or | .comma => none

/-- The comparison that an operator makes, if it makes one. -/
def Operator.comparison? : Operator → Option (Amount → Amount → Bool)
  | .less => some fun a b => decide (a.val < b.val)
  | .lessEqual => some fun a b => decide (a.val ≤ b.val)
  | .greater => some fun a b => decide (b.val < a.val)
  | .greaterEqual => some fun a b => decide (b.val ≤ a.val)
  | .multiply | .divide | .add | .subtract | .and | .or | .comma => none

mutual

/-- The integer that a formula stands for, where `own` is the purchased level of the trait that the
formula belongs to. -/
def integer? (reader : Reader) (own : Amount) : Formula → Option (Option Amount)
  | .integer value => some (some value)
  | .level => some (some own)
  | .trait name => reader.level name
  | .negate operand => do return (← operand.integer? reader own).map (- ·)
  | .binary op left right => do
    match ← left.integer? reader own with
    | none => return none
    | some a =>
      match ← right.integer? reader own with
      | none => return none
      | some b => return op.apply? a b
  | .conditional condition whenTrue whenFalse => do
    if ← condition.truth? reader own then whenTrue.integer? reader own
    else whenFalse.integer? reader own
  | .percent _ | .boolean _ => some none

/-- The truth that a formula stands for. -/
def truth? (reader : Reader) (own : Amount) : Formula → Option Bool
  | .boolean value => some value
  | .trait name => reader.truth name
  | .binary op left right =>
    match op with
    | .and => do if ← left.truth? reader own then right.truth? reader own else return false
    | .or => do if ← left.truth? reader own then return true else right.truth? reader own
    | _ =>
      match op.comparison? with
      | none => some false
      | some compare => do
        let a ← left.integer? reader own
        let b ← right.integer? reader own
        match a, b with
        | some a, some b => return compare a b
        | _, _ => return false
  | .conditional condition whenTrue whenFalse => do
    if ← condition.truth? reader own then whenTrue.truth? reader own
    else whenFalse.truth? reader own
  | .level | .integer _ | .percent _ | .negate _ => some false

end

/-- The percentage that a formula stands for, in percent: the literal, or the literal times an
integer that mentions the purchased level. The integer is looked for on the left side first. -/
def percent? (reader : Reader) (own : Amount) : Formula → Option (Option Amount)
  | .percent hundredths => some (some hundredths)
  | .binary .multiply left right => do
    let onLeft ←
      if left.mentionsLevel then do
        match ← right.percent? reader own with
        | none => pure none
        | some points => pure ((← left.integer? reader own).map (· * points))
      else pure none
    match onLeft with
    | some points => return some points
    | none =>
      if right.mentionsLevel then
        match ← left.percent? reader own with
        | none => return none
        | some points => return (← right.integer? reader own).map (· * points)
      else return none
  | _ => some none

end PointBuy.Formula
