import PointBuy.Database.Basic
import PointBuy.Database.Error

/-!
# The sorts of formulas

A formula stands for an integer, for a truth or for a percentage, and which of them it may stand for
depends on the traits that it mentions and on the trait that it belongs to. A skill counts as an
integer, its level, and as a truth, whether it has one.

## Main definition

* `Scope.check` : whether a formula has a given sort.
-/

namespace PointBuy

/-- What the formulas of a trait may mention. -/
structure Scope where
  database : Database
  /-- The trait that the formulas belong to. -/
  owner : Trait

namespace Scope

/-- Whether a trait of that kind can stand for a value of a sort. -/
def admits : ValueSort → TraitKind → Bool
  | .integer, .plainAdvantage _ => false
  | .integer, _ => true
  | .boolean, .leveledAdvantage _ | .boolean, .attribute _ => false
  | .boolean, _ => true
  | .percent, _ => false

/-- Checks the name of a trait. A percentage has no name. -/
def checkName (scope : Scope) (sort : ValueSort) (name : String) : Except AnalysisFault Unit :=
  if sort = .percent then .error (.expectedSort sort (.trait name))
  else
    match scope.database.find? name with
    | none => .error (.undefinedName name)
    | some t => if admits sort t.kind then .ok () else .error (.expectedSort sort (.trait name))

/-- Whether the trait has purchased levels that its formulas can mention. -/
def hasPurchases (scope : Scope) : Bool :=
  match scope.owner.kind with
  | .attribute _ => false
  | .skill .. | .inheritedSkill .. | .leveledAdvantage _ | .plainAdvantage _ => true

/-- Checks a literal, which has one sort. -/
def checkLiteral (own sort : ValueSort) (literal : Formula) : Except AnalysisFault Unit :=
  if sort = own then .ok () else .error (.expectedSort sort literal)

/-- Checks that a formula has a sort. A percentage is a literal, or the product of one and of an
integer that mentions the purchased levels, in either order. -/
def check (scope : Scope) (sort : ValueSort) : Formula → Except AnalysisFault Unit
  | .integer value => checkLiteral .integer sort (.integer value)
  | .percent hundredths => checkLiteral .percent sort (.percent hundredths)
  | .boolean value => checkLiteral .boolean sort (.boolean value)
  | .level =>
    if sort ≠ .integer then .error (.expectedSort sort .level)
    else if scope.hasPurchases then .ok ()
    else .error (.undefinedName "level")
  | .trait name => scope.checkName sort name
  | .negate operand =>
    match sort with
    | .integer => scope.check .integer operand
    | .boolean | .percent => .error (.expectedSort sort (.negate operand))
  | .binary op left right =>
    match op, sort with
    | .comma, _ => .error (.strayComma (.binary op left right))
    | .add, .integer | .subtract, .integer | .multiply, .integer
    | .less, .boolean | .lessEqual, .boolean | .greater, .boolean | .greaterEqual, .boolean => do
      scope.check .integer left
      scope.check .integer right
    | .divide, .integer => do
      scope.check .integer left
      match right with
      | .integer divisor =>
        if divisor.val = 0 then .error (.illegalDivision (.binary op left right)) else .ok ()
      | _ => .error (.illegalDivision (.binary op left right))
    | .and, .boolean | .or, .boolean => do
      scope.check .boolean left
      scope.check .boolean right
    | .multiply, .percent =>
      if left.mentionsLevel && (scope.check .integer left).toBool
            && (scope.check .percent right).toBool
          || right.mentionsLevel && (scope.check .integer right).toBool
            && (scope.check .percent left).toBool then
        .ok ()
      else .error (.expectedSort sort (.binary op left right))
    | _, _ => .error (.expectedSort sort (.binary op left right))
  | .conditional condition whenTrue whenFalse =>
    match sort with
    | .percent => .error (.expectedSort sort (.conditional condition whenTrue whenFalse))
    | .integer | .boolean => do
      scope.check .boolean condition
      scope.check sort whenTrue
      scope.check sort whenFalse
/-- Checks that a formula at a location has a sort. -/
def checkAt (scope : Scope) (location : Location) (sort : ValueSort) (formula : Formula) :
    Except AnalysisError Unit :=
  (scope.check sort formula).mapError fun fault => .single ⟨fault, location⟩

end Scope
end PointBuy
