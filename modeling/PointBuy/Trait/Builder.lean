import PointBuy.Formula.Parser
import PointBuy.Text.Blank
import PointBuy.Trait.Basic
import PointBuy.Trait.Error

/-!
# From declarations to traits

The operator of a declaration and the end of its formula say what it defines: a difficulty letter
makes it a skill, and a cost that mentions `level` is bought in levels. The parts of its block
describe the trait, or change other traits, or are remarks.

## Main definition

* `Trait.ofDeclaration` : the trait that a declaration defines.
-/

namespace PointBuy.Trait

/-- The result of building, or a fault at a location. -/
abbrev Building := Except (Located BuildError)

/-- The formula of a declaration. -/
def parseFormula (location : Location) (text : String) : Building Formula :=
  (Formula.parse text).mapError fun fault => ⟨.formula fault, location⟩

/-- A formula without the difficulty letter at its end. The letter follows a blank, and something
stands before the blank. -/
def splitDifficulty? (text : String) : Option (String × Difficulty) :=
  match text.toList.reverse with
  | letter :: ' ' :: c :: rest =>
    (Difficulty.ofLetter? letter).map fun difficulty =>
      (String.ofList (' ' :: c :: rest).reverse, difficulty)
  | _ => none

/-- What a declaration with the operator `:` defines. -/
def definedKind (location : Location) (text : String) : Building TraitKind :=
  match splitDifficulty? text with
  | some (text, difficulty) => do
    let base ← parseFormula location text
    return .skill difficulty base false
  | none => do
    let cost ← parseFormula location text
    return if cost.mentionsLevel then .leveledAdvantage cost else .plainAdvantage cost

/-- What a declaration with the operator `:=` defines. -/
def inheritedKind (location : Location) (text : String) : Building TraitKind := do
  let (text, difficulty) := match splitDifficulty? text with
    | some (text, difficulty) => (text, some difficulty)
    | none => (text, none)
  match ← parseFormula location text with
  | .trait parent => return .inheritedSkill parent none difficulty false
  | _ => throw ⟨.expectedSkillName (Text.trimmed text), location⟩

/-- What a declaration outside all blocks defines, its block left aside. -/
def outer (d : Declaration) : Building Trait := do
  if d.sub.isSome then throw ⟨.dottedName, d.location⟩
  let kind ← match d.operator with
    | .define => definedKind d.location d.formula
    | .inherit => inheritedKind d.location d.formula
    | .function => TraitKind.attribute <$> parseFormula d.location d.formula
    | .addTo | .subtractFrom => throw ⟨.modifierOutside d.operator, d.location⟩
  return { Trait.new d.name kind d.location with comment := d.comment }

/-- The parts that describe the trait whose block they stand in. -/
def descriptiveNames : List String := ["category", "default", "requires"]

/-- A trait with a part of its block that describes it. -/
def describe (t : Trait) (part : Declaration) : Building Trait := do
  if let some sub := part.sub then throw ⟨.noSubproperty part.name sub, part.location⟩
  let formula ← parseFormula part.location part.formula
  if part.name ≠ "category" then return t
  match formula with
  | .boolean value =>
    match t.kind with
    | .skill difficulty base _ => return { t with kind := .skill difficulty base value }
    | .inheritedSkill parent parentIndex difficulty _ =>
      return { t with kind := .inheritedSkill parent parentIndex difficulty value }
    | .leveledAdvantage _ | .plainAdvantage _ | .attribute _ =>
      throw ⟨.categoryOfOther, part.location⟩
  | _ => throw ⟨.categoryValue, part.location⟩

/-- What a change of another trait changes, and by which formula. A lowered level is a raised one
with the formula negated. -/
def changeOf (part : Declaration) (lowers : Bool) (formula : Formula) :
    Building (EffectKind × Formula) :=
  match part.sub with
  | none => return (.level, if lowers then .negate formula else formula)
  | some sub =>
    if sub = "cost" then return (.cost (if lowers then .lower else .raise), formula)
    else throw ⟨.unmodifiable sub, part.location⟩

/-- A trait with a part of its block that changes another trait. -/
def change (t : Trait) (part : Declaration) (lowers : Bool) : Building Trait := do
  let formula ← parseFormula part.location part.formula
  let (kind, formula) ← changeOf part lowers formula
  if let some nested := part.parts.head? then throw ⟨.partsOfModifier, nested.location⟩
  let effect : Effect :=
    { owner := t.name, target := part.name, kind, formula, location := part.location }
  return { t with effects := t.effects.push effect }

/-- A trait with one part of its block. -/
def addPart (t : Trait) (part : Declaration) : Building Trait :=
  if descriptiveNames.contains part.name then describe t part
  else
    match part.operator with
    | .addTo => change t part false
    | .subtractFrom => change t part true
    | .define => if part.sub.isSome then throw ⟨.dottedName, part.location⟩ else return t
    | .inherit | .function => throw ⟨.illegalOperator part.operator, part.location⟩

/-- The trait that a declaration defines. -/
def ofDeclaration (d : Declaration) : Building Trait := do
  d.parts.foldlM addPart (← outer d)

/-- The traits that declarations define. -/
def ofDeclarations (ds : List Declaration) : Building (List Trait) := ds.mapM ofDeclaration

end PointBuy.Trait
