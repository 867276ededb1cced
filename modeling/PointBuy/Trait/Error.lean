import PointBuy.Declaration.Basic
import PointBuy.Formula.Error

/-!
# Faults of definitions

Why a declaration that is well formed still defines no trait.
-/

namespace PointBuy

/-- Why a declaration defines no trait. -/
inductive BuildError where
  /-- A name with a point where none is allowed. -/
  | dottedName
  /-- A change of another trait that stands in no block. -/
  | modifierOutside (operator : Declaration.Operator)
  /-- A description of the trait itself, with a point. -/
  | noSubproperty (name sub : String)
  /-- A change of something other than the level or the cost of a trait. -/
  | unmodifiable (part : String)
  /-- A block inside a change of another trait. -/
  | partsOfModifier
  /-- A category that is neither true nor false. -/
  | categoryValue
  | illegalOperator (operator : Declaration.Operator)
  | expectedSkillName (text : String)
  /-- A category that is no skill. -/
  | categoryOfOther
  | formula (fault : FormulaError)
deriving DecidableEq

namespace BuildError

/-- The wording, without the location. -/
def message : BuildError → String
  | dottedName => "No '.' allowed in names"
  | modifierOutside operator => s!"expected ':', '=', or ':='. got '{operator.text}'"
  | noSubproperty name sub => s!"property '{name}' has no subproperty '{sub}'"
  | unmodifiable part => s!"can't modify the '{part}' of another trait"
  | partsOfModifier => "Subitems not allowed here"
  | categoryValue => "category can only be 'true' or 'false'"
  | illegalOperator operator => s!"illegal operator '{operator.text}' for property"
  | expectedSkillName text => s!"expected name of skill. got '{text}'"
  | categoryOfOther => "only skills can be categories"
  | formula fault => fault.message

/-- The code that a log line carries. -/
def code : BuildError → String
  | dottedName | modifierOutside _ | noSubproperty .. | unmodifiable _ | partsOfModifier
  | categoryValue | illegalOperator _ => "E025"
  | expectedSkillName _ => "E040"
  | categoryOfOther => "E061"
  | formula fault => fault.code

end BuildError

/-- The wording of a fault in a definition, with its location. -/
def Located.buildMessage (e : Located BuildError) : String :=
  e.fault.message ++ " " ++ e.location.text

end PointBuy
