import PointBuy.Location
import PointBuy.Limits

/-!
# Declarations

The entries of a trait database as they are written: a name, an operator, the text of a formula,
perhaps a comment, and perhaps a block of further declarations inside.
-/

namespace PointBuy

/-- A text with the name of the place it comes from. -/
structure Source where
  path : String
  text : String
deriving Inhabited

namespace Declaration

/-- What a declaration does with its formula. -/
inductive Operator where
  /-- `:` gives a trait its cost, or a skill its base. -/
  | define
  /-- `:=` names the skill that a skill inherits from. -/
  | inherit
  /-- `=` computes an attribute. -/
  | function
  /-- `+=` raises another trait. -/
  | addTo
  /-- `-=` lowers another trait. -/
  | subtractFrom
deriving DecidableEq, Inhabited

/-- The spelling of an operator. -/
def Operator.text : Operator → String
  | define => ":"
  | inherit => ":="
  | function => "="
  | addTo => "+="
  | subtractFrom => "-="

/-- All operators, none before another one that it starts. -/
def Operator.all : List Operator := [inherit, define, function, addTo, subtractFrom]

/-- Whether an operator changes another trait. -/
def Operator.isModifier : Operator → Bool
  | addTo | subtractFrom => true
  | define | inherit | function => false

/-- The names that no declaration may take. -/
def reservedNames : List String := ["level", "cost", "none"]

/-- Whether a name is reserved. -/
def isReserved (name : String) : Bool := reservedNames.contains name

end Declaration

/-- A declaration with everything in its block. -/
structure Declaration where
  name : String
  /-- What is written after the point in `name.sub`. -/
  sub : Option String
  operator : Declaration.Operator
  formula : String
  comment : Option String
  location : Location
  /-- The declarations of its block. -/
  parts : List Declaration
deriving Inhabited

/-- The name of a declaration as it is written. -/
def Declaration.fullName (d : Declaration) : String :=
  match d.sub with
  | some sub => d.name ++ "." ++ sub
  | none => d.name

/-- What can be wrong with the text of declarations. -/
inductive DeclarationError where
  | malformed
  | unterminatedBlock (name : String)
  | duplicateComment
  | reservedName (name : String)
  | blockTooDeep (depth : Nat)
  | lineTooLong (length : Nat)
deriving DecidableEq

namespace DeclarationError

/-- The wording, without the location. -/
def message : DeclarationError → String
  | malformed => "syntax problem"
  | unterminatedBlock name => s!"block opened by '{name}' is never closed"
  | duplicateComment => "only one comment allowed per declaration"
  | reservedName name => s!"name '{name}' is reserved"
  | blockTooDeep depth => s!"blocks nested {depth} deep (max {Limits.blockDepth})"
  | lineTooLong length => s!"line is {length} characters long (max {Limits.lineLength})"

/-- The code that a log line carries. -/
def code : DeclarationError → String
  | malformed | lineTooLong _ => "E020"
  | unterminatedBlock _ => "E021"
  | duplicateComment => "E022"
  | reservedName _ => "E023"
  | blockTooDeep _ => "E024"

end DeclarationError

/-- The wording of a fault in a source, with its location. -/
def Located.declarationMessage (e : Located DeclarationError) : String :=
  e.fault.message ++ " " ++ e.location.text

end PointBuy
