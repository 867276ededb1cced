import PointBuy.Declaration.Basic
import PointBuy.Trait.Error

/-!
# Faults of databases

Why sources do not make up a database. The traits that they define may not fit together, which the
analysis of the database finds; or there are too many of them, or one is defined twice or not at
all. A fault that another stage found is passed on with its own wording and code.
-/

namespace PointBuy

/-- The sorts of value that a formula can have. -/
inductive ValueSort where
  | integer
  | boolean
  | percent
deriving DecidableEq, Inhabited

/-- The word for a sort. -/
def ValueSort.text : ValueSort → String
  | integer => "integer"
  | boolean => "boolean"
  | percent => "percent"

/-- The ways in which traits rest on one another. -/
inductive Relation where
  /-- Skills rest on the skills that they inherit from. -/
  | inheritance
  /-- Attributes rest on the attributes that they are computed from. -/
  | functions
  /-- Levels rest on the levels that they are computed from. -/
  | evaluation
deriving DecidableEq, Inhabited

/-- What a cycle in a relation is called. -/
def Relation.cycleName : Relation → String
  | inheritance => "recursive skill inheritance"
  | functions => "recursive functions"
  | evaluation => "circular dependency"

/-- What can be wrong with a trait among others. -/
inductive AnalysisFault where
  | expectedSort (sort : ValueSort) (got : Formula)
  | illegalDivision (got : Formula)
  | strayComma (got : Formula)
  | undefinedName (name : String)
  /-- A change of the level of a trait that has none. -/
  | noLevel
  /-- A change of the cost of a trait that has none. -/
  | noCost
  | parentNotSkill (parent : String)
  /-- A category below a skill that is none. -/
  | categorySpecialty
  /-- A specialty of a specialty of a skill that is no category. -/
  | nestedSpecialty
  /-- A trait that rests on others over too many steps. -/
  | tooDeep (name : String)
deriving DecidableEq

namespace AnalysisFault

/-- The wording, without the location. -/
def message : AnalysisFault → String
  | expectedSort sort got => s!"expected {sort.text}. got '{got.render}'"
  | illegalDivision got =>
    s!"can only divide by a non-zero integer literal. got '{got.render}'"
  | strayComma got => s!"',' is not allowed here. got '{got.render}'"
  | undefinedName name => s!"Name not found '{name}'"
  | noLevel => "Cannot modify the level of a trait with no level"
  | noCost => "Cannot modify the cost of a trait with no cost"
  | parentNotSkill parent => s!"Parent is not a skill '{parent}'"
  | categorySpecialty => "Optional specialties cannot be categories"
  | nestedSpecialty => "Optional specialties cannot be based on optional specialties"
  | tooDeep name =>
    s!"dependencies of '{name}' nest deeper than {Limits.dependencyDepth}"

/-- The code that a log line carries. -/
def code : AnalysisFault → String
  | expectedSort .. | illegalDivision _ | strayComma _ => "E070"
  | undefinedName _ => "E060"
  | noLevel | noCost | parentNotSkill _ | categorySpecialty | nestedSpecialty => "E061"
  | tooDeep _ => "E080"

/-- The kind of fault, as a log line names it. -/
def kind : AnalysisFault → String
  | expectedSort .. | illegalDivision _ | strayComma _ => "TypeError"
  | undefinedName _ => "UndefinedName"
  | noLevel | noCost | parentNotSkill _ | categorySpecialty | nestedSpecialty => "WrongKind"
  | tooDeep _ => "DependencyTooDeep"

end AnalysisFault

/-- Why traits do not fit together. -/
inductive AnalysisError where
  | single (fault : Located AnalysisFault)
  /-- Traits that rest on one another in a circle, with their locations. -/
  | cycle (relation : Relation) (members : List (String × Location))
deriving DecidableEq

namespace AnalysisError

/-- The members of a cycle with their locations. -/
def listing (members : List (String × Location)) : String :=
  String.intercalate ", " (members.map fun member => member.1 ++ " " ++ member.2.text)

/-- The wording. -/
def message : AnalysisError → String
  | single e => e.fault.message ++ " " ++ e.location.text
  | cycle relation members => relation.cycleName ++ ": " ++ listing members

/-- The wording in a log, where a long cycle is cut. -/
def logMessage : AnalysisError → String
  | single e => (single e).message
  | cycle relation members =>
    if Limits.cyclePath < members.length then
      s!"{(cycle relation (members.take Limits.cyclePath)).message}, ... "
        ++ s!"({members.length - Limits.cyclePath} more)"
    else (cycle relation members).message

/-- The place of the fault. -/
def location? : AnalysisError → Option Location
  | single e => some e.location
  | cycle _ members => members.head?.map Prod.snd

/-- The code that a log line carries. -/
def code : AnalysisError → String
  | single e => e.fault.code
  | cycle .. => "E080"

/-- The kind of fault, as a log line names it. -/
def kind : AnalysisError → String
  | single e => e.fault.kind
  | cycle .. => "CircularDefinition"

end AnalysisError

/-- Why sources do not make up a database. -/
inductive LoadError where
  | declaration (fault : Located DeclarationError)
  | definition (fault : Located BuildError)
  | analysis (fault : AnalysisError)
  /-- A name that was defined before, with both locations. -/
  | duplicateName (name : String) (first second : Location)
  | missingCoreAttribute (name : String)
  /-- A trait for which there is no room. -/
  | tooManyTraits (location : Location)
  | tooManySources (count : Nat)
deriving DecidableEq

/-- The kinds of faults that keep sources from making up a database. -/
inductive FaultKind where
  /-- A fault in the form of declarations and definitions. -/
  | form
  | lexical
  | formula
  | sort
  | undefinedName
  | wrongKind
  | duplicateName
  | circularDefinition
  | missingCoreAttribute
  | limitExceeded
deriving DecidableEq, Inhabited

/-- What a kind of fault is called. -/
def FaultKind.text : FaultKind → String
  | form => "SyntaxError"
  | lexical => "LexError"
  | formula => "FormulaSyntaxError"
  | sort => "TypeError"
  | undefinedName => "UndefinedNameError"
  | wrongKind => "WrongKindError"
  | duplicateName => "DuplicateNameError"
  | circularDefinition => "CircularDefinitionError"
  | missingCoreAttribute => "MissingCoreAttributeError"
  | limitExceeded => "LimitExceededError"

/-- The kind of a fault in a definition. -/
def BuildError.faultKind : BuildError → FaultKind
  | dottedName | modifierOutside _ | noSubproperty .. | unmodifiable _ | partsOfModifier
  | categoryValue | illegalOperator _ => .form
  | expectedSkillName _ => .formula
  | categoryOfOther => .wrongKind
  | formula fault => if fault.isLexical then .lexical else .formula

/-- The kind of what can be wrong with a trait among others. To rest on others over too many steps
counts as resting on itself. -/
def AnalysisFault.faultKind : AnalysisFault → FaultKind
  | expectedSort .. | illegalDivision _ | strayComma _ => .sort
  | undefinedName _ => .undefinedName
  | noLevel | noCost | parentNotSkill _ | categorySpecialty | nestedSpecialty => .wrongKind
  | tooDeep _ => .circularDefinition

/-- The kind of what an analysis finds. -/
def AnalysisError.faultKind : AnalysisError → FaultKind
  | single e => e.fault.faultKind
  | cycle .. => .circularDefinition

namespace LoadError

/-- The kind of a fault. -/
def faultKind : LoadError → FaultKind
  | declaration _ => .form
  | definition fault => fault.fault.faultKind
  | analysis fault => fault.faultKind
  | duplicateName .. => .duplicateName
  | missingCoreAttribute _ => .missingCoreAttribute
  | tooManyTraits _ | tooManySources _ => .limitExceeded

/-- The wording. -/
def message : LoadError → String
  | declaration fault => fault.declarationMessage
  | definition fault => fault.buildMessage
  | analysis fault => fault.message
  | duplicateName name first second =>
    s!"duplicate definitions of \"{name}\". {first.text}, {second.text}"
  | missingCoreAttribute name => s!"missing definition of core attribute \"{name}\""
  | tooManyTraits location =>
    s!"database would hold more than {Limits.traits} traits {location.text}"
  | tooManySources count => s!"{count} sources given (max {Limits.sources})"

/-- The place of the fault, if it has one. -/
def location? : LoadError → Option Location
  | declaration fault => some fault.location
  | definition fault => some fault.location
  | analysis fault => fault.location?
  | duplicateName _ _ second => some second
  | tooManyTraits location => some location
  | missingCoreAttribute _ | tooManySources _ => none

/-- The code that a log line carries. -/
def code : LoadError → String
  | declaration fault => fault.fault.code
  | definition fault => fault.fault.code
  | analysis fault => fault.code
  | duplicateName .. => "E050"
  | missingCoreAttribute _ => "E051"
  | tooManyTraits _ | tooManySources _ => "E052"

end LoadError
end PointBuy
