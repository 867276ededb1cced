import PointBuy.Database.Basic
import PointBuy.Database.Error
import PointBuy.Graph
import PointBuy.Limits

/-!
# What traits rest on

Three graphs on the places of a database: each skill points to the one it inherits from; each
attribute to the attributes that its formula mentions; and each trait to all traits whose levels its
own level is computed from. None of them may have a cycle.

## Main definitions

* `Database.graph` : the graph of a relation.
* `Database.checkCycles` : refuses a database with a cycle.
-/

namespace PointBuy.Database

/-- Skills point to what they inherit from. -/
def inheritanceGraph (db : Database) : Graph := db.traits.map fun t => t.parentIndex?.toList

/-- Whether there is an attribute at a place. -/
def isAttribute (db : Database) (i : Nat) : Bool :=
  match (db.trait? i).map Trait.kind with
  | some (.attribute _) => true
  | _ => false

/-- Attributes point to the attributes that they are computed from. -/
def functionGraph (db : Database) : Graph :=
  db.traits.map fun t =>
    match t.kind with
    | .attribute formula => ((db.placesIn formula).filter db.isAttribute).eraseDups
    | .skill .. | .inheritedSkill .. | .leveledAdvantage _ | .plainAdvantage _ => []

/-- The formula that the level of a trait starts from. A skill takes it from the end of its chain of
inheritance, and an advantage has none. -/
def baseFormula? (db : Database) (i : Nat) (t : Trait) : Option Formula :=
  match t.kind with
  | .attribute formula => some formula
  | .skill .. | .inheritedSkill .. => do (← db.trait? (← db.inheritanceRoot? i)).ownFormula?
  | .leveledAdvantage _ | .plainAdvantage _ => none

/-- The formulas that the level of a trait is computed from. -/
def levelFormulas (db : Database) (i : Nat) (t : Trait) : List Formula :=
  let changes := t.effectedBy.toList.filterMap fun ref =>
    match db.effect? ref with
    | some effect => if effect.kind = .level then some effect.formula else none
    | none => none
  (db.baseFormula? i t).toList ++ changes

/-- Traits point to those whose levels their own level is computed from. -/
def evaluationGraph (db : Database) : Graph :=
  db.traits.mapIdx fun i t => ((db.levelFormulas i t).flatMap db.placesIn).eraseDups

/-- The graph of a relation. -/
def graph (db : Database) : Relation → Graph
  | .inheritance => db.inheritanceGraph
  | .functions => db.functionGraph
  | .evaluation => db.evaluationGraph

/-- What a finding in the graph of a relation says about the traits. -/
def findingError (db : Database) (relation : Relation) : Graph.Finding → AnalysisError
  | .tooDeep node =>
    let t := (db.trait? node).getD default
    .single ⟨.tooDeep t.name, t.location⟩
  | .cycle members =>
    .cycle relation ((members.filterMap db.trait?).map fun t => (t.name, t.location))

/-- Refuses a database in which a relation has a cycle or reaches too deep. -/
def checkCycles (db : Database) (relation : Relation) : Except AnalysisError Unit :=
  ((db.graph relation).search Limits.dependencyDepth).mapError (db.findingError relation)

end PointBuy.Database
