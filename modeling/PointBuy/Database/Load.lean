import PointBuy.Database.Dependency
import PointBuy.Database.Effects
import PointBuy.Database.Inheritance
import PointBuy.Database.Registration

/-!
# Loading a database

All sources are read before any trait is checked against the others, so that they may refer to one
another in any order. A database is loaded as a whole or not at all.

## Main definitions

* `Database.analyze` : checks the traits of a database against one another, and links them.
* `Database.load` : the database of some sources.
-/

namespace PointBuy

/-- What is asked of a database beyond its consistency. -/
structure LoadPreferences where
  /-- The names that it has to define. -/
  coreNames : List String
  /-- Whether some traits are shown in a way of their own. -/
  tweaksPresentation : Bool
deriving DecidableEq, Inhabited

namespace Database

/-- Notes the places of all parents. -/
def withParents (db : Database) : Except AnalysisError Database :=
  match db.resolveParents with
  | (db, none) => .ok db
  | (_, some e) => .error e

/-- Checks the traits against one another, and links them. -/
def analyze (db : Database) : Except AnalysisError Database := do
  let links ← db.effectLinks
  let db ← (db.link links).withParents
  db.checkCycles .inheritance
  db.checkCycles .functions
  db.checkSpecialties
  db.checkCycles .evaluation
  return db

/-! ### Presentation -/

/-- The attributes that are shown as dice. -/
def diceNames : List String := ["Thrust", "Swing"]

/-- The attribute that holds four times what is shown. -/
def quartersName : String := "Basic Speed x4"

/-- The name that it is shown under. -/
def quartersShownAs : String := "Basic Speed"

/-- A trait in its way of being shown. -/
def tweak (t : Trait) : Trait :=
  let t := if diceNames.contains t.name then { t with format := .dice } else t
  let t :=
    if t.name = quartersName then { t with shownAs := some quartersShownAs, format := .quarters }
    else t
  match t.kind with
  | .plainAdvantage _ => { t with format := .yesNo }
  | .skill .. | .inheritedSkill .. | .leveledAdvantage _ | .attribute _ => t

/-- The database with each trait in its way of being shown. -/
def withTweaks (db : Database) : Database := { db with traits := db.traits.map tweak }

/-! ### The whole way -/

/-- Refuses too many sources. -/
def checkSourceCount (sources : List Source) : Except LoadError Unit :=
  if Limits.sources < sources.length then .error (.tooManySources sources.length) else .ok ()

/-- The database as it is asked for. -/
def present (db : Database) (preferences : LoadPreferences) : Database :=
  if preferences.tweaksPresentation then db.withTweaks else db

/-- The database of some sources. -/
def load (sources : List Source) (preferences : LoadPreferences) : Except LoadError Database := do
  checkSourceCount sources
  let db ← empty.addSources sources
  db.requireNames preferences.coreNames
  let db ← db.analyze.mapError .analysis
  return db.present preferences

end Database
end PointBuy
