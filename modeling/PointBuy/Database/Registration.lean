import PointBuy.Database.Basic
import PointBuy.Database.Error
import PointBuy.Declaration.Outline
import PointBuy.Trait.Builder

/-!
# Registering traits

Traits enter a database one after another, each under a name of its own and while there is room.
What has entered stays, also when the next one is refused.

## Main definitions

* `Database.refusal?` : why a trait cannot enter.
* `Database.registerAll` : traits up to the first that is refused.
* `Database.addSource` : the traits of a source, as far as they can enter.
-/

namespace PointBuy

/-- The traits that a source defines. -/
def Source.traits (source : Source) : Except LoadError (List Trait) := do
  let declarations ← source.declarations.mapError .declaration
  (Trait.ofDeclarations declarations).mapError .definition

namespace Database

/-- Why a trait cannot enter. -/
def refusal? (db : Database) (t : Trait) : Option LoadError :=
  match db.find? t.name with
  | some first => some (.duplicateName t.name first.location t.location)
  | none => if Limits.traits ≤ db.size then some (.tooManyTraits t.location) else none

/-- Enters a trait at the end, whether or not it may. -/
def push (db : Database) (t : Trait) : Database :=
  let place := db.size
  { traits := db.traits.push t, index := db.index.insert t.name place }

/-- Enters a trait under its name. -/
def register (db : Database) (t : Trait) : Except LoadError Database :=
  match db.refusal? t with
  | some e => .error e
  | none => .ok (db.push t)

/-- Enters traits up to the first that is refused, and says why it is. -/
def registerAll : Database → List Trait → Database × Option LoadError
  | db, [] => (db, none)
  | db, t :: rest =>
    match db.refusal? t with
    | some e => (db, some e)
    | none => registerAll (db.push t) rest

/-- Enters the traits of a source, and says how many it defines or what is wrong. -/
def addSource (db : Database) (source : Source) : Database × Except LoadError Nat :=
  match source.traits with
  | .error e => (db, .error e)
  | .ok traits =>
    match db.registerAll traits with
    | (db, none) => (db, .ok traits.length)
    | (db, some e) => (db, .error e)

/-- Enters the traits of all sources. -/
def addSources : Database → List Source → Except LoadError Database
  | db, [] => .ok db
  | db, source :: rest =>
    match db.addSource source with
    | (db, .ok _) => addSources db rest
    | (_, .error e) => .error e

/-- Checks that the database defines given names. -/
def requireNames (db : Database) (names : List String) : Except LoadError Unit :=
  match names.find? fun name => (db.indexOf? name).isNone with
  | some name => .error (.missingCoreAttribute name)
  | none => .ok ()

end Database
end PointBuy
