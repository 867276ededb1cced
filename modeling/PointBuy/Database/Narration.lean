import PointBuy.Database.Load
import PointBuy.Journal.Narration

/-!
# Loading, told

The same steps as in loading a database, each of which tells what it is about to do, what it has
achieved, or what is wrong.

## Main statements

* `Database.gives_addSourceTold` : telling does not change what a source adds.
* `Database.gives_loadTold` : telling does not change the loaded database.
-/

namespace PointBuy

open Narration (debug info success withSource)

/-- Tells of a fault. -/
def LoadError.complain (e : LoadError) (facts : List (String × String)) : Narration Unit :=
  Narration.error e.code e.message e.location? facts

/-- Tells of a fault that the analysis found. -/
def AnalysisError.complain (e : AnalysisError) : Narration Unit :=
  Narration.error e.code e.logMessage e.location? [("error_type", e.kind)]

/-! ### Sources -/

/-- The traits that declarations define, told. -/
def Trait.ofDeclarationsTold : List Declaration → Attempt LoadError (List Trait)
  | [] => pure []
  | d :: rest => do
    let t ← Attempt.ofExcept (fun e => e.complain [("trait", d.name)])
      ((Trait.ofDeclaration d).mapError .definition)
    return t :: (← ofDeclarationsTold rest)

/-- The traits that a source defines, told. -/
def Source.traitsTold (source : Source) : Attempt LoadError (List Trait) := do
  debug "Parsing declarations" [("source", source.path)]
  let declarations ← Attempt.ofExcept (fun e => e.complain [])
    (source.declarations.mapError LoadError.declaration)
  success "I020" "Declarations parsed"
    [("source", source.path), ("declarations", toString declarations.length)]
  let traits ← Trait.ofDeclarationsTold declarations
  success "I030" "Trait definitions built" [("traits", toString traits.length)]
  return traits

namespace Database

/-- Tells why a trait was refused. Nothing is told of a database that is full. -/
def refusalTold (e : LoadError) : Narration Unit :=
  match e with
  | .tooManyTraits _ => pure ()
  | _ => e.complain []

/-- Enters traits, told. -/
def registerAllTold (db : Database) (source : Source) (traits : List Trait) :
    Narration (Database × Except LoadError Nat) :=
  match db.registerAll traits with
  | (db, none) => do
    debug "Source registered" [("source", source.path), ("traits", toString traits.length)]
    return (db, .ok traits.length)
  | (db, some e) => do
    refusalTold e
    return (db, .error e)

/-- Enters the traits of the source of the given number, told. -/
def addSourceTold (db : Database) (source : Source) (number : Nat) :
    Narration (Database × Except LoadError Nat) :=
  withSource ⟨source.path, number⟩ do
    match ← source.traitsTold.run with
    | .error e => return (db, .error e)
    | .ok traits => db.registerAllTold source traits

/-- Enters the traits of sources, of which the first has the given number, told. -/
def addSourcesTold : Database → Nat → List Source → Attempt LoadError Database
  | db, _, [] => pure db
  | db, number, source :: rest => do
    match ← monadLift (db.addSourceTold source number) with
    | (db, .ok _) => db.addSourcesTold (number + 1) rest
    | (_, .error e) => throw e

/-- Checks that the database defines given names, told. -/
def requireNamesTold (db : Database) (names : List String) : Attempt LoadError Unit :=
  Attempt.ofExcept (fun e => e.complain []) (db.requireNames names)

/-! ### Analysis -/

/-- Tells of a cycle that was found. -/
def cycleTold (relation : Relation) : AnalysisError → Narration Unit
  | .cycle _ members =>
    info "Cycle found"
      [("graph", relation.cycleName), ("cycle_length", toString members.length)]
  | .single _ => pure ()

/-- Refuses a database in which a relation has a cycle or reaches too deep, told. -/
def checkCyclesTold (db : Database) (relation : Relation) : Attempt AnalysisError Unit := do
  let graph := db.graph relation
  debug "Searching for cycles"
    [("graph", relation.cycleName), ("nodes", toString graph.size),
      ("edges", toString graph.edgeCount)]
  Attempt.ofExcept (cycleTold relation) (db.checkCycles relation)

/-- The steps of the analysis, told. -/
def analysisTold (db : Database) : Attempt AnalysisError Database := do
  let silently (_ : AnalysisError) : Narration Unit := pure ()
  debug "Step 1: Checking formula sorts and effect targets" []
  let links ← Attempt.ofExcept silently db.effectLinks
  success "I070" "Formula type checking passed" [("effects", toString links.length)]
  debug "Step 2: Resolving inherited skill parents" []
  let db ← Attempt.ofExcept silently (db.link links).withParents
  debug "Step 3: Checking for circular definitions" []
  db.checkCyclesTold .inheritance
  db.checkCyclesTold .functions
  Attempt.ofExcept silently db.checkSpecialties
  db.checkCyclesTold .evaluation
  success "I071" "No circular definitions found" []
  return db

/-- Checks the traits against one another and links them, told. -/
def analyzeTold (db : Database) : Attempt LoadError Database := do
  info "Starting semantic analysis" [("traits", toString db.size)]
  match ← monadLift db.analysisTold.run with
  | .ok db => return db
  | .error e =>
    e.complain
    throw (.analysis e)

/-! ### The whole way -/

/-- The database of some sources, told. -/
def loadTold (sources : List Source) (preferences : LoadPreferences) :
    Attempt LoadError Database := do
  info "Loading trait database" [("sources", toString sources.length)]
  Attempt.ofExcept (fun e => e.complain []) (checkSourceCount sources)
  let db ← empty.addSourcesTold 0 sources
  db.requireNamesTold preferences.coreNames
  let db ← db.analyzeTold
  let db := db.present preferences
  success "I080" "Trait database loaded"
    [("sources", toString sources.length), ("traits", toString db.size)]
  return db

end Database

/-! ### Telling changes nothing -/

open Attempt (Gives)

theorem Trait.gives_ofDeclarationsTold (declarations : List Declaration) :
    Gives (Trait.ofDeclarationsTold declarations)
      ((Trait.ofDeclarations declarations).mapError .definition) := by
  induction declarations with
  | nil => exact .pure []
  | cons d rest ih =>
    unfold Trait.ofDeclarationsTold
    unfold Trait.ofDeclarations at ih ⊢
    rw [List.mapM_cons]
    cases hd : Trait.ofDeclaration d with
    | error e => exact Gives.bind_error (.ofExcept _ _)
    | ok t =>
      refine Gives.bind (.ofExcept _ (.ok t)) ?_
      cases hrest : rest.mapM Trait.ofDeclaration with
      | error e =>
        rw [hrest] at ih
        exact Gives.bind_error ih
      | ok ts =>
        rw [hrest] at ih
        exact Gives.bind ih (.pure _)

theorem Source.gives_traitsTold (source : Source) :
    Gives source.traitsTold source.traits := by
  unfold Source.traitsTold Source.traits
  refine Gives.bind (.lift _) (Gives.andThen (.ofExcept _ _) fun declarations => ?_)
  refine Gives.bind (.lift _) ?_
  have h := Trait.gives_ofDeclarationsTold declarations
  cases hd : (Trait.ofDeclarations declarations).mapError LoadError.definition with
  | error e =>
    rw [hd] at h
    exact h.bind_error
  | ok traits =>
    rw [hd] at h
    exact h.bind (Gives.bind (.lift _) (.pure _))

namespace Database

theorem gives_registerAllTold (db : Database) (source : Source) (traits : List Trait) :
    (db.registerAllTold source traits).Gives
      (match db.registerAll traits with
        | (db, none) => (db, .ok traits.length)
        | (db, some e) => (db, .error e)) := by
  unfold registerAllTold
  split <;> exact .bind (.unit _) (.pure _)

theorem gives_addSourceTold (db : Database) (source : Source) (number : Nat) :
    (db.addSourceTold source number).Gives (db.addSource source) := by
  unfold addSourceTold addSource
  refine .withSource _ (.bind (source.gives_traitsTold) ?_)
  cases source.traits with
  | error e => exact .pure _
  | ok traits => exact gives_registerAllTold db source traits

theorem gives_addSourcesTold (db : Database) (number : Nat) (sources : List Source) :
    Gives (db.addSourcesTold number sources) (db.addSources sources) := by
  induction sources generalizing db number with
  | nil => exact .pure db
  | cons source rest ih =>
    unfold addSourcesTold addSources
    have h : Gives (monadLift (db.addSourceTold source number) :
        Attempt LoadError (Database × Except LoadError Nat)) (.ok (db.addSource source)) :=
      .map (gives_addSourceTold db source number) Except.ok
    refine h.bind ?_
    rcases db.addSource source with ⟨next, n | e⟩
    · exact fun _ => rfl
    · exact ih next (number + 1)

theorem gives_checkCyclesTold (db : Database) (relation : Relation) :
    Gives (db.checkCyclesTold relation) (db.checkCycles relation) :=
  .bind (.lift _) (.ofExcept _ _)

theorem gives_analysisTold (db : Database) : Gives db.analysisTold db.analyze := by
  unfold analysisTold analyze
  refine .bind (.lift _) (.andThen (.ofExcept _ _) fun links => ?_)
  refine .bind (.lift _) (.bind (.lift _) (.andThen (.ofExcept _ _) fun db => ?_))
  refine .bind (.lift _) (.andThen (gives_checkCyclesTold db _) fun _ => ?_)
  refine .andThen (gives_checkCyclesTold db _) fun _ => ?_
  refine .andThen (.ofExcept _ _) fun _ => .andThen (gives_checkCyclesTold db _) fun _ => ?_
  exact .bind (.lift _) (.pure _)

theorem gives_analyzeTold (db : Database) :
    Gives db.analyzeTold (db.analyze.mapError .analysis) := by
  unfold analyzeTold
  refine .bind (.lift _) ?_
  have h : Gives (monadLift db.analysisTold.run :
      Attempt LoadError (Except AnalysisError Database)) (.ok db.analyze) :=
    .map (gives_analysisTold db) Except.ok
  refine h.bind ?_
  cases db.analyze with
  | ok db => exact .pure db
  | error e => exact .bind (.lift _) fun _ => rfl

theorem gives_loadTold (sources : List Source) (preferences : LoadPreferences) :
    Gives (loadTold sources preferences) (load sources preferences) := by
  unfold loadTold load
  refine .bind (.lift _) (.andThen (.ofExcept _ _) fun _ => ?_)
  refine .andThen (gives_addSourcesTold _ _ _) fun db => ?_
  refine .andThen (.ofExcept _ _) fun _ => .andThen (gives_analyzeTold db) fun db => ?_
  exact .bind (.lift _) (.pure _)

end Database
end PointBuy
