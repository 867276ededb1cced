import PointBuy.Database.Sorting

/-!
# Effects and their targets

The formulas of all traits are checked in the order they are written, together with the traits that
the effects change. If all is well, each effect is noted at its target.

## Main definitions

* `Database.effectLinks` : each effect with the place of its target.
* `Database.link` : notes effects at their targets.
-/

namespace PointBuy.Database

/-- An effect with the place of its target. -/
structure EffectLink where
  target : Nat
  ref : EffectRef
deriving DecidableEq

/-- Checks the formula that is written for a trait itself. -/
def checkOwnFormula (db : Database) (t : Trait) : Except AnalysisError Unit :=
  match t.ownFormula? with
  | some formula => Scope.checkAt ⟨db, t⟩ t.location .integer formula
  | none => .ok ()

/-- What can be said against an effect of that kind on a trait, its formula left aside. -/
def objection? (target : Trait) : EffectKind → Option AnalysisFault
  | .level => if target.hasLevel then none else some .noLevel
  | .cost _ => if target.hasCost then none else some .noCost

/-- The sort of the formula of an effect. -/
def sortOf : EffectKind → ValueSort
  | .level => .integer
  | .cost _ => .percent

/-- The place of the target of an effect, which is checked together with the formula. -/
def targetOf (db : Database) (owner : Trait) (effect : Effect) : Except AnalysisError Nat := do
  let refuse (fault : AnalysisFault) : Except AnalysisError Nat :=
    .error (.single ⟨fault, effect.location⟩)
  match db.indexOf? effect.target with
  | none => refuse (.undefinedName effect.target)
  | some place =>
    match db.trait? place with
    | none => refuse (.undefinedName effect.target)
    | some target =>
      match objection? target effect.kind with
      | some fault => refuse fault
      | none =>
        Scope.checkAt ⟨db, owner⟩ effect.location (sortOf effect.kind) effect.formula
        return place

/-- The links of the effects of one trait, from the effect of the given number on. -/
def linksOf (db : Database) (owner : Trait) (place : Nat) :
    Nat → List Effect → Except AnalysisError (List EffectLink)
  | _, [] => .ok []
  | number, effect :: rest => do
    let target ← db.targetOf owner effect
    return ⟨target, ⟨place, number⟩⟩ :: (← db.linksOf owner place (number + 1) rest)

/-- Checks all formulas of a trait, and gives the links of its effects. -/
def checkTrait (db : Database) (t : Trait) (place : Nat) :
    Except AnalysisError (List EffectLink) := do
  db.checkOwnFormula t
  db.linksOf t place 0 t.effects.toList

/-- Checks all formulas, and gives the links of all effects. -/
def effectLinks (db : Database) : Except AnalysisError (List EffectLink) := do
  let links ← db.traits.toList.zipIdx.mapM fun (t, place) => db.checkTrait t place
  return links.flatten

/-- Notes effects at their targets. -/
def link (db : Database) (links : List EffectLink) : Database :=
  let note (traits : Array Trait) (l : EffectLink) : Array Trait :=
    traits.modify l.target fun t => { t with effectedBy := t.effectedBy.push l.ref }
  { db with traits := links.foldl note db.traits }

end PointBuy.Database
