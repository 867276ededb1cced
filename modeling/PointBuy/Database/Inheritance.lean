import PointBuy.Database.Basic
import PointBuy.Database.Error

/-!
# Inheritance among skills

A skill inherits from the skill that its definition names. Categories are skills that exist to be
specialised: below them stand the skills proper, and of these each may have specialties of its own,
but no deeper.

## Main definitions

* `Database.resolveParents` : notes at each skill the place of the skill that it inherits from.
* `Database.checkSpecialties` : checks what may stand below what.
* `Database.ancestors` : the skills that a skill inherits from.
* `Database.difficulty?` : the difficulty of a skill.
-/

namespace PointBuy.Database

/-- A trait with the place of its parent. -/
def resolveParent (db : Database) (t : Trait) : Except AnalysisError Trait :=
  match t.kind with
  | .inheritedSkill parent _ difficulty category =>
    match db.indexOf? parent with
    | none => .error (.single ⟨.undefinedName parent, t.location⟩)
    | some place =>
      if (db.trait? place).any Trait.isSkill then
        .ok { t with kind := .inheritedSkill parent (some place) difficulty category }
      else .error (.single ⟨.parentNotSkill parent, t.location⟩)
  | .skill .. | .leveledAdvantage _ | .plainAdvantage _ | .attribute _ => .ok t

/-- Notes the places of parents up to the first that cannot be found, and says what is wrong. -/
def resolveParents (db : Database) : Database × Option AnalysisError :=
  let (traits, fault) := db.traits.foldl
    (fun (done, fault) t =>
      match fault with
      | some e => (done.push t, some e)
      | none =>
        match db.resolveParent t with
        | .ok t => (done.push t, none)
        | .error e => (done.push t, some e))
    ((#[] : Array Trait), (none : Option AnalysisError))
  ({ db with traits }, fault)

/-- Whether there is a category at a place. -/
def isCategory (db : Database) (i : Nat) : Bool := (db.trait? i).any Trait.isCategory

/-- What can be said against the place of a skill in its chain of inheritance. A category stands
below a category, and any other skill below a category or below a skill at the end of a chain or
directly below a category. -/
def misplacement? (db : Database) (t : Trait) : Option AnalysisFault := do
  let parent ← t.parentIndex?
  if t.isCategory then
    if db.isCategory parent then none else some .categorySpecialty
  else
    let grandparent ← db.parentOf? parent
    if db.isCategory grandparent then none else some .nestedSpecialty

/-- Checks the places of all skills in their chains of inheritance. -/
def checkSpecialties (db : Database) : Except AnalysisError Unit :=
  db.traits.toList.forM fun t =>
    match db.misplacement? t with
    | some fault => .error (.single ⟨fault, t.location⟩)
    | none => .ok ()

/-! ### Along the chain -/

/-- Goes on up the chain of inheritance from the place `last` and adds what it passes to the chain
so far. It stops at the end, at a place that has been passed before, and when the chain is longer
than any that ends. -/
def ancestorsFrom (db : Database) (chain : List Nat) (last : Nat) : List Nat :=
  match db.parentOf? last with
  | none => chain
  | some parent =>
    if chain.contains parent || decide (db.size < chain.length) then chain
    else db.ancestorsFrom (chain ++ [parent]) parent
termination_by db.size + 1 - chain.length
decreasing_by
  simp_all
  omega

/-- The ancestors of a trait, nearest first. -/
def ancestors (db : Database) (i : Nat) : List Nat := db.ancestorsFrom [] i

/-- Goes up the chain of inheritance from a skill to the first difficulty, in fewer than so many
steps. On the way it counts how often a parent is no category; that many times the difficulty gets
easier in the end. -/
def difficultyFrom (db : Database) : (rounds : Nat) → (steps : Nat) → Nat → Option Difficulty
  | 0, _, _ => none
  | rounds + 1, steps, i =>
    match (db.trait? i).map Trait.kind with
    | some (.skill difficulty _ _) | some (.inheritedSkill _ _ (some difficulty) _) =>
      some (difficulty.eased steps)
    | some (.inheritedSkill _ parentIndex none _) => do
      let parent ← parentIndex
      let above ← db.trait? parent
      db.difficultyFrom rounds (if above.isCategory then steps else steps + 1) parent
    | some (.leveledAdvantage _) | some (.plainAdvantage _) | some (.attribute _) | none => none

/-- The difficulty of a skill: the first one that is written on the skill or above it, one step
easier for each parent on the way that is no category. -/
def difficulty? (db : Database) (i : Nat) : Option Difficulty := db.difficultyFrom (db.size + 1) 0 i

end PointBuy.Database
