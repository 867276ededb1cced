import PointBuy.Formula.Basic
import PointBuy.Location
import PointBuy.Trait.ValueFormat

/-!
# Traits

What can be bought for a character, or is computed for it: skills, advantages and attributes, each
with the changes that it makes to other traits.
-/

namespace PointBuy

/-- How hard a skill is to learn. -/
inductive Difficulty where
  | easy
  | average
  | hard
  | veryHard
deriving DecidableEq, Inhabited

namespace Difficulty

/-- The letter of a difficulty. -/
def letter : Difficulty → Char
  | easy => 'E'
  | average => 'A'
  | hard => 'H'
  | veryHard => 'V'

/-- The difficulty of a letter. -/
def ofLetter? (c : Char) : Option Difficulty :=
  [easy, average, hard, veryHard].find? fun d => d.letter == c

/-- What a difficulty adds to the base of a skill. -/
def offset : Difficulty → Amount
  | easy => -1
  | average => -2
  | hard => -3
  | veryHard => -4

/-- One step easier; nothing is easier than easy. -/
def easier : Difficulty → Difficulty
  | easy | average => easy
  | hard => average
  | veryHard => hard

/-- So many steps easier. -/
def eased (difficulty : Difficulty) (steps : Nat) : Difficulty :=
  steps.fold (fun _ _ d => d.easier) difficulty

end Difficulty

/-- Whether a change of cost raises or lowers. -/
inductive CostSign where
  | raise
  | lower
deriving DecidableEq, Inhabited

/-- What an effect changes. -/
inductive EffectKind where
  /-- The level of the target. -/
  | level
  /-- The cost of the target, by a percentage. -/
  | cost (sign : CostSign)
deriving DecidableEq, Inhabited

/-- A change that one trait, its owner, makes to another one, its target. -/
structure Effect where
  owner : String
  target : String
  kind : EffectKind
  formula : Formula
  location : Location
deriving DecidableEq, Inhabited

/-- The place of an effect in a database: its owner, and its number among the owner's effects. -/
structure EffectRef where
  owner : Nat
  effect : Nat
deriving DecidableEq, Inhabited

/-- What a trait is. -/
inductive TraitKind where
  | skill (difficulty : Difficulty) (base : Formula) (category : Bool)
  /-- A skill with the base of another skill. The place of the parent is known once the whole
  database is. -/
  | inheritedSkill (parent : String) (parentIndex : Option Nat) (difficulty : Option Difficulty)
      (category : Bool)
  /-- An advantage that is bought in levels. -/
  | leveledAdvantage (cost : Formula)
  /-- An advantage that one has or has not. -/
  | plainAdvantage (cost : Formula)
  /-- A value that is computed and never bought. -/
  | attribute (formula : Formula)
deriving DecidableEq, Inhabited

/-- A trait of a database. -/
structure Trait where
  name : String
  /-- The name to show, where it differs. -/
  shownAs : Option String
  comment : Option String
  location : Location
  format : ValueFormat
  kind : TraitKind
  /-- The effects that this trait has, in the order they are written. -/
  effects : Array Effect
  /-- The effects of all traits on this one. -/
  effectedBy : Array EffectRef
deriving DecidableEq, Inhabited

namespace Trait

/-- A trait that nothing else is known of yet. -/
def new (name : String) (kind : TraitKind) (location : Location) : Trait :=
  { name, shownAs := none, comment := none, location, format := .decimal, kind, effects := #[],
    effectedBy := #[] }

/-- The name that a sheet shows. -/
def displayName (t : Trait) : String := t.shownAs.getD t.name

/-- What a trait is, in words. -/
def kindName (t : Trait) : String :=
  match t.kind with
  | .skill .. => "skill"
  | .inheritedSkill .. => "inherited skill"
  | .leveledAdvantage _ => "advantage"
  | .plainAdvantage _ => "boolean advantage"
  | .attribute _ => "attribute function"

/-- Whether a trait is a skill. -/
def isSkill (t : Trait) : Bool :=
  match t.kind with
  | .skill .. | .inheritedSkill .. => true
  | .leveledAdvantage _ | .plainAdvantage _ | .attribute _ => false

/-- Whether a trait is an advantage. -/
def isAdvantage (t : Trait) : Bool :=
  match t.kind with
  | .leveledAdvantage _ | .plainAdvantage _ => true
  | .skill .. | .inheritedSkill .. | .attribute _ => false

/-- Whether other traits may change its level. -/
def hasLevel (t : Trait) : Bool :=
  match t.kind with
  | .plainAdvantage _ => false
  | .skill .. | .inheritedSkill .. | .leveledAdvantage _ | .attribute _ => true

/-- Whether other traits may change its cost. -/
def hasCost (t : Trait) : Bool :=
  match t.kind with
  | .attribute _ => false
  | .skill .. | .inheritedSkill .. | .leveledAdvantage _ | .plainAdvantage _ => true

/-- Whether a trait is a category of skills. -/
def isCategory (t : Trait) : Bool :=
  match t.kind with
  | .skill _ _ category | .inheritedSkill _ _ _ category => category
  | .leveledAdvantage _ | .plainAdvantage _ | .attribute _ => false

/-- The formula that is written for a trait itself. -/
def ownFormula? (t : Trait) : Option Formula :=
  match t.kind with
  | .skill _ base _ => some base
  | .attribute formula => some formula
  | .leveledAdvantage cost | .plainAdvantage cost => some cost
  | .inheritedSkill .. => none

/-- The place of the skill that a skill inherits from. -/
def parentIndex? (t : Trait) : Option Nat :=
  match t.kind with
  | .inheritedSkill _ parentIndex _ _ => parentIndex
  | .skill .. | .leveledAdvantage _ | .plainAdvantage _ | .attribute _ => none

end Trait
end PointBuy
