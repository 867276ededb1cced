import PointBuy.Trait.Basic
import Std.Data.HashMap

/-!
# Databases

The traits of a game in the order they were defined. A trait is found by its place or by its name,
and refers to others by their places once they are known: to the skill that it inherits from, and to
the effects on it.

## Main definitions

* `Database.indexOf?` : the place of a name.
* `Database.inheritanceRoot?` : the skill at the end of a chain of inheritance.
-/

namespace PointBuy

/-- Traits, and the place of each name among them. -/
structure Database where
  traits : Array Trait
  index : Std.HashMap String Nat

namespace Database

/-- A database without traits. -/
def empty : Database := ⟨#[], ∅⟩

instance : Inhabited Database := ⟨empty⟩

/-- The number of traits. -/
def size (db : Database) : Nat := db.traits.size

/-- The trait at a place. -/
def trait? (db : Database) (i : Nat) : Option Trait := db.traits[i]?

/-- The place of a name. -/
def indexOf? (db : Database) (name : String) : Option Nat := db.index[name]?

/-- The trait of a name. -/
def find? (db : Database) (name : String) : Option Trait := (db.indexOf? name).bind db.trait?

/-- The names of all traits, in order. -/
def names (db : Database) : List String := db.traits.toList.map Trait.name

/-- The effect that a trait refers to. -/
def effect? (db : Database) (ref : EffectRef) : Option Effect :=
  (db.trait? ref.owner).bind fun owner => owner.effects[ref.effect]?

/-- The places of the names that a formula mentions, from left to right. -/
def placesIn (db : Database) (formula : Formula) : List Nat :=
  formula.mentions.filterMap db.indexOf?

/-- The place of the skill that a skill inherits from. -/
def parentOf? (db : Database) (i : Nat) : Option Nat := (db.trait? i).bind Trait.parentIndex?

/-- The end of the chain of inheritance from a trait, if it has fewer than `steps` links. -/
def rootWithin (db : Database) : (steps : Nat) → Nat → Option Nat
  | 0, _ => none
  | steps + 1, i =>
    match db.parentOf? i with
    | some parent => db.rootWithin steps parent
    | none => some i

/-- The end of the chain of inheritance from a trait: the trait itself where it inherits nothing. A
chain that ends has no trait twice, so one that is longer than the database never ends. -/
def inheritanceRoot? (db : Database) (i : Nat) : Option Nat := db.rootWithin (db.size + 1) i

end Database
end PointBuy
