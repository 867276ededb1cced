import PointBuy.Database.Inheritance
import PointBuy.Graph

/-!
# Who reads a trait

When the purchased level of a trait changes, the traits whose level, cost or text may read it have
to be looked at again, and then those that may read these. The graph of dependents points from each
trait to the traits that may read it; it may have cycles, since the cost of a trait may read the
level of another one and the other way round.

## Main definitions

* `Database.reads` : the traits that a trait may read.
* `Database.dependents` : the graph that points the other way.
-/

namespace PointBuy.Database

/-- The places that the formula of a trait itself mentions. -/
def placesInOwn (db : Database) (t : Trait) : List Nat :=
  (t.ownFormula?.map db.placesIn).getD []

/-- The places of the traits that the trait at a place may read, perhaps more than once: those that
its formula mentions, its ancestors and those that their formulas mention, and the owners of the
effects on it and those that the formulas of the effects mention. -/
def reads (db : Database) (i : Nat) (t : Trait) : List Nat :=
  db.placesInOwn t
    ++ (db.ancestors i).flatMap (fun ancestor =>
      ancestor :: ((db.trait? ancestor).map db.placesInOwn).getD [])
    ++ t.effectedBy.toList.flatMap (fun ref =>
      ref.owner :: ((db.effect? ref).map fun effect => db.placesIn effect.formula).getD [])

/-- Adds a dependent to those of another trait, last one first. A trait is no dependent of its own.
Dependents come in ascending order, so that one that is already there is the last one. -/
def subscribe (dependent : Nat) (graph : Graph) (source : Nat) : Graph :=
  if source = dependent then graph
  else
    graph.modify source fun dependents =>
      if dependents.head? = some dependent then dependents else dependent :: dependents

/-- The dependents of each trait, in ascending order. -/
def dependents (db : Database) : Graph :=
  let graph := db.traits.toList.zipIdx.foldl
    (fun graph (t, i) => (db.reads i t).foldl (subscribe i) graph)
    (Array.replicate db.size [])
  graph.map List.reverse

end PointBuy.Database
