import PointBuy.Cost
import PointBuy.Database.Inheritance
import PointBuy.Formula.Value

/-!
# Sheets

A sheet holds the purchased levels of the traits of a database. The levels, truths and costs of the
traits follow from them: nothing else is kept.

A level may be computed from the levels of other traits, and so on. Each step is a function of the
levels of the traits one step further, and the level itself is what comes out when as many steps are
allowed as there are traits. A database in which levels rest on one another in a circle would need
more, and there the level is absent.

## Main definitions

* `Sheet.levelWithin` : the level of a trait, with a bound on the steps.
* `Sheet.level`, `Sheet.truth`, `Sheet.cost` : what follows from the purchases.
-/

namespace PointBuy

/-- A database with purchased levels, by the places of the traits. -/
structure Sheet where
  database : Database
  purchased : Array Amount

namespace Sheet

/-- The sheet of somebody who has purchased nothing. -/
def blank (db : Database) : Sheet := ⟨db, Array.replicate db.size 0⟩

/-- The purchased level of a trait. -/
def purchasedAt (s : Sheet) (i : Nat) : Amount := s.purchased[i]?.getD 0

/-- Whether a trait is purchased. -/
def has (s : Sheet) (i : Nat) : Bool := (s.purchasedAt i).val != 0

/-- Replaces the purchased level of a trait. -/
def purchase (s : Sheet) (i : Nat) (level : Amount) : Sheet :=
  { s with purchased := s.purchased.setIfInBounds i level }

/-- The effects on a trait whose owners are purchased, each with the place of its owner. -/
def activeEffects (s : Sheet) (t : Trait) : List (Nat × Effect) :=
  t.effectedBy.toList.filterMap fun ref =>
    if s.has ref.owner then (s.database.effect? ref).map (ref.owner, ·) else none

/-! ### One step -/

section Step

variable (s : Sheet) (levels : Nat → Option (Option Amount))

/-- Whether a trait counts as true, by its level. -/
def truthFrom (i : Nat) : Option Bool :=
  match (s.database.trait? i).map Trait.kind with
  | some (.plainAdvantage _) => some (s.has i)
  | some (.skill ..) | some (.inheritedSkill ..) => (levels i).map Option.isSome
  | some (.leveledAdvantage _) | some (.attribute _) | none => some false

/-- What formulas read, by the levels of traits. A name that is not defined is absent and false. -/
def readerFrom : Formula.Reader where
  level name :=
    match s.database.indexOf? name with
    | some i => levels i
    | none => some none
  truth name :=
    match s.database.indexOf? name with
    | some i => s.truthFrom levels i
    | none => some false

/-- The level of a trait without the effects on it. A skill starts from the formula at the end of
its chain of inheritance, and is absent where it is not purchased. -/
def baseFrom (i : Nat) (t : Trait) : Option (Option Amount) :=
  let own := s.purchasedAt i
  match t.kind with
  | .leveledAdvantage _ | .plainAdvantage _ => some (some own)
  | .attribute formula => formula.integer? (s.readerFrom levels) own
  | .skill .. | .inheritedSkill .. =>
    if !s.has i then some none
    else
      match ((s.database.inheritanceRoot? i).bind s.database.trait?).map Trait.kind,
          s.database.difficulty? i with
      | some (.skill _ base _), some difficulty => do
        return (← base.integer? (s.readerFrom levels) own).map (· + difficulty.offset + own)
      | _, _ => some none

/-- Adds up what effects add to a level, those that are absent left out. -/
def addBonuses : Amount → List (Nat × Effect) → Option Amount
  | sum, [] => some sum
  | sum, (owner, effect) :: rest =>
    match effect.kind with
    | .cost _ => addBonuses sum rest
    | .level => do
      let bonus ← effect.formula.integer? (s.readerFrom levels) (s.purchasedAt owner)
      match bonus with
      | some bonus => addBonuses (sum + bonus) rest
      | none => addBonuses sum rest

/-- The level of a trait, by the levels of the traits that it is computed from. -/
def levelFrom (i : Nat) : Option (Option Amount) :=
  match s.database.trait? i with
  | none => some none
  | some t => do
    match ← s.baseFrom levels i t with
    | none => return none
    | some base => return some (base + (← s.addBonuses levels 0 (s.activeEffects t)))

/-- Collects the percentages by which effects change a cost, those that are absent left out. -/
def collectPercents : Cost.Pools → List (Nat × Effect) → Option Cost.Pools
  | pools, [] => some pools
  | pools, (owner, effect) :: rest =>
    match effect.kind with
    | .level => collectPercents pools rest
    | .cost sign => do
      let percent ← effect.formula.percent? (s.readerFrom levels) (s.purchasedAt owner)
      match percent, sign with
      | some percent, .raise => collectPercents (pools.add percent) rest
      | some percent, .lower => collectPercents (pools.add (-percent)) rest
      | none, _ => collectPercents pools rest

/-- The cost of a trait without the effects on it. Attributes have none. -/
def baseCostFrom (i : Nat) (t : Trait) : Option (Option Amount) :=
  let own := s.purchasedAt i
  match t.kind with
  | .attribute _ => some none
  | .leveledAdvantage cost | .plainAdvantage cost =>
    if !s.has i then some (some 0)
    else do return some ((← cost.integer? (s.readerFrom levels) own).getD 0)
  | .skill .. | .inheritedSkill .. => some (some (Cost.ofSkill own))

/-- The cost of a trait, by the levels of the traits that it is computed from. -/
def costFrom (i : Nat) : Option (Option Amount) :=
  match s.database.trait? i with
  | none => some none
  | some t => do
    match ← s.baseCostFrom levels i t with
    | none => return none
    | some base =>
      let pools ← s.collectPercents levels .empty (s.activeEffects t)
      return some (Cost.modified base pools.surcharge pools.discount)

end Step

/-! ### All steps -/

/-- The level of a trait, where levels may rest on levels over fewer than `bound` steps. -/
def levelWithin (s : Sheet) : (bound : Nat) → Nat → Option (Option Amount)
  | 0, _ => none
  | bound + 1, i => s.levelFrom (s.levelWithin bound) i

/-- The levels of all traits that formulas may read. -/
def levels (s : Sheet) : Nat → Option (Option Amount) := s.levelWithin s.database.size

/-- The level of a trait. -/
def level (s : Sheet) (i : Nat) : Option Amount := (s.levels i).join

/-- Whether a trait counts as true. -/
def truth (s : Sheet) (i : Nat) : Bool := (s.truthFrom s.levels i).getD false

/-- The cost of a trait. -/
def cost (s : Sheet) (i : Nat) : Option Amount := (s.costFrom s.levels i).join

/-- What formulas read. -/
def reader (s : Sheet) : Formula.Reader := s.readerFrom s.levels

end Sheet
end PointBuy
