import PointBuy.Character.Basic
import PointBuy.Journal.Narration

/-!
# Characters, told

Making and changing a character, each with what is told of it.

## Main statements

* `Character.gives_restoreTold`, `Character.gives_setPurchasedTold` : telling changes nothing.
-/

namespace PointBuy.Character

open Narration (debug success)

/-- The character of somebody who has purchased nothing, told. -/
def newTold (db : Database) : Narration Character := do
  let c := new db
  success "I090" "Character created"
    [("traits", toString db.size), ("dependencies", toString c.dependents.edgeCount)]
  return c

/-- The character of a saved form, told. -/
def restoreTold (db : Database) (saved : SavedCharacter) : Attempt CharacterError Character := do
  let c ← monadLift (newTold db)
  Attempt.ofExcept (fun _ => pure ()) (c.load saved)

/-- Tells what has come of a purchase. -/
def updateTold (name : String) (update : Update) : Narration Unit :=
  match update.result with
  | .error e => Narration.error e.code e.message none [("trait", name)]
  | .ok changed =>
    if changed.isEmpty then debug "Purchase changed nothing" [("trait", name)]
    else
      success "I091" "Character updated" [("trait", name), ("changed", toString changed.length)]

/-- Changes a purchased level and follows the changes, told. -/
def setPurchasedTold (c : Character) (name : String) (level : Amount) : Narration Update := do
  let update := c.setPurchased name level
  updateTold name update
  return update

/-! ### Telling changes nothing -/

theorem gives_newTold (db : Database) : (newTold db).Gives (new db) := fun _ => rfl

theorem gives_restoreTold (db : Database) (saved : SavedCharacter) :
    (restoreTold db saved).Gives (restore db saved) := by
  unfold restoreTold restore
  have h : Attempt.Gives (monadLift (newTold db) : Attempt CharacterError Character)
      (.ok (new db)) := .map (gives_newTold db) Except.ok
  exact h.bind (.ofExcept _ _)

theorem gives_setPurchasedTold (c : Character) (name : String) (level : Amount) :
    (setPurchasedTold c name level).Gives (c.setPurchased name level) := fun _ => rfl

end PointBuy.Character
