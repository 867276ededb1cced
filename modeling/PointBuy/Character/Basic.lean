import PointBuy.Character.Error
import PointBuy.Character.Saved
import PointBuy.Sheet.Dependents
import PointBuy.Sheet.Row
import PointBuy.Text.Quoted

/-!
# Characters

A character is a sheet with a name, and with the records of its traits as they were seen last. When
a purchased level changes, the traits that may read it are looked at again, nearest first, but only
beyond traits whose record has changed. Listeners are told of each change.

## Main definitions

* `Character.setPurchased` : changes a purchased level and follows the changes.
* `Character.save`, `Character.restore` : a character and its saved form.
-/

namespace PointBuy

/-- A character. -/
structure Character where
  name : String
  sheet : Sheet
  /-- The record of each trait as it was seen last. -/
  records : Array String
  /-- The traits that may read each trait. -/
  dependents : Graph
  /-- The numbers of those who are told of changes. -/
  listeners : List Nat
  /-- What a saved character said of its layout. -/
  layout : Json

/-- What a listener is told. -/
inductive Notice where
  | traitChanged (listener : Nat) (name record : String)
  | characterChanged (listener : Nat)
deriving DecidableEq

/-! ### Following changes -/

/-- A walk over traits that may have changed. -/
structure Walk where
  records : Array String
  /-- The traits that have been met, in the order they were met and will be looked at. -/
  order : Array Nat
  /-- For each trait, whether it has been met. -/
  met : Array Bool
  /-- The traits whose records have changed, in the order they were looked at. -/
  changed : Array Nat

namespace Walk

/-- A trait is met; only the first time counts. -/
def meet (walk : Walk) (i : Nat) : Walk :=
  if walk.met[i]? = some false then
    { walk with order := walk.order.push i, met := walk.met.setIfInBounds i true }
  else walk

/-- A walk that starts from a trait. -/
def start (records : Array String) (i : Nat) : Walk :=
  meet ⟨records, #[], Array.replicate records.size false, #[]⟩ i

/-- Looks at a trait. If its record has changed, its dependents are met. -/
def look (sheet : Sheet) (dependents : Graph) (walk : Walk) (i : Nat) : Walk :=
  let record := sheet.record i
  if walk.records[i]? = some record then walk
  else
    (dependents.pointedTo i).foldl meet
      { walk with records := walk.records.setIfInBounds i record, changed := walk.changed.push i }

/-- Looks at up to `count` traits that have been met, from a position in their order on. -/
def follow (sheet : Sheet) (dependents : Graph) : (count position : Nat) → Walk → Walk
  | 0, _, walk => walk
  | count + 1, position, walk =>
    match walk.order[position]? with
    | some i => follow sheet dependents count (position + 1) (look sheet dependents walk i)
    | none => walk

end Walk

/-! ### Purchases -/

/-- What can be said against a purchased level of a trait. -/
def Trait.purchaseFault? (t : Trait) (level : Amount) : Option CharacterError :=
  match t.kind with
  | .attribute _ => some (.notPurchasable t.name)
  | .plainAdvantage _ =>
    if 0 ≤ level.val ∧ level.val ≤ 1 then none else some (.invalidLevel t.name level .notZeroOrOne)
  | .skill .. | .inheritedSkill .. =>
    if level.val < 0 then some (.invalidLevel t.name level .negativeSkill) else none
  | .leveledAdvantage _ => none

/-- The place of a name. -/
def Database.placeOf (db : Database) (name : String) : Except CharacterError Nat :=
  match db.indexOf? name with
  | some i => .ok i
  | none => .error (.unknownTrait name)

/-- The place of a trait of which a level can be purchased. -/
def Database.checkPurchase (db : Database) (name : String) (level : Amount) :
    Except CharacterError Nat := do
  let i ← db.placeOf name
  match db.trait? i with
  | none => .error (.unknownTrait name)
  | some t =>
    match t.purchaseFault? level with
    | some e => .error e
    | none => .ok i

namespace Character

/-- The character of somebody who has purchased nothing. -/
def new (db : Database) : Character :=
  let sheet := Sheet.blank db
  { name := "", sheet, records := sheet.records, dependents := db.dependents, listeners := [],
    layout := .null }

/-- Adds a listener. -/
def listen (c : Character) (listener : Nat) : Character :=
  { c with listeners := c.listeners ++ [listener] }

/-- Changes the name. Listeners are told if it is another one. -/
def rename (c : Character) (name : String) : Character × List Notice :=
  if name = c.name then (c, [])
  else ({ c with name }, c.listeners.map .characterChanged)

/-- What has come of a purchase: the character as it is then, what the listeners are told, and the
names of the traits whose records have changed, in the order they were looked at, or what was said
against the purchase. -/
structure Update where
  character : Character
  notices : List Notice
  result : Except CharacterError (List String)

/-- What the listeners are told of changed traits: of each trait, and at last, if there are any, of
the character. -/
def noticesOf (listeners : List Nat) (changed : List (String × String)) : List Notice :=
  changed.flatMap (fun (name, record) => listeners.map (.traitChanged · name record))
    ++ if changed.isEmpty then [] else listeners.map .characterChanged

/-- Changes a purchased level and follows the changes. -/
def setPurchased (c : Character) (name : String) (level : Amount) : Update :=
  match c.sheet.database.checkPurchase name level with
  | .error e => { character := c, notices := [], result := .error e }
  | .ok start =>
    let sheet := c.sheet.purchase start level
    let walk := Walk.follow sheet c.dependents c.records.size 0 (.start c.records start)
    let changed := walk.changed.toList.map fun i =>
      (((sheet.database.trait? i).map Trait.name).getD "", walk.records[i]?.getD "")
    { character := { c with sheet, records := walk.records }
      notices := noticesOf c.listeners changed
      result := .ok (changed.map Prod.fst) }

/-- The record of a trait as it was seen last. -/
def recordOf (c : Character) (name : String) : Except CharacterError String := do
  return c.records[← c.sheet.database.placeOf name]?.getD ""

/-- What is shown of a trait. -/
def rowOf (c : Character) (name : String) : Except CharacterError Row := do
  return c.sheet.row (← c.sheet.database.placeOf name)

/-! ### Saving and restoring -/

/-- The purchased levels by the names of the traits, in the order of the names. -/
def purchases (c : Character) : List (String × Amount) :=
  let purchased := c.sheet.purchased.toList.zipIdx.filterMap fun (level, i) =>
    if level.val = 0 then none else (c.sheet.database.trait? i).map fun t => (t.name, level)
  Json.sortMembers purchased

/-- The saved form of a character. -/
def save (c : Character) : SavedCharacter := ⟨c.name, c.purchases, c.layout⟩

/-- A character in one line, for those who look into a running program. -/
def description (c : Character) : String :=
  let purchases := c.purchases.map fun p => Text.quoted p.1 ++ ": " ++ p.2.text
  "GurpsCharacter \x7b name: " ++ Text.quoted c.name ++ ", traits: "
    ++ toString c.sheet.purchased.size ++ ", purchased: \x7b" ++ String.intercalate ", " purchases
    ++ "\x7d, listeners: " ++ toString c.listeners.length ++ ", .. \x7d"

/-- The sheet with purchases, each of which is checked. -/
def purchaseAll (s : Sheet) : List (String × Amount) → Except CharacterError Sheet
  | [] => .ok s
  | (name, level) :: rest => do
    let i ← s.database.checkPurchase name level
    purchaseAll (s.purchase i level) rest

/-- A character with the name, the purchases and the layout of a saved one. -/
def load (c : Character) (saved : SavedCharacter) : Except CharacterError Character := do
  let sheet ← purchaseAll c.sheet saved.purchases
  return { c with
    name := saved.name
    sheet
    records := sheet.records
    layout := saved.layout }

/-- The character of a saved form. -/
def restore (db : Database) (saved : SavedCharacter) : Except CharacterError Character :=
  (new db).load saved

end Character
end PointBuy
