import PointBuy.Amount
import PointBuy.Json.Reader

/-!
# Saved characters

A character is saved as a document with three members: its name, its purchased levels by the names
of the traits, and a layout that belongs to whoever shows the character and is kept as it is. The
name has to be there; the other two may be left out, and members of other names are passed over.
Instead of an object there may be a list with the three, of which the last ones may be left out.

## Main definitions

* `SavedCharacter.ofText?` : the character that a text holds.
* `SavedCharacter.text` : the text that holds a character.
-/

namespace PointBuy

/-- A saved character. The purchases are in the order of their names, each name once. -/
structure SavedCharacter where
  name : String
  purchases : List (String × Amount)
  layout : Json
deriving Inhabited

namespace SavedCharacter

/-! ### Writing -/

/-- A saved character as a document. -/
def document (saved : SavedCharacter) : Json :=
  .object [("name", .text saved.name),
    ("purchases", .object (saved.purchases.map fun p => (p.1, .int p.2.val))),
    ("layout", saved.layout)]

/-- The text that holds a character. -/
def text (saved : SavedCharacter) : String := saved.document.pretty

/-! ### Reading -/

/-- The level that is written. It has to be an integer. -/
def levelOf? : Json.Written → Option Amount
  | .number (some (.integer n)) => Amount.ofInt? n
  | _ => none

/-- The purchases that are written. Of several of one name the last one counts. -/
def purchasesOf? : Json.Written → Option (List (String × Amount))
  | .object members => do
    let purchases ← members.mapM fun (name, level) => do
      let name ← name
      let level ← levelOf? level
      some (name, level)
    some (Json.sortMembers purchases)
  | _ => none

/-- The name that is written. -/
def nameOf? : Json.Written → Option String
  | .text name => name
  | _ => none

/-- The layout that is written, inside the document. -/
def layoutOf? (layout : Json.Written) : Option Json := layout.value? (Json.nesting - 1)

/-- A character of whose members some have been read. -/
structure Partial where
  name : Option String
  purchases : Option (List (String × Amount))
  layout : Option Json

/-- One more member. None of the three may be there twice. -/
def Partial.add (p : Partial) (member : Option String × Json.Written) : Option Partial := do
  match ← member.1 with
  | "name" =>
    if p.name.isSome then none else some { p with name := some (← nameOf? member.2) }
  | "purchases" =>
    if p.purchases.isSome then none
    else some { p with purchases := some (← purchasesOf? member.2) }
  | "layout" =>
    if p.layout.isSome then none else some { p with layout := some (← layoutOf? member.2) }
  | _ => some p

/-- The character, if its name is there. -/
def Partial.finish (p : Partial) : Option SavedCharacter := do
  some ⟨← p.name, p.purchases.getD [], p.layout.getD .null⟩

/-- The character that a written document holds. -/
def ofWritten? : Json.Written → Option SavedCharacter
  | .object members => do (← members.foldlM Partial.add ⟨none, none, none⟩).finish
  | .list [name] => do some ⟨← nameOf? name, [], .null⟩
  | .list [name, purchases] => do some ⟨← nameOf? name, ← purchasesOf? purchases, .null⟩
  | .list [name, purchases, layout] => do
    some ⟨← nameOf? name, ← purchasesOf? purchases, ← layoutOf? layout⟩
  | _ => none

/-- The character that a text holds. -/
def ofText? (text : String) : Option SavedCharacter := (Json.readWritten text).bind ofWritten?

end SavedCharacter
end PointBuy
