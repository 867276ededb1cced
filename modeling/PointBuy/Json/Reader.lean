import PointBuy.Json.Token

/-!
# Reading documents

A document is read in two steps. The first gives the document as it is written: members in their
written order, names repeated as they are, and scalars that may have no value. The second gives its
value, which exists only if every scalar in it has one and if lists and objects are not nested
deeper than `Json.nesting`. A reader that ignores a member never asks for its value.
-/

namespace PointBuy.Json

/-- How deep lists and objects may be nested. -/
def nesting : Nat := 127

/-- A document as it is written. -/
inductive Written where
  | null
  | boolean (value : Bool)
  | number (value : Option Number)
  | text (value : Option String)
  | list (items : List Written)
  | object (members : List (Option String × Written))

instance : Inhabited Written := ⟨.null⟩

/-! ### Structure -/

/-- A list or an object that is not closed yet, its entries last one first. -/
inductive OpenBlock where
  | list (items : List Written)
  | object (members : List (Option String × Written)) (name : Option String)

/-- What may come next. -/
inductive Expected where
  | value
  /-- A first item, or the end of the list. -/
  | itemOrEnd
  /-- A first name, or the end of the object. -/
  | nameOrEnd
  | name
  | colon
  /-- A comma, or the end of what is open. -/
  | more
  /-- Nothing: the document is complete. -/
  | nothing (doc : Written)

/-- How far a document is read. -/
structure Reading where
  blocks : List OpenBlock
  expected : Expected

namespace Reading

/-- A complete value takes its place. -/
def put (blocks : List OpenBlock) (value : Written) : Reading :=
  match blocks with
  | [] => ⟨[], .nothing value⟩
  | .list items :: rest => ⟨.list (value :: items) :: rest, .more⟩
  | .object members name :: rest => ⟨.object ((name, value) :: members) none :: rest, .more⟩

/-- The start of a value. -/
def startValue (blocks : List OpenBlock) : Token → Option Reading
  | .openList => some ⟨.list [] :: blocks, .itemOrEnd⟩
  | .openObject => some ⟨.object [] none :: blocks, .nameOrEnd⟩
  | .null => some (put blocks .null)
  | .boolean value => some (put blocks (.boolean value))
  | .number value => some (put blocks (.number value))
  | .text value => some (put blocks (.text value))
  | .closeList | .closeObject | .comma | .colon => none

/-- The end of what is open. -/
def close : List OpenBlock → Token → Option Reading
  | .list items :: rest, .closeList => some (put rest (.list items.reverse))
  | .object members _ :: rest, .closeObject => some (put rest (.object members.reverse))
  | _, _ => none

/-- The name of a member. -/
def startMember : List OpenBlock → Token → Option Reading
  | .object members _ :: rest, .text name => some ⟨.object members name :: rest, .colon⟩
  | _, _ => none

/-- What one token does. -/
def step (reading : Reading) (token : Token) : Option Reading :=
  match reading.expected with
  | .value => startValue reading.blocks token
  | .itemOrEnd => (close reading.blocks token).orElse fun _ => startValue reading.blocks token
  | .nameOrEnd => (close reading.blocks token).orElse fun _ => startMember reading.blocks token
  | .name => startMember reading.blocks token
  | .colon =>
    match token with
    | .colon => some { reading with expected := .value }
    | _ => none
  | .more =>
    match token, reading.blocks with
    | .comma, .list _ :: _ => some { reading with expected := .value }
    | .comma, .object _ _ :: _ => some { reading with expected := .name }
    | _, _ => close reading.blocks token
  | .nothing _ => none

end Reading

/-- The document that a text writes. -/
def readWritten (text : String) : Option Written := do
  let reading ← (← tokens text).foldlM Reading.step ⟨[], .value⟩
  match reading.expected with
  | .nothing doc => some doc
  | _ => none

/-! ### Values -/

mutual

/-- The value of a document inside which lists and objects may be nested `depth` deep. -/
def Written.value? (depth : Nat) : Written → Option Json
  | .null => some .null
  | .boolean value => some (.boolean value)
  | .number value => value.map .number
  | .text value => value.map .text
  | .list items =>
    match depth with
    | 0 => none
    | inner + 1 => (valuesOfItems inner items).map .list
  | .object members =>
    match depth with
    | 0 => none
    | inner + 1 => (valuesOfMembers inner members).map fun values => .object (sortMembers values)

/-- The values of items. -/
def valuesOfItems (depth : Nat) : List Written → Option (List Json)
  | [] => some []
  | item :: rest => do
    let value ← item.value? depth
    let values ← valuesOfItems depth rest
    some (value :: values)

/-- The names and values of members. -/
def valuesOfMembers (depth : Nat) : List (Option String × Written) → Option (List (String × Json))
  | [] => some []
  | (name, member) :: rest => do
    let name ← name
    let value ← member.value? depth
    let values ← valuesOfMembers depth rest
    some ((name, value) :: values)

end

/-- The document that a text denotes. -/
def read? (text : String) : Option Json := do (← readWritten text).value? nesting

end PointBuy.Json
