import PointBuy.Amount

/-!
# Tables of settings

Settings are a table of named values, some of which are tables again. A table can be written in
several places, but not in any way: a header gives a table that no other place may give once more,
while a table that is only passed through, or that dotted names make up, may still grow. How each
table came to be is therefore kept with it.

## Main definitions

* `Toml.Table.within` : a change inside the table at a path.
* `Toml.Table.put` : a further entry of a table.
* `Toml.Table.openTable`, `Toml.Table.openItem` : what a header does.
-/

namespace PointBuy.Toml

/-- How a table came to be. -/
inductive Origin where
  /-- By a header of its own. -/
  | header
  /-- By a header of a table inside it. -/
  | implied
  /-- By an entry with a dotted name. -/
  | dotted
  /-- By braces. -/
  | inline
deriving DecidableEq

/-- A value. Of a number with places and of a date or time only what was written is kept. -/
inductive Value where
  | text (value : String)
  | integer (value : Amount)
  | fraction (written : String)
  | boolean (value : Bool)
  | moment (written : String)
  | list (items : List Value)
  /-- Tables that headers in double brackets gave. -/
  | tables (items : List Value)
  | table (origin : Origin) (members : List (String × Value))

instance : Inhabited Value := ⟨.boolean false⟩

/-- A table. The members are in the order in which they were written. -/
structure Table where
  origin : Origin
  members : List (String × Value)

namespace Table

/-- A table as a value. -/
def value (table : Table) : Value := .table table.origin table.members

/-- A table with a further member. -/
def add (name : String) (value : Value) (table : Table) : Option Table :=
  if (table.members.lookup name).isSome then none
  else some { table with members := table.members ++ [(name, value)] }

/-- Members of which the one of a name is changed. It may be absent before. -/
def changeMember (name : String) (change : Option Value → Option Value) :
    List (String × Value) → Option (List (String × Value))
  | [] => (change none).map fun value => [(name, value)]
  | (other, value) :: rest =>
    if other = name then (change (some value)).map fun value => (name, value) :: rest
    else (changeMember name change rest).map ((other, value) :: ·)

/-- Items of which the last one is changed. -/
def changeLast (change : Value → Option Value) : List Value → Option (List Value)
  | [] => none
  | [item] => (change item).map ([·])
  | item :: rest => (changeLast change rest).map (item :: ·)

/-! ### Paths -/

/-- What a path is part of. -/
inductive Route where
  | header
  | dotted
deriving DecidableEq

/-- How a table comes to be that a path passes through first. -/
def Route.origin : Route → Origin
  | header => .implied
  | dotted => .dotted

/-- Whether a path may lead through a table. -/
def Route.enters : Route → Origin → Bool
  | _, .inline => false
  | dotted, .header => false
  | _, .header | _, .implied | _, .dotted => true

/-- Changes the table at a path. Tables that are absent come to be, and of tables from headers in
double brackets the path leads into the last one. -/
def within (route : Route) (change : Table → Option Table) : List String → Table → Option Table
  | [], table => change table
  | name :: rest, table => do
    let members ← changeMember name
      (fun
        | none => (within route change rest ⟨route.origin, []⟩).map value
        | some (.table origin members) =>
          if route.enters origin then (within route change rest ⟨origin, members⟩).map value
          else none
        | some (.tables items) =>
          (changeLast
            (fun
              | .table origin members => (within route change rest ⟨origin, members⟩).map value
              | _ => none)
            items).map .tables
        | some _ => none)
      table.members
    some { table with members }

/-- A table with an entry, the name of which is a path. A dotted name adds only to tables that
dotted names made up. -/
def put (path : List String) (value : Value) (table : Table) : Option Table := do
  let name ← path.getLast?
  let tables := path.dropLast
  table.within .dotted
    (fun inner =>
      if (inner.origin == .dotted) == tables.isEmpty then none else inner.add name value)
    tables

/-- The table with a header of a table. The path may have been passed through before. -/
def openTable (path : List String) (table : Table) : Option Table := do
  let name ← path.getLast?
  table.within .header
    (fun inner => do
      let members ← changeMember name
        (fun
          | none => some (.table .header [])
          | some (.table .implied members) => some (.table .header members)
          | some _ => none)
        inner.members
      some { inner with members })
    path.dropLast

/-- The table with a header in double brackets. -/
def openItem (path : List String) (table : Table) : Option Table := do
  let name ← path.getLast?
  table.within .header
    (fun inner => do
      let members ← changeMember name
        (fun
          | none => some (.tables [.table .header []])
          | some (.tables items) => some (.tables (items ++ [.table .header []]))
          | some _ => none)
        inner.members
      some { inner with members })
    path.dropLast

end Table
end PointBuy.Toml
