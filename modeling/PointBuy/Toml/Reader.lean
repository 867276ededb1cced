import PointBuy.Toml.Scalar
import PointBuy.Toml.Token

/-!
# Reading settings

Settings are read token by token. What is kept is the table of all that has been read, the place
that the last header gave to the entries after it, the lists and tables that are open in the value
of the present entry, and what may come next. A line end closes an entry; it may stand inside a
list, but not inside braces.

## Main definitions

* `Toml.Reading.step` : what one token does.
* `Toml.read?` : the table that a text writes.
-/

namespace PointBuy.Toml

/-- How deep lists and tables may be nested, and how long a dotted name may be. -/
def nesting : Nat := 79

/-! ### Runs -/

/-- Whether a part of a run is nothing but blanks. -/
def Part.isBlank : Part → Bool
  | blank _ => true
  | word _ | quoted .. | point => false

/-- Whether a character can stand in a name without quotes. -/
def isNameChar (c : Char) : Bool := c.isAlphanum || c == '_' || c == '-'

/-- The name that a part of a run is. -/
def Part.name? : Part → Option String
  | word chars => if chars.all isNameChar then some (String.ofList chars) else none
  | quoted text multiline => if multiline then none else some text
  | point | blank _ => none

/-- The names with points between them. -/
def namesOf? : List Part → Option (List String)
  | [part] => part.name?.map ([·])
  | part :: .point :: rest => do
    let name ← part.name?
    let names ← namesOf? rest
    some (name :: names)
  | _ => none

/-- The dotted name that a run is. -/
def path? (run : List Part) : Option (List String) := do
  let names ← namesOf? (run.filter fun part => !part.isBlank)
  if nesting < names.length then none else some names

/-- What was written for a part of a run that is in no quotes. -/
def Part.written? : Part → Option (List Char)
  | word chars | blank chars => some chars
  | point => some ['.']
  | quoted .. => none

/-- The value that a run is. -/
def valueOf? (run : List Part) : Option Value :=
  match ((run.dropWhile Part.isBlank).reverse.dropWhile Part.isBlank).reverse with
  | [.quoted text _] => some (.text text)
  | parts => do scalar? (← parts.mapM Part.written?).flatten

/-! ### Structure -/

/-- A list or a table that is open. -/
inductive Block where
  /-- A list with its items, last one first. -/
  | list (items : List Value)
  /-- A table in braces, and the dotted name of the entry that is being read. -/
  | table (table : Table) (entry : List String)

/-- What may come next. -/
inductive Expected where
  /-- An entry, a header, or the end of the line. -/
  | line
  | header
  | headerEnd (path : List String)
  /-- The path of a header in double brackets. -/
  | itemHeader
  | itemHeaderEnd (path : List String)
  /-- The second one of its closing brackets. -/
  | itemHeaderClose (path : List String)
  | equals
  | value
  | itemOrEnd
  | memberOrEnd
  | member
  /-- A comma, or the end of what is open. -/
  | more
  | lineEnd

/-- How far settings are read. -/
structure Reading where
  document : Table
  /-- The path of the last header. -/
  header : List String
  /-- The dotted name of the present entry. -/
  entry : List String
  /-- What is open in its value, innermost first. -/
  blocks : List Block
  expected : Expected

namespace Reading

/-- Nothing read yet. -/
def empty : Reading := ⟨⟨.header, []⟩, [], [], [], .line⟩

/-- A complete value takes its place. -/
def put (reading : Reading) (value : Value) : Option Reading :=
  match reading.blocks with
  | [] => do
    let document ← reading.document.within .header (Table.put reading.entry value) reading.header
    some { reading with document, expected := .lineEnd }
  | .list items :: rest =>
    some { reading with blocks := .list (value :: items) :: rest, expected := .more }
  | .table table entry :: rest => do
    let table ← table.put entry value
    some { reading with blocks := .table table [] :: rest, expected := .more }

/-- A list or a table opens. -/
def openBlock (reading : Reading) (block : Block) (expected : Expected) : Option Reading :=
  if nesting ≤ reading.blocks.length then none
  else some { reading with blocks := block :: reading.blocks, expected }

/-- What is open innermost is closed. -/
def close (reading : Reading) (sign : Char) : Option Reading :=
  match reading.blocks with
  | .list items :: rest =>
    if sign = ']' then { reading with blocks := rest }.put (.list items.reverse) else none
  | .table table _ :: rest =>
    if sign = '\x7d' then { reading with blocks := rest }.put table.value else none
  | [] => none

/-- The dotted name of an entry. -/
def startEntry (reading : Reading) (run : List Part) : Option Reading := do
  let path ← path? run
  match reading.blocks with
  | .table table _ :: rest =>
    some { reading with blocks := .table table path :: rest, expected := .equals }
  | _ => some { reading with entry := path, expected := .equals }

/-- The start of a value. -/
def startValue (reading : Reading) : Token → Option Reading
  | .run parts => do reading.put (← valueOf? parts)
  | .sign '[' => reading.openBlock (.list []) .itemOrEnd
  | .sign '\x7b' => reading.openBlock (.table ⟨.inline, []⟩ []) .memberOrEnd
  | .sign _ | .lineEnd => none

/-- What comes after a value inside a list or a table. -/
def goOn (reading : Reading) (token : Token) : Option Reading :=
  match token, reading.blocks with
  | .lineEnd, .list _ :: _ => some reading
  | .sign ',', .list _ :: _ => some { reading with expected := .itemOrEnd }
  | .sign ',', .table _ _ :: _ => some { reading with expected := .member }
  | .sign sign, _ => reading.close sign
  | _, _ => none

/-- Whether blanks may stand before what comes next. -/
def allowsBlank (reading : Reading) : Bool :=
  match reading.expected with
  | .line | .value | .itemOrEnd | .memberOrEnd | .more | .lineEnd => true
  | .header | .headerEnd _ | .itemHeader | .itemHeaderEnd _ | .itemHeaderClose _ | .equals
    | .member => false

/-- What one token does that is not just blanks. -/
def advance (reading : Reading) (token : Token) : Option Reading :=
  match reading.expected, token with
  | .line, .lineEnd => some reading
  | .line, .run parts => reading.startEntry parts
  | .line, .sign '[' => some { reading with expected := .header }
  | .header, .run parts => do some { reading with expected := .headerEnd (← path? parts) }
  | .header, .sign '[' => some { reading with expected := .itemHeader }
  | .headerEnd path, .sign ']' => do
    let document ← reading.document.openTable path
    some { reading with document, header := path, expected := .lineEnd }
  | .itemHeader, .run parts => do some { reading with expected := .itemHeaderEnd (← path? parts) }
  | .itemHeaderEnd path, .sign ']' => some { reading with expected := .itemHeaderClose path }
  | .itemHeaderClose path, .sign ']' => do
    let document ← reading.document.openItem path
    some { reading with document, header := path, expected := .lineEnd }
  | .equals, .sign '=' => some { reading with expected := .value }
  | .value, token => reading.startValue token
  | .itemOrEnd, .lineEnd => some reading
  | .itemOrEnd, .sign ']' => reading.close ']'
  | .itemOrEnd, token => reading.startValue token
  | .memberOrEnd, .sign '\x7d' => reading.close '\x7d'
  | .memberOrEnd, .run parts | .member, .run parts => reading.startEntry parts
  | .more, token => reading.goOn token
  | .lineEnd, .lineEnd => some { reading with expected := .line }
  | _, _ => none

/-- What one token does. -/
def step (reading : Reading) (token : Token) : Option Reading :=
  match token with
  | .run parts =>
    if parts.all Part.isBlank && reading.allowsBlank then some reading else reading.advance token
  | .sign _ | .lineEnd => reading.advance token

/-- The table of what has been read, if it is complete. -/
def finish (reading : Reading) : Option Table :=
  match reading.expected with
  | .line | .lineEnd => some reading.document
  | _ => none

end Reading

/-- The table that a text writes. -/
def read? (text : String) : Option Table := do
  (← (← tokens? text).foldlM Reading.step .empty).finish

end PointBuy.Toml
