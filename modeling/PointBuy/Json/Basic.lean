import PointBuy.Decimal.Shortest

/-!
# Documents

Values of the data format that characters and structured log lines are stored in, and their text.
The members of an object are kept in the order of their names, each name once.
-/

namespace PointBuy

/-- A number is an integer of at most 64 bits or a binary fraction. -/
inductive Json.Number where
  | integer (value : Int)
  | fraction (value : Float)

/-- A document. -/
inductive Json where
  | null
  | boolean (value : Bool)
  | number (value : Json.Number)
  | text (value : String)
  | list (items : List Json)
  | object (members : List (String × Json))

namespace Json

instance : Inhabited Json := ⟨.null⟩

/-- An integer. -/
def int (n : Int) : Json := .number (.integer n)

/-- A natural number. -/
def nat (n : Nat) : Json := .number (.integer n)

/-- The first member of that name. -/
def member? (name : String) : Json → Option Json
  | object members => members.lookup name
  | _ => none

/-! ### Members in order -/

/-- Puts a member in its place among members in order; a member of the same name is replaced. -/
def putMember {α : Type} (name : String) (value : α) : List (String × α) → List (String × α)
  | [] => [(name, value)]
  | (other, kept) :: rest =>
    if name = other then (name, value) :: rest
    else if name < other then (name, value) :: (other, kept) :: rest
    else (other, kept) :: putMember name value rest

/-- The members in the order of their names; of several of one name the last. -/
def sortMembers {α : Type} (members : List (String × α)) : List (String × α) :=
  let sorted := members.mergeSort fun a b => decide (a.1 ≤ b.1)
  sorted.foldr
    (fun m kept => match kept with
      | next :: _ => if m.1 = next.1 then kept else m :: kept
      | [] => [m])
    []

/-! ### Text -/

/-- The escaped form of a character inside a quoted text. -/
def escape (c : Char) : List Char :=
  if c = '"' then ['\\', '"']
  else if c = '\\' then ['\\', '\\']
  else if c = '\n' then ['\\', 'n']
  else if c = '\r' then ['\\', 'r']
  else if c = '\t' then ['\\', 't']
  else if c = '\x08' then ['\\', 'b']
  else if c = '\x0c' then ['\\', 'f']
  else if c.toNat < 32 then
    ['\\', 'u', '0', '0', if c.toNat < 16 then '0' else '1', (c.toNat % 16).digitChar]
  else [c]

/-- A text in quotes. -/
def quote (s : String) : String :=
  String.ofList ('"' :: s.toList.flatMap escape ++ ['"'])

/-- A decimal below `10 ^ 16` and not below `10 ^ -5` is written with a point, any other one with
an exponent, which always has a sign. -/
def decimalText (d : Decimal) : String :=
  let digits := toString d.digits
  let point : Int := digits.length + d.exponent
  let zeros (n : Int) : String := String.ofList (List.replicate n.toNat '0')
  if 0 ≤ d.exponent && point ≤ 16 then digits ++ zeros d.exponent ++ ".0"
  else if 0 < point && point ≤ 16 then
    String.ofList (digits.toList.take point.toNat) ++ "."
      ++ String.ofList (digits.toList.drop point.toNat)
  else if -5 < point && point ≤ 0 then "0." ++ zeros (-point) ++ digits
  else
    let lead := String.ofList (digits.toList.take 1)
    let rest := String.ofList (digits.toList.drop 1)
    let sign := if point ≤ 0 then "-" else "+"
    lead ++ (if rest.isEmpty then "" else "." ++ rest) ++ "e" ++ sign ++ toString (point - 1).natAbs

/-- The text of a number. -/
def Number.render : Number → String
  | integer value => toString value
  | fraction value =>
    let bits := value.toBits.toNat
    let magnitude :=
      if bits % Decimal.twoTo 63 = 0 then "0.0" else decimalText (Decimal.ofFloat value)
    if Decimal.twoTo 63 ≤ bits then "-" ++ magnitude else magnitude

mutual

/-- The text of a document without blanks. -/
def compact : Json → String
  | null => "null"
  | boolean value => if value then "true" else "false"
  | number value => value.render
  | text value => quote value
  | list items => "[" ++ String.intercalate "," (compactItems items) ++ "]"
  | object members => "\x7b" ++ String.intercalate "," (compactMembers members) ++ "\x7d"

/-- The texts of items. -/
def compactItems : List Json → List String
  | [] => []
  | item :: rest => item.compact :: compactItems rest

/-- The texts of members. -/
def compactMembers : List (String × Json) → List String
  | [] => []
  | (name, value) :: rest => (quote name ++ ":" ++ value.compact) :: compactMembers rest

end

/-- The lines of a list or an object, two blanks deeper than what it stands in. -/
def block (opening closing : String) (depth : Nat) (entries : List String) : String :=
  if entries.isEmpty then opening ++ closing
  else
    let indent (n : Nat) : String := String.ofList (List.replicate (2 * n) ' ')
    let lines := entries.map fun entry => indent (depth + 1) ++ entry
    opening ++ "\n" ++ String.intercalate ",\n" lines ++ "\n" ++ indent depth ++ closing

mutual

/-- The text of a document with a line for each item and member. -/
def prettyAt (depth : Nat) : Json → String
  | null => "null"
  | boolean value => if value then "true" else "false"
  | number value => value.render
  | text value => quote value
  | list items => block "[" "]" depth (prettyItems (depth + 1) items)
  | object members => block "\x7b" "\x7d" depth (prettyMembers (depth + 1) members)

/-- The texts of items. -/
def prettyItems (depth : Nat) : List Json → List String
  | [] => []
  | item :: rest => item.prettyAt depth :: prettyItems depth rest

/-- The texts of members. -/
def prettyMembers (depth : Nat) : List (String × Json) → List String
  | [] => []
  | (name, value) :: rest =>
    (quote name ++ ": " ++ value.prettyAt depth) :: prettyMembers depth rest

end

/-- The text of a document over several lines. -/
def pretty (doc : Json) : String := doc.prettyAt 0

end Json
end PointBuy
