import PointBuy.Amount
import PointBuy.Text.Blank
import PointBuy.Text.Digits

/-!
# Requests

What the words after the name of the program ask for. Options and files may come in any order; of
an option that is given twice with a file the last file counts, while purchases add up.

## Main definition

* `Request.ofWords` : the request that some words make, or the first fault in them.
-/

namespace PointBuy

/-- What is asked of the program. -/
structure Request where
  /-- The files of the database. -/
  databases : List String
  /-- The file of a saved character. -/
  character : Option String
  /-- The file of the settings. -/
  settings : Option String
  /-- Levels to purchase, in their order. -/
  purchases : List (String × Amount)
  /-- Whether the character is wanted in its saved form. -/
  savedForm : Bool
deriving Inhabited

/-- Why words make no request. -/
inductive RequestError where
  | noCharacterFile
  | noAssignment
  | noSettingsFile
  | notAssignment (word : String)
  | notLevel (text : String)
  | unknownOption (word : String)
  | noDatabaseFile
deriving DecidableEq

/-- The wording. -/
def RequestError.message : RequestError → String
  | noCharacterFile => "--character requires a file"
  | noAssignment => "--set requires NAME=LEVEL"
  | noSettingsFile => "--config requires a file"
  | notAssignment word => s!"expected NAME=LEVEL, got '{word}'"
  | notLevel text => s!"'{text}' is not an integer level"
  | unknownOption word => s!"unknown option '{word}'"
  | noDatabaseFile => "at least one database file is required"

namespace Request

/-- Nothing asked for. -/
def empty : Request := ⟨[], none, none, [], false⟩

/-- The level that a text without blanks around it writes: digits, perhaps after a sign. -/
def level? (text : List Char) : Option Amount :=
  let (negative, digits) : Bool × List Char := match text with
    | '-' :: digits => (true, digits)
    | '+' :: digits => (false, digits)
    | digits => (false, digits)
  if digits.isEmpty || !digits.all Char.isDigit then none
  else
    let n : Int := Text.decimalValue digits
    Amount.ofInt? (if negative then -n else n)

/-- The purchase that a word writes. The last equals sign divides the name from the level. -/
def purchase (word : String) : Except RequestError (String × Amount) :=
  let backward := word.toList.reverse
  match backward.dropWhile (· ≠ '=') with
  | [] => .error (.notAssignment word)
  | _ :: name =>
    let level := (backward.takeWhile (· ≠ '=')).reverse
    match level? (Text.trim level) with
    | some amount => .ok (String.ofList (Text.trim name.reverse), amount)
    | none => .error (.notLevel (String.ofList level))

/-- Adds what words ask for to a request. -/
def addWords (request : Request) : List String → Except RequestError Request
  | [] => .ok request
  | "--character" :: rest =>
    match rest with
    | file :: rest => { request with character := some file }.addWords rest
    | [] => .error .noCharacterFile
  | "--set" :: rest =>
    match rest with
    | word :: rest => do
      let bought ← purchase word
      { request with purchases := request.purchases ++ [bought] }.addWords rest
    | [] => .error .noAssignment
  | "--config" :: rest =>
    match rest with
    | file :: rest => { request with settings := some file }.addWords rest
    | [] => .error .noSettingsFile
  | "--json" :: rest => { request with savedForm := true }.addWords rest
  | word :: rest =>
    if word.startsWith "--" then .error (.unknownOption word)
    else { request with databases := request.databases ++ [word] }.addWords rest

/-- The request that some words make. -/
def ofWords (words : List String) : Except RequestError Request := do
  let request ← empty.addWords words
  if request.databases.isEmpty then throw .noDatabaseFile
  return request

/-- The files that a request needs. -/
def files (request : Request) : List String :=
  request.settings.toList ++ request.databases ++ request.character.toList

end Request
end PointBuy
