import PointBuy.CommandLine.Help
import PointBuy.CommandLine.Request
import PointBuy.CommandLine.Sheet
import PointBuy.CommandLine.Term

/-!
# A run of the program

The program loads a database, takes a saved character or a new one, makes the purchases it is asked
for, and shows the character. What it tells on the way is logged first. Everything that a run reads
is given to it, and everything that it writes is in its outcome.

## Main definitions

* `Request.carryOut` : what comes of a request.
* `CommandLine.run` : the outcome of a run.
-/

namespace PointBuy

/-- What a run writes, and the code that it ends with. -/
structure Outcome where
  code : Nat
  output : String
  errors : String
deriving DecidableEq, Inhabited

/-! ### Logs -/

/-- Whether an event is one that readers of the errors should see. -/
def Journal.Event.isUrgent (event : Journal.Event) : Bool :=
  match event.level with
  | .error | .warning => true
  | .info | .debug => false

namespace LogPreferences

/-- The events that are written. -/
def logged (preferences : LogPreferences) (events : List Journal.Event) : List Journal.Event :=
  if preferences.console then
    events.filter fun event => event.level.passes preferences.effectiveThreshold
  else []

/-- What is written of events, beside the output and beside the errors. Documents carry the seconds
since the beginning of 1970. -/
def texts (preferences : LogPreferences) (seconds : Nat) (events : List Journal.Event) :
    String × String :=
  let events := preferences.logged events
  if preferences.structured then
    ("", CommandLine.lines (events.map fun event => (event.structured seconds).compact))
  else
    let (urgent, others) := events.partition Journal.Event.isUrgent
    (CommandLine.lines (others.map Journal.Event.render),
      CommandLine.lines (urgent.map Journal.Event.render))

end LogPreferences

namespace Request

/-! ### Requests -/

/-- The settings that hold for a request. -/
def settingsIn (request : Request) (folder : Folder) (environment : Environment) :
    Except SettingsError Settings :=
  match request.settings with
  | some path => folder.settings environment path
  | none => .ok (.ofEnvironment environment)

/-- Makes purchases one after another. -/
def purchaseAll (c : Character) : List (String × Amount) → Attempt CharacterError Character
  | [] => pure c
  | (name, level) :: rest => do
    let update ← monadLift (c.setPurchasedTold name level)
    let _ ← Attempt.ofExcept (fun _ => pure ()) update.result
    purchaseAll update.character rest

/-- The character that a request starts from. -/
def startCharacter (request : Request) (folder : Folder) (settings : Settings) (db : Database) :
    Attempt FilesError Character :=
  match request.character with
  | some path => folder.loadCharacterTold settings db path
  | none => monadLift (Character.newTold db)

/-- What comes of a request: what is printed, or what is said of the fault. -/
def carryOut (request : Request) (folder : Folder) (settings : Settings) :
    Attempt String String := do
  Narration.success "I004" "Global logging system initialized" []
  let loaded ← ExceptT.adapt FilesError.message
    (folder.loadDatabaseTold settings request.databases)
  let c ← ExceptT.adapt FilesError.term
    (request.startCharacter folder settings loaded.database)
  let c ← ExceptT.adapt CharacterError.message (purchaseAll c request.purchases)
  if request.savedForm then return CommandLine.lines [c.save.text]
  else return CommandLine.lines (c.sheetLines loaded.files.length)

end Request

namespace CommandLine

/-- The outcome of a run that says what is wrong. -/
def failure (text : String) : Outcome := ⟨1, "", lines ["Error: " ++ text]⟩

/-- The outcome of a run that prints a text. -/
def success (text : String) : Outcome := ⟨0, text, ""⟩

/-- An outcome with logs before what it writes. -/
def withLogs (logs : String × String) (outcome : Outcome) : Outcome :=
  { outcome with output := logs.1 ++ outcome.output, errors := logs.2 ++ outcome.errors }

/-- The outcome of a request. -/
def answer (request : Request) (environment : Environment) (folder : Folder) (seconds : Nat) :
    Outcome :=
  match request.settingsIn folder environment with
  | .error e => failure e.term
  | .ok settings =>
    let (result, events) :=
      Narration.told (request.carryOut folder settings).run settings.log.notesSource
    let outcome := match result with
      | .ok text => success text
      | .error text => failure text
    withLogs (settings.log.texts seconds events.toList) outcome

/-- The outcome of a run of the program under a name, with the words after that name. -/
def run (program : String) (words : List String) (environment : Environment) (folder : Folder)
    (seconds : Nat) : Outcome :=
  if words.isEmpty then ⟨1, "", usage program⟩
  else if words.contains "--help" then success (help program)
  else
    match Request.ofWords words with
    | .error e => failure e.message
    | .ok request => answer request environment folder seconds

end CommandLine
end PointBuy
