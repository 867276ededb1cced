import PointBuy.Database.Load
import PointBuy.Journal.Window
import PointBuy.Text.Blank

/-!
# Settings

What a user can choose: what is asked of a database, how files are read, and what is logged. Each
choice has a default, which a variable of the environment can replace; a variable with a value that
makes no sense is passed over.

## Main definitions

* `Settings.ofEnvironment` : the defaults in an environment.
-/

namespace PointBuy

/-- Variables with their values. -/
abbrev Environment := List (String × String)

/-- How files are read. -/
structure FilePreferences where
  /-- Whether only files with certain extensions are read. -/
  requiresExtension : Bool
  /-- Whether the size and the time of each file are told. -/
  tellsPerformance : Bool
deriving DecidableEq, Inhabited

/-- What is logged, and how. -/
structure LogPreferences where
  /-- Whether events are written as documents. -/
  structured : Bool
  /-- Whether events are written at all. -/
  console : Bool
  /-- The least urgent level that is logged. -/
  threshold : Journal.Level
  /-- Whether events note the source that is being worked on. -/
  notesSource : Bool
deriving DecidableEq, Inhabited

/-- All that a user can choose. -/
structure Settings where
  load : LoadPreferences
  files : FilePreferences
  log : LogPreferences
deriving DecidableEq, Inhabited

namespace Environment

/-- The truth that a text spells. -/
def truth? (text : String) : Option Bool :=
  if text = "true" then some true else if text = "false" then some false else none

/-- The level that a text names, by a word in any case or by its rank. No letter outside the first
128 characters has one of the letters of these words as its small form. -/
def level? (text : String) : Option Journal.Level :=
  match String.ofList (text.toList.map Char.toLower) with
  | "error" | "0" => some .error
  | "warning" | "warn" | "1" => some .warning
  | "info" | "2" => some .info
  | "debug" | "3" => some .debug
  | _ => none

/-- The names in a text, with commas between them. Blanks around a name are no part of it. -/
def names (text : String) : List String :=
  (String.ofList <$> (text.toList.splitOn ',').map Text.trim).filter fun name => !name.isEmpty

/-- The truth that a variable holds, or a default. -/
def truth (environment : Environment) (name : String) (default : Bool) : Bool :=
  ((environment.lookup name).bind truth?).getD default

end Environment

/-- The names that a database has to define unless others are asked for. -/
def LoadPreferences.standardNames : List String :=
  ["ST", "DX", "IQ", "HT", "Thrust", "Swing", "Basic Speed x4"]

/-- What is asked of a database by default. -/
def LoadPreferences.ofEnvironment (environment : Environment) : LoadPreferences :=
  { coreNames :=
      ((environment.lookup "GURPS_CORE_ATTRIBUTES").map Environment.names).getD standardNames
    tweaksPresentation := environment.truth "GURPS_PRESENTATION_TWEAKS" true }

/-- How files are read by default. -/
def FilePreferences.ofEnvironment (environment : Environment) : FilePreferences :=
  { requiresExtension := environment.truth "GURPS_REQUIRE_DATA_EXTENSION" false
    tellsPerformance := environment.truth "GURPS_ENABLE_PERFORMANCE_LOGGING" true }

/-- What is logged by default. -/
def LogPreferences.ofEnvironment (environment : Environment) : LogPreferences :=
  { structured := environment.truth "GURPS_LOGGING_USE_STRUCTURED" false
    console := environment.truth "GURPS_LOGGING_ENABLE_CONSOLE" true
    threshold :=
      ((environment.lookup "GURPS_LOGGING_MIN_LEVEL").bind Environment.level?).getD .warning
    notesSource := environment.truth "GURPS_LOGGING_INCLUDE_SOURCE_CONTEXT" true }

/-- The settings where nothing else is said. -/
def Settings.ofEnvironment (environment : Environment) : Settings :=
  { load := .ofEnvironment environment
    files := .ofEnvironment environment
    log := .ofEnvironment environment }

namespace LogPreferences

/-- Warnings are logged whatever the settings say. -/
def leastThreshold : Journal.Level := .warning

/-- The threshold of a log. -/
def effectiveThreshold (preferences : LogPreferences) : Journal.Level :=
  if preferences.threshold.rank < leastThreshold.rank then leastThreshold
  else preferences.threshold

end LogPreferences
end PointBuy
