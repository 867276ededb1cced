import PointBuy.Settings.Basic
import PointBuy.Toml.Reader

/-!
# Stored settings

Settings are stored in three sections. Sections and entries may be left out, and those of unknown
names are passed over. A section may also be a list of its entries in their order. What is left out
is as the environment has it.

## Main definitions

* `Settings.ofText?` : the settings that a text holds.
* `Settings.text` : the text that holds settings.
-/

namespace PointBuy

/-- The entries of a section. -/
abbrev Section := List (String × Toml.Value)

namespace Section

/-- The entries of a value with the given names in their order, if it can be a section. A date or a
time can: it has no entry of a known name. -/
def ofValue? (names : List String) : Toml.Value → Option Section
  | .table _ members => some members
  | .list items | .tables items => some (names.zip items)
  | .moment _ => some []
  | .text _ | .integer _ | .fraction _ | .boolean _ => none

/-- What is read of the entry of a name, or a default if there is none. -/
def get {α : Type} (entries : Section) (name : String) (read : Toml.Value → Option α)
    (default : α) : Option α :=
  match entries.lookup name with
  | some value => read value
  | none => some default

end Section

namespace Toml.Value

/-- The truth value that a value is. -/
def truth? : Value → Option Bool
  | boolean value => some value
  | _ => none

/-- The text that a value is. -/
def text? : Value → Option String
  | text value => some value
  | _ => none

/-- The texts that a value lists. -/
def texts? : Value → Option (List String)
  | list items => items.mapM text?
  | _ => none

/-- Whether a value is a list or a table with nothing in it. -/
def isEmpty : Value → Bool
  | list items | tables items => items.isEmpty
  | table _ members => members.isEmpty
  | text _ | integer _ | fraction _ | boolean _ | moment _ => false

end Toml.Value

/-! ### Sections -/

/-- The levels by the names they are stored under. -/
def Journal.Level.storedName : Journal.Level → String
  | error => "Error"
  | warning => "Warning"
  | info => "Info"
  | debug => "Debug"

/-- The level of a stored name. -/
def Journal.Level.ofStoredName? (name : String) : Option Journal.Level :=
  [error, warning, info, debug].find? fun level => level.storedName == name

/-- The level that a value is. Its name may also be the only one in a table, with nothing there. -/
def Journal.Level.ofValue? : Toml.Value → Option Journal.Level
  | .text name => ofStoredName? name
  | .table _ [(name, value)] => if value.isEmpty then ofStoredName? name else none
  | _ => none

/-- The preferences that a section holds. -/
def LoadPreferences.ofValue? (default : LoadPreferences) (value : Toml.Value) :
    Option LoadPreferences := do
  let entries ← Section.ofValue? ["core_attributes", "apply_presentation_tweaks"] value
  some {
    coreNames := ← entries.get "core_attributes" Toml.Value.texts? default.coreNames
    tweaksPresentation :=
      ← entries.get "apply_presentation_tweaks" Toml.Value.truth? default.tweaksPresentation }

/-- The preferences that a section holds. -/
def FilePreferences.ofValue? (default : FilePreferences) (value : Toml.Value) :
    Option FilePreferences := do
  let entries ← Section.ofValue? ["require_data_extension", "enable_performance_logging"] value
  some {
    requiresExtension :=
      ← entries.get "require_data_extension" Toml.Value.truth? default.requiresExtension
    tellsPerformance :=
      ← entries.get "enable_performance_logging" Toml.Value.truth? default.tellsPerformance }

/-- The preferences that a section holds. -/
def LogPreferences.ofValue? (default : LogPreferences) (value : Toml.Value) :
    Option LogPreferences := do
  let entries ← Section.ofValue?
    ["use_structured_logging", "enable_console_logging", "min_log_level", "include_source_context"]
    value
  some {
    structured := ← entries.get "use_structured_logging" Toml.Value.truth? default.structured
    console := ← entries.get "enable_console_logging" Toml.Value.truth? default.console
    threshold := ← entries.get "min_log_level" Journal.Level.ofValue? default.threshold
    notesSource := ← entries.get "include_source_context" Toml.Value.truth? default.notesSource }

namespace Settings

/-! ### Reading and writing -/

/-- The settings that a text holds. -/
def ofText? (environment : Environment) (text : String) : Option Settings := do
  let default := ofEnvironment environment
  let sections : Section := (← Toml.read? text).members
  some {
    load := ← sections.get "loader" default.load.ofValue? default.load
    files := ← sections.get "file_processor" default.files.ofValue? default.files
    log := ← sections.get "logging" default.log.ofValue? default.log }

/-- A list of texts. Several texts have a line each. -/
def listText (items : List String) : String :=
  let items := items.map Toml.quoted
  if 1 < items.length then
    "[\n" ++ String.join (items.map fun item => "    " ++ item ++ ",\n") ++ "]"
  else "[" ++ String.join items ++ "]"

/-- A truth value. -/
def truthText (value : Bool) : String := if value then "true" else "false"

/-- A section with its entries. -/
def sectionText (name : String) (entries : List (String × String)) : String :=
  "[" ++ name ++ "]\n" ++ String.join (entries.map fun (name, value) => s!"{name} = {value}\n")

/-- The text that holds settings. -/
def text (settings : Settings) : String :=
  String.intercalate "\n"
    [sectionText "loader"
        [("core_attributes", listText settings.load.coreNames),
          ("apply_presentation_tweaks", truthText settings.load.tweaksPresentation)],
      sectionText "file_processor"
        [("require_data_extension", truthText settings.files.requiresExtension),
          ("enable_performance_logging", truthText settings.files.tellsPerformance)],
      sectionText "logging"
        [("use_structured_logging", truthText settings.log.structured),
          ("enable_console_logging", truthText settings.log.console),
          ("min_log_level", Toml.quoted settings.log.threshold.storedName),
          ("include_source_context", truthText settings.log.notesSource)]]

end Settings
end PointBuy
