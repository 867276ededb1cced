import PointBuy.Journal.Code
import PointBuy.Json.Basic
import PointBuy.Limits
import PointBuy.Location

/-!
# Log events

What happened, at which level, where, and with which further facts; and the two forms in which an
event is written. The facts are kept in the order of their names, each name once.
-/

namespace PointBuy.Journal

/-- How urgent an event is. -/
inductive Level where
  | error
  | warning
  | info
  | debug
deriving DecidableEq, Inhabited

namespace Level

/-- The word for a level in a log line. -/
def text : Level → String
  | error => "ERROR"
  | warning => "WARN"
  | info => "INFO"
  | debug => "DEBUG"

/-- The position of a level, the most urgent first. -/
def rank : Level → Nat
  | error => 0
  | warning => 1
  | info => 2
  | debug => 3

end Level

/-- An event. -/
structure Event where
  level : Level
  code : String
  message : String
  location : Option Location
  context : List (String × String)
deriving DecidableEq, Inhabited

namespace Event

/-- A message, cut at its greatest length. -/
def cut (message : String) : String :=
  if Limits.logMessage < message.length then
    String.ofList (message.toList.take Limits.logMessage) ++ "..."
  else message

/-- An event with nothing but its message. -/
def new (level : Level) (code message : String) : Event :=
  { level, code, message := cut message, location := none, context := [] }

/-- A fault. -/
def error (code message : String) : Event := new .error code message

/-- Something that was achieved. -/
def success (code message : String) : Event := new .info code message

/-- A warning. -/
def warning (message : String) : Event := new .warning "W000" message

/-- Something worth knowing. -/
def info (message : String) : Event := new .info "I000" message

/-- Something worth knowing when something goes wrong. -/
def debug (message : String) : Event := new .debug "D000" message

/-- An event with one more fact; a fact of the same name is replaced. -/
def withFact (event : Event) (name value : String) : Event :=
  { event with context := Json.putMember name value event.context }

/-- An event with more facts. -/
def withFacts (event : Event) (facts : List (String × String)) : Event :=
  facts.foldl (fun event fact => event.withFact fact.1 fact.2) event

/-- Whether an event is a fault. -/
def isError (event : Event) : Bool := event.level == .error

/-- Whether an event is of the level `info`. -/
def isInfo (event : Event) : Bool := event.level == .info

/-- An event as a line. -/
def render (event : Event) : String :=
  let place := match event.location with
    | some location => " " ++ location.text
    | none => ""
  let facts :=
    if event.context.isEmpty then ""
    else
      let pairs := event.context.map fun fact => fact.1 ++ "=" ++ fact.2
      " [" ++ String.intercalate ", " pairs ++ "]"
  s!"[{event.level.text}] {event.code} - {event.message}{place}{facts}"

/-- An event as a document, with the seconds since the beginning of 1970. -/
def structured (event : Event) (seconds : Nat) : Json :=
  let faultPart : List (String × Json) :=
    if event.isError then
      [("error_metadata", .object
        [("action", .text (Code.action event.code)),
          ("description", .text (Code.description event.code)),
          ("recoverable", .boolean (Code.recoverable event.code)),
          ("severity", .text (Code.severity event.code).text)])]
    else []
  let placePart : List (String × Json) := match event.location with
    | some location =>
      [("location", .object [("line", .nat location.line), ("path", .text location.path)])]
    | none => []
  let factPart : List (String × Json) :=
    if event.context.isEmpty then []
    else [("context", .object (event.context.map fun fact => (fact.1, .text fact.2)))]
  .object
    ([("category", .text (Code.category event.code)), ("code", .text event.code)] ++ factPart
      ++ faultPart ++ [("level", .text event.level.text)] ++ placePart
      ++ [("message", .text event.message), ("timestamp", .nat seconds)])

end Event
end PointBuy.Journal
