/-!
# Limits

The sizes beyond which a source, a formula, a database or a log is refused or cut.
-/

namespace PointBuy.Limits

/-- Characters of one declaration line. -/
def lineLength : Nat := 4096

/-- Blocks inside one another. -/
def blockDepth : Nat := 32

/-- Characters of one formula. -/
def formulaLength : Nat := 4096

/-- Groups inside one another in a formula. -/
def formulaNesting : Nat := 64

/-- Characters of one trait name in a formula. -/
def identifierLength : Nat := 256

/-- Traits of one database. -/
def traits : Nat := 50000

/-- Sources of one database. -/
def sources : Nat := 256

/-- Traits of a cycle that a log line names. -/
def cyclePath : Nat := 64

/-- Edges of a chain of dependent traits. -/
def dependencyDepth : Nat := 5000

/-- Bytes of one file. -/
def fileSize : Nat := 10000000

/-- Lines of one file. -/
def fileLines : Nat := 200000

/-- Events that a log window keeps. -/
def logWindow : Nat := 10000

/-- Characters of one log message. -/
def logMessage : Nat := 4096

/-- Whether a log can work within its limits. -/
def suitLog : Bool := decide (100 ≤ logWindow) && decide (80 ≤ logMessage)

/-- Where the limits are said to come from. -/
def origin : String := "Generated from config/development.toml"

end PointBuy.Limits
