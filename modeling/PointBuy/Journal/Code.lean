/-!
# Codes of log lines

Every fault has a code, and a table says for each code how bad it is and what can be done about it.
Codes that the table does not hold are treated alike.
-/

namespace PointBuy.Journal

/-- How bad a fault is. -/
inductive Severity where
  | critical
  | high
  | medium
  | low
deriving DecidableEq, Inhabited

/-- The word for a severity. -/
def Severity.text : Severity → String
  | critical => "Critical"
  | high => "High"
  | medium => "Medium"
  | low => "Low"

/-- What is known of a code. -/
structure CodeEntry where
  code : String
  category : String
  severity : Severity
  /-- Whether work can go on after the fault has been mended. -/
  recoverable : Bool
  /-- Whether the work at hand has to stop. -/
  halts : Bool
  description : String
  action : String
deriving Inhabited

/-- The codes of faults, with what is known of them. -/
def codeTable : List CodeEntry :=
  [ ⟨"ERR001", "System", .critical, false, true,
      "Internal engine error",
      "File a bug report with the database that triggered it"⟩,
    ⟨"ERR002", "System", .critical, false, true,
      "Engine initialization failed",
      "Check logging and configuration settings"⟩,
    ⟨"E005", "FileProcessing", .high, true, true,
      "Database file not found",
      "Verify the file path exists"⟩,
    ⟨"E006", "FileProcessing", .medium, true, true,
      "Database file has an unexpected extension",
      "Rename the file or disable the extension requirement"⟩,
    ⟨"E007", "FileProcessing", .high, true, true,
      "Database file exceeds the configured size limit",
      "Split the database into several files"⟩,
    ⟨"E008", "FileProcessing", .low, true, false,
      "Database file is empty",
      "Add declarations or drop the file from the load list"⟩,
    ⟨"E009", "FileProcessing", .high, true, true,
      "Permission denied reading database file",
      "Check file permissions"⟩,
    ⟨"E010", "FileProcessing", .high, true, true,
      "Database file is not valid UTF-8",
      "Re-save the file as UTF-8"⟩,
    ⟨"E011", "FileProcessing", .high, true, true,
      "I/O error while reading a database file",
      "Retry or check the storage device"⟩,
    ⟨"E012", "FileProcessing", .high, true, true,
      "Database file exceeds the configured line limit",
      "Split the database into several files"⟩,
    ⟨"E020", "Declaration", .high, false, true,
      "Line does not match the declaration grammar",
      "Use `Name OPERATOR formula [\"comment\"] [\x7b]`"⟩,
    ⟨"E021", "Declaration", .high, false, true,
      "Block opened with '\x7b' is never closed",
      "Add a line containing only '\x7d'"⟩,
    ⟨"E022", "Declaration", .medium, false, true,
      "Declaration has more than one comment",
      "Keep a single comment per declaration"⟩,
    ⟨"E023", "Declaration", .high, false, true,
      "Reserved word used as a trait name",
      "Rename the trait"⟩,
    ⟨"E024", "Declaration", .high, false, true,
      "Blocks nested deeper than the configured limit",
      "Flatten the declaration"⟩,
    ⟨"E025", "Declaration", .high, false, true,
      "Declaration structure is not allowed here",
      "Check the operator and sub-property for this kind of declaration"⟩,
    ⟨"E030", "Formula", .high, false, true,
      "Invalid character in formula",
      "Remove the character or quote it in the comment"⟩,
    ⟨"E031", "Formula", .high, false, true,
      "Numeric literal out of range",
      "Use a smaller number"⟩,
    ⟨"E032", "Formula", .medium, false, true,
      "Identifier exceeds the configured length limit",
      "Shorten the trait name"⟩,
    ⟨"E040", "Formula", .high, false, true,
      "Formula is not a complete expression",
      "Check parentheses and operators"⟩,
    ⟨"E041", "Formula", .high, false, true,
      "Formula nested deeper than the configured limit",
      "Simplify the formula"⟩,
    ⟨"E042", "Formula", .high, false, true,
      "Formula text exceeds the configured length limit",
      "Simplify the formula"⟩,
    ⟨"E050", "Names", .high, false, true,
      "Trait declared more than once",
      "Remove or rename one of the declarations"⟩,
    ⟨"E051", "Names", .high, false, true,
      "Core attribute missing from the database",
      "Load the core database or declare the attribute"⟩,
    ⟨"E052", "Names", .high, false, true,
      "Database declares more traits than the configured limit",
      "Reduce the database size"⟩,
    ⟨"E060", "Names", .high, false, true,
      "Reference to an undefined trait",
      "Declare the trait or fix the spelling"⟩,
    ⟨"E061", "Names", .high, false, true,
      "Trait is of the wrong kind for this use",
      "Reference a trait of the required kind"⟩,
    ⟨"E070", "Semantic", .high, false, true,
      "Formula has the wrong type",
      "Use an int, boolean or percent expression as required"⟩,
    ⟨"E080", "Semantic", .high, false, true,
      "Definitions depend on each other in a cycle",
      "Break the cycle"⟩,
    ⟨"E090", "Character", .medium, true, false,
      "Character references a trait the database lacks",
      "Load the database that defines the trait"⟩,
    ⟨"E091", "Character", .low, true, false,
      "Trait cannot be purchased",
      "Purchase the traits it is computed from instead"⟩,
    ⟨"E092", "Character", .low, true, false,
      "Purchased level is out of range for this trait",
      "Use 0 or 1 for yes/no advantages and non-negative levels for skills"⟩,
    ⟨"E093", "Character", .medium, true, false,
      "Character snapshot is malformed",
      "Re-save the character"⟩ ]

namespace Code

/-- The entry of a code. -/
def lookup? (code : String) : Option CodeEntry := codeTable.find? fun entry => entry.code == code

/-- How bad a fault with that code is. -/
def severity (code : String) : Severity := ((lookup? code).map CodeEntry.severity).getD .medium

/-- Whether work can go on after a fault with that code has been mended. -/
def recoverable (code : String) : Bool := ((lookup? code).map CodeEntry.recoverable).getD false

/-- Whether a fault with that code stops the work at hand. -/
def halts (code : String) : Bool := ((lookup? code).map CodeEntry.halts).getD true

/-- What a fault with that code is. -/
def description (code : String) : String :=
  ((lookup? code).map CodeEntry.description).getD "Unknown error"

/-- What to do about a fault with that code. -/
def action (code : String) : String :=
  ((lookup? code).map CodeEntry.action).getD "No specific action available"

/-- The part of the program that a code belongs to. -/
def category (code : String) : String :=
  match lookup? code with
  | some entry => entry.category
  | none => if code.toList.head? == some 'I' then "Success" else "Unknown"

end Code
end PointBuy.Journal
