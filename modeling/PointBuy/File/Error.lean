import PointBuy.Limits
import PointBuy.Text.Quoted

/-!
# Faults of files

Why a file cannot be used.
-/

namespace PointBuy

/-- Why a file cannot be used. -/
inductive FileError where
  | notFound (path : String)
  /-- Something stands at the path that is no file. -/
  | notFile (path : String)
  | tooLarge (size : Nat)
  | empty (path : String)
  | unexpectedExtension (extension : Option String)
  /-- The bytes of the file are no text. -/
  | notText (path : String)
  | tooManyLines (lines : Nat)
deriving DecidableEq, Inhabited

namespace FileError

/-- An extension, or that there is none, as messages show it. -/
def extensionText : Option String → String
  | some extension => "Some(" ++ Text.quoted extension ++ ")"
  | none => "None"

/-- The wording. -/
def message : FileError → String
  | notFound path => s!"File not found: {path}"
  | notFile path => s!"I/O error reading file: '{path}' is not a file"
  | tooLarge size => s!"File too large: {size} bytes (max: {Limits.fileSize})"
  | empty path => s!"File is empty: {path}"
  | unexpectedExtension extension =>
    "Invalid file extension: expected .gurpenator_data or .txt, found " ++ extensionText extension
  | notText path => s!"Invalid UTF-8 encoding in file: {path}"
  | tooManyLines lines => s!"File exceeds maximum line count: {lines} (max: {Limits.fileLines})"

/-- The code that a log line carries. -/
def code : FileError → String
  | notFound _ => "E005"
  | unexpectedExtension _ => "E006"
  | tooLarge _ => "E007"
  | empty _ => "E008"
  | notText _ => "E010"
  | notFile _ => "E011"
  | tooManyLines _ => "E012"

/-- What a log line says of a fault. -/
def logMessage : FileError → String
  | notFound _ => "File not found"
  | notFile _ => "Path is not a file"
  | tooLarge _ => "File exceeds compile-time maximum size limit"
  | empty _ => "File is empty"
  | unexpectedExtension _ => "File does not have a data file extension"
  | notText _ => "Invalid UTF-8 encoding in file"
  | tooManyLines _ => "File exceeds maximum line count"

/-- What a log line adds to it, where the path is the one that was asked for. -/
def logFacts (path : String) : FileError → List (String × String)
  | notFound _ | notFile _ => [("path", path)]
  | tooLarge size =>
    [("file", path), ("size_bytes", toString size), ("limit_bytes", toString Limits.fileSize)]
  | empty _ | notText _ => [("file", path)]
  | unexpectedExtension extension => [("file", path), ("extension", extension.getD "none")]
  | tooManyLines lines =>
    [("file", path), ("lines", toString lines), ("max_lines", toString Limits.fileLines)]

end FileError
end PointBuy
