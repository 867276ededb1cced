import PointBuy.File.Load
import PointBuy.Settings.Stored

/-!
# Faults as terms

Faults of the settings and of the file of a saved character end the program in a plainer way than
others: they are shown as terms, the kind of the fault with what is known of it.
-/

namespace PointBuy

/-- Why the file of the settings cannot be used. -/
inductive SettingsError where
  | missing
  | insideFile
  | directory
  | notText
  | malformed
deriving DecidableEq

/-- A term with named parts. -/
def term (kind : String) (parts : List (String × String)) : String :=
  let parts := parts.map fun (name, value) => name ++ ": " ++ value
  kind ++ " \x7b " ++ String.intercalate ", " parts ++ " \x7d"

/-- A fault that the system reports, as a term. -/
def systemTerm (code : Nat) (kind message : String) : String :=
  term "Os" [("code", toString code), ("kind", kind), ("message", Text.quoted message)]

/-- A fault of the settings as a term. -/
def SettingsError.term : SettingsError → String
  | missing => systemTerm 2 "NotFound" "No such file or directory"
  | insideFile => systemTerm 20 "NotADirectory" "Not a directory"
  | directory => systemTerm 21 "IsADirectory" "Is a directory"
  | notText =>
    PointBuy.term "Error"
      [("kind", "InvalidData"), ("message", Text.quoted "stream did not contain valid UTF-8")]
  | malformed => "Error"

/-- A fault of a file as a term. -/
def FileError.term : FileError → String
  | notFound path => PointBuy.term "FileNotFound" [("path", Text.quoted path)]
  | notFile path =>
    PointBuy.term "IoError" [("message", Text.quoted s!"'{path}' is not a file")]
  | tooLarge size =>
    PointBuy.term "FileTooLarge"
      [("size", toString size), ("max_size", toString Limits.fileSize)]
  | empty path => PointBuy.term "EmptyFile" [("path", Text.quoted path)]
  | unexpectedExtension extension =>
    PointBuy.term "InvalidExtension" [("extension", FileError.extensionText extension)]
  | notText path => PointBuy.term "InvalidEncoding" [("path", Text.quoted path)]
  | tooManyLines lines =>
    PointBuy.term "TooManyLines"
      [("lines", toString lines), ("max_lines", toString Limits.fileLines)]

/-- A fault of a purchase as a term. -/
def CharacterError.term : CharacterError → String
  | unknownTrait name => PointBuy.term "UnknownTrait" [("name", Text.quoted name)]
  | notPurchasable name => PointBuy.term "NotPurchasable" [("name", Text.quoted name)]
  | invalidLevel name level fault =>
    PointBuy.term "InvalidLevel"
      [("name", Text.quoted name), ("level", level.text), ("reason", Text.quoted fault.message)]
  | unreadable => "SnapshotFormat"

/-- A fault of files as a term. A saved character has no fault of a database, and no term for it. -/
def FilesError.term : FilesError → String
  | file fault => "FileProcessing(" ++ fault.term ++ ")"
  | character fault => "Character(" ++ fault.term ++ ")"
  | database fault => fault.message
  | noFiles => FilesError.noFiles.message

/-- The settings at a path. -/
def Folder.settings (folder : Folder) (environment : Environment) (path : String) :
    Except SettingsError Settings :=
  match folder path with
  | .missing => .error .missing
  | .insideFile => .error .insideFile
  | .directory => .error .directory
  | .file bytes _ =>
    match String.fromUTF8? bytes with
    | none => .error .notText
    | some text =>
      match Settings.ofText? environment text with
      | some settings => .ok settings
      | none => .error .malformed

end PointBuy
