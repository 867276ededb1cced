import PointBuy.Declaration.Basic
import PointBuy.File.Error
import PointBuy.Settings.Basic
import PointBuy.Text.Lines
import PointBuy.Text.Lower

/-!
# Files

What stands at a path, and what has to hold of it before it is read as a source: it is a file, its
size is within the limit and not zero, its extension is one of those asked for, and its bytes are a
text with not too many lines. The first of these that fails is the fault.

## Main definitions

* `Folder.read` : the text at a path, with what is known of its file.
* `FileName.extension?` : the extension of a path.
-/

namespace PointBuy

/-- What stands at a path. -/
inductive FileEntry where
  /-- Nothing. -/
  | missing
  /-- Nothing can stand there, as a part of the path before its end is a file. -/
  | insideFile
  | directory
  /-- A file, and how many nanoseconds it took to read. -/
  | file (bytes : ByteArray) (nanoseconds : Nat)

/-- What stands at each path. -/
abbrev Folder := String → FileEntry

/-- What is known of a file that has been read. -/
structure FileFacts where
  path : String
  /-- The number of its bytes. -/
  size : Nat
  extension : Option String
  lines : Nat
deriving DecidableEq, Inhabited

/-! ### Extensions -/

namespace FileName

/-- The last name of a path. -/
def last (path : List Char) : List Char := (path.reverse.takeWhile (· ≠ '/')).reverse

/-- What follows the last point of a name, in small letters. A point that starts the name does not
count. -/
def extension? (path : String) : Option String :=
  let backward := (last path.toList).reverse
  match backward.dropWhile (· ≠ '.') with
  | _ :: _ :: _ =>
    some (Text.lower (String.ofList (backward.takeWhile (· ≠ '.')).reverse))
  | _ => none

end FileName

/-- The extensions of files that hold declarations. -/
def dataExtensions : List String := ["gurpenator_data", "txt"]

/-- Whether an extension is one of a file that holds declarations. -/
def isDataExtension (extension : Option String) : Bool :=
  extension.any fun extension => dataExtensions.contains extension

/-- Whether a file has an extension of those that hold declarations. -/
def FileFacts.isDataFile (facts : FileFacts) : Bool := isDataExtension facts.extension

/-! ### Reading -/

/-- A file that has been read. -/
structure DataFile where
  facts : FileFacts
  source : Source
  /-- How many nanoseconds it took. -/
  nanoseconds : Nat

/-- What can be said against a file of a size and an extension. -/
def sizeFault? (preferences : FilePreferences) (path : String) (size : Nat) :
    Option FileError :=
  if Limits.fileSize < size then some (.tooLarge size)
  else if size = 0 then some (.empty path)
  else if preferences.requiresExtension && !isDataExtension (FileName.extension? path) then
    some (.unexpectedExtension (FileName.extension? path))
  else none

/-- The file of a path whose text is known. -/
def DataFile.ofText (path text : String) (size nanoseconds : Nat) : Except FileError DataFile :=
  let lines := (Text.lines text.toList).length
  if Limits.fileLines < lines then .error (.tooManyLines lines)
  else .ok ⟨⟨path, size, FileName.extension? path, lines⟩, ⟨path, text⟩, nanoseconds⟩

/-- The file of a path with its bytes. -/
def DataFile.ofBytes (preferences : FilePreferences) (path : String) (bytes : ByteArray)
    (nanoseconds : Nat) : Except FileError DataFile :=
  match sizeFault? preferences path bytes.size with
  | some e => .error e
  | none =>
    match String.fromUTF8? bytes with
    | some text => DataFile.ofText path text bytes.size nanoseconds
    | none => .error (.notText path)

/-- The file at a path. -/
def Folder.read (folder : Folder) (preferences : FilePreferences) (path : String) :
    Except FileError DataFile :=
  match folder path with
  | .missing | .insideFile => .error (.notFound path)
  | .directory => .error (.notFile path)
  | .file bytes nanoseconds => DataFile.ofBytes preferences path bytes nanoseconds

end PointBuy
