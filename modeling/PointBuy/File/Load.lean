import PointBuy.Character.Narration
import PointBuy.Database.Narration
import PointBuy.File.Narration

/-!
# Databases and characters from files

All files of a database are read before any of them is looked into. A saved character may be in a
file of any extension.

## Main definitions

* `Folder.loadDatabase` : the database of some files.
* `Folder.loadCharacter` : the character that a file holds.

## Main statements

* `Folder.gives_loadDatabaseTold`, `Folder.gives_loadCharacterTold` : telling changes nothing.
-/

namespace PointBuy

/-- Why files do not give a database or a character. -/
inductive FilesError where
  | noFiles
  | file (fault : FileError)
  | database (fault : LoadError)
  | character (fault : CharacterError)

namespace FilesError

/-- The wording. -/
def message : FilesError → String
  | noFiles => "Pipeline error: no database files given"
  | file fault => "File processing failed: " ++ fault.message
  | database fault => "Database load failed: " ++ fault.message
  | character fault => "Character load failed: " ++ fault.message

/-- The code that a log line carries. -/
def code : FilesError → String
  | noFiles => "ERR001"
  | file fault => fault.code
  | database fault => fault.code
  | character fault => fault.code

end FilesError

/-- A database and the files that it was read from. -/
structure LoadedFiles where
  database : Database
  files : List FileFacts

/-- The number of lines of all files. -/
def LoadedFiles.lines (loaded : LoadedFiles) : Nat :=
  loaded.files.foldl (fun count file => count + file.lines) 0

/-- How the file of a saved character is read. -/
def FilePreferences.forCharacter (preferences : FilePreferences) : FilePreferences :=
  { preferences with requiresExtension := false }

/-- The character that the text of a file holds. -/
def DataFile.saved (file : DataFile) : Except CharacterError SavedCharacter :=
  match SavedCharacter.ofText? file.source.text with
  | some saved => .ok saved
  | none => .error .unreadable

namespace Folder

variable (folder : Folder) (settings : Settings)

/-- The files at some paths. -/
def readAll : List String → Except FileError (List DataFile)
  | [] => .ok []
  | path :: rest => do
    let file ← folder.read settings.files path
    let files ← readAll rest
    return file :: files

/-- The database of the files at some paths. -/
def loadDatabase (paths : List String) : Except FilesError LoadedFiles := do
  if paths.isEmpty then throw .noFiles
  let files ← (folder.readAll settings paths).mapError .file
  let database ← (Database.load (files.map DataFile.source) settings.load).mapError .database
  return ⟨database, files.map DataFile.facts⟩

/-- The character that the file at a path holds. -/
def loadCharacter (db : Database) (path : String) : Except FilesError Character := do
  let file ← (folder.read settings.files.forCharacter path).mapError .file
  let saved ← file.saved.mapError .character
  (Character.restore db saved).mapError .character

/-! ### The same, told -/

/-- The files at some paths, told. -/
def readAllTold : List String → Attempt FileError (List DataFile)
  | [] => pure []
  | path :: rest => do
    let file ← folder.readTold settings.files path
    let files ← readAllTold rest
    return file :: files

/-- The database of the files at some paths, told. -/
def loadDatabaseTold (paths : List String) : Attempt FilesError LoadedFiles := do
  if paths.isEmpty then throw .noFiles
  Narration.info "Starting database load pipeline" [("files", toString paths.length)]
  let files ← ExceptT.adapt .file (folder.readAllTold settings paths)
  let database ← ExceptT.adapt .database
    (Database.loadTold (files.map DataFile.source) settings.load)
  return ⟨database, files.map DataFile.facts⟩

/-- The character that the file at a path holds, told. -/
def loadCharacterTold (db : Database) (path : String) : Attempt FilesError Character := do
  let file ← ExceptT.adapt .file (folder.readTold settings.files.forCharacter path)
  let saved ← Attempt.ofExcept (fun _ => pure ()) (file.saved.mapError .character)
  ExceptT.adapt .character (Character.restoreTold db saved)

/-! ### Telling changes nothing -/

theorem gives_readAllTold (paths : List String) :
    (folder.readAllTold settings paths).Gives (folder.readAll settings paths) := by
  induction paths with
  | nil => exact .pure []
  | cons path rest ih =>
    exact .andThen (folder.gives_readTold settings.files path) fun file =>
      .andThen ih fun files => .pure _

theorem gives_loadDatabaseTold (paths : List String) :
    (folder.loadDatabaseTold settings paths).Gives (folder.loadDatabase settings paths) := by
  unfold loadDatabaseTold loadDatabase
  cases paths with
  | nil => exact fun _ => rfl
  | cons path rest =>
    refine .bind (.lift _) ?_
    refine .andThen (.adapt _ (gives_readAllTold folder settings _)) fun files => ?_
    exact .andThen (.adapt _ (Database.gives_loadTold _ _)) fun database => .pure _

theorem gives_loadCharacterTold (db : Database) (path : String) :
    (folder.loadCharacterTold settings db path).Gives
      (folder.loadCharacter settings db path) := by
  unfold loadCharacterTold loadCharacter
  refine .andThen (.adapt _ (folder.gives_readTold _ path)) fun file => ?_
  refine .andThen (.ofExcept _ _) fun saved => ?_
  exact .adapt _ (Character.gives_restoreTold db saved)

end Folder
end PointBuy
