import PointBuy.File.Basic
import PointBuy.File.Size
import PointBuy.Journal.Narration

/-!
# Files, told

Reading a file, with what is told of it.

## Main statement

* `Folder.gives_readTold` : telling changes nothing.
-/

namespace PointBuy

open Narration (debug success)

/-- Tells that a file has been read, and if asked how large it is and how long that took. -/
def DataFile.tell (file : DataFile) (preferences : FilePreferences) : Narration Unit :=
  if preferences.tellsPerformance then
    success "I006" "File processed successfully with performance metrics"
      [("file", file.facts.path), ("size_human", FileSize.text file.facts.size),
        ("lines", toString file.facts.lines),
        ("duration_ms", Decimal.twoPlaces file.nanoseconds 1000000)]
  else success "I006" "File processed successfully" [("file", file.facts.path)]

namespace Folder

/-- The file at a path, told. -/
def readTold (folder : Folder) (preferences : FilePreferences) (path : String) :
    Attempt FileError DataFile := do
  debug "Starting file processing" [("file", path)]
  let file ← Attempt.ofExcept
    (fun e => Narration.error e.code e.logMessage none (e.logFacts path))
    (folder.read preferences path)
  file.tell preferences
  return file

theorem gives_readTold (folder : Folder) (preferences : FilePreferences) (path : String) :
    (folder.readTold preferences path).Gives (folder.read preferences path) := by
  unfold readTold
  refine .bind (.lift _) ?_
  cases folder.read preferences path with
  | error e => exact .bind_error (.ofExcept _ (.error e))
  | ok file => exact .bind (.ofExcept _ (.ok file)) (.bind (.lift _) (.pure _))

end Folder
end PointBuy
