import MatchingDecomp.Host.Machine
import MatchingDecomp.Json.Writer
import MatchingDecomp.Report.Basic
import MatchingDecomp.Run.Json

/-!
# Saving reports

A report or an export of the history is written to a file. Directories on the way to it that are
missing are made first.
-/

namespace MatchingDecomp

/-- Why nothing was saved. -/
inductive SaveError where
  | makeDirectory (path : String)
  | createFile (path : String) (cause : OsError)
  | writeFile (path : String)
  deriving DecidableEq, Repr

/-- The text of a save error. -/
def SaveError.message : SaveError → String
  | .makeDirectory path => "Failed to create directory: " ++ path
  | .createFile path cause => "Failed to create file: " ++ path ++ " - Error: " ++ cause.message
  | .writeFile path => "Failed to write to file: " ++ path

namespace Report

/-- Make the directory that an absolute path is in, if it is missing. -/
def prepareDirectory (files : FileTree) (path : String) : Except SaveError Unit × FileTree :=
  match Path.parent? path with
  | none => (.ok (), files)
  | some directory =>
    if files.exists? directory then (.ok (), files)
    else
      match files.makeMissing directory with
      | (.ok (), made) => (.ok (), made)
      | (.error _, made) => (.error (.makeDirectory directory), made)

/-- Write a text to an absolute path. Directories that were made for it stay, also if the file
cannot be written. -/
def writeTo (files : FileTree) (path contents : String) : Except SaveError Unit × FileTree :=
  match prepareDirectory files path with
  | (.error e, prepared) => (.error e, prepared)
  | (.ok (), prepared) =>
    match prepared.create path with
    | .error e => (.error (.createFile path e), prepared)
    | .ok (place, opened) =>
      match opened.fill place (Utf8.ofString contents) with
      | .error _ => (.error (.writeFile path), opened)
      | .ok written => (.ok (), written)

/-- Write a text to a path, and return the path as an absolute one. -/
def saveText (path contents : String) : StateM Machine (Except SaveError String) := fun m =>
  let path := m.absolute path
  let (answer, files) := writeTo m.files path contents
  (answer.map fun _ => path, { m with files })

/-- Save the report on runs. -/
def save (runs : List Run) (path : String) : StateM Machine (Except SaveError String) := fun m =>
  saveText path (render m.clock.stamp runs) m

/-- The runs as an exported text. -/
def exportText (runs : List Run) : String :=
  (Json.Value.array (runs.map Run.toJson)).pretty

/-- Save the runs themselves. -/
def saveExport (runs : List Run) (path : String) : StateM Machine (Except SaveError String) :=
  saveText path (exportText runs)

end Report

end MatchingDecomp
