import MatchingDecomp.CommandLine.Basic
import Std.Time.DateTime.Timestamp

/-!
# The program

The outer layer: it collects what the command may look at into a machine, lets the command line do
its work there, and puts the result where it belongs. No external program is installed on that
machine and no service can be reached from it.
-/

namespace MatchingDecomp

/-- The tree with a directory and everything above it. -/
def FileTree.withDirectories (t : FileTree) (path : String) : FileTree :=
  match t.makeDirectories path with
  | .ok made => made
  | .error _ => t

/-- The tree with a file that is really there; a file that cannot be read is left out. -/
def FileTree.loading (t : FileTree) (path : String) : IO FileTree := do
  try
    let data ← IO.FS.readBinFile path
    let t := t.withDirectories ((Path.parent? path).getD "/")
    return (match t.write path data.toList with | .ok t => t | .error _ => t)
  catch _ => return t

/-- Put a new file or directory of the tree where it belongs. -/
def FileTree.storeEntry : Place × Node → IO Unit
  | (place, .file data) => do
    IO.FS.createDirAll (Path.ofSegments place.dropLast)
    IO.FS.writeBinFile (Path.ofSegments place) ⟨data.toArray⟩
  | (place, .directory) => IO.FS.createDirAll (Path.ofSegments place)
  | (_, .device _) => pure ()

/-- The reading of the clock. -/
def Instant.now : IO Instant := do
  let nanos := (← Std.Time.Timestamp.now).toNanosecondsSinceUnixEpoch.toInt
  return ⟨nanos / 1000000000, (nanos % 1000000000).toNat⟩

/-- The values of the variables that are read. -/
def readEnvironment : IO Config.Environment := do
  let values ← Config.variableNames.filterMapM fun name => do
    return (← IO.getEnv name).map (name, ·)
  return fun name => values.lookup name

/-- The machine for a list of arguments, with every file that one of them names. -/
def machineFor (arguments : List String) : IO Machine := do
  let workingDirectory := (← IO.getEnv "PWD").getD "/"
  let tempDirectory := (← IO.getEnv "TMPDIR").getD "/tmp"
  let base := (({} : FileTree).withDirectories workingDirectory).withDirectories tempDirectory
  let files ← arguments.foldlM
    (fun t argument => t.loading (Path.join workingDirectory argument)) base
  return { files, workingDirectory, tempDirectory, clock := ← Instant.now }

end MatchingDecomp

open MatchingDecomp in
def main (arguments : List String) : IO UInt32 := do
  let before ← machineFor arguments
  let (ending, after) :=
    CommandLine.run "matching-decomp" arguments (← readEnvironment) before
  (after.files.entries.filter fun e => e ∉ before.files.entries).forM FileTree.storeEntry
  IO.print ending.stdout
  if let some message := ending.failure then IO.eprintln ("Error: " ++ message)
  return UInt32.ofNat ending.code
