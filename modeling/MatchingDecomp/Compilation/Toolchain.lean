import MatchingDecomp.Compilation.Basic
import MatchingDecomp.Digest.Sha256
import MatchingDecomp.Host.Machine
import MatchingDecomp.Text.Lines
import MatchingDecomp.Text.Lower
import MatchingDecomp.Text.Search

/-!
# The toolchain

A compiler that runs an external program in a workspace of its own. The workspace goes with the
object: a compilation that fails removes it at once, and one that succeeds keeps it until the
outcome is released. The program is asked for its version once, before the first compilation, and
whatever came of that is kept.
-/

namespace MatchingDecomp

open Text

/-- An external compiler. -/
structure Toolchain where
  path : String
  arguments : List String
  timeout : Span
  deriving DecidableEq, Repr

/-- The machine, and what is known about the version of the toolchain: nothing yet, or what came of
asking. -/
structure Workbench where
  machine : Machine := {}
  version : Option (Option String) := none

/-- The machine of a workbench. -/
def Workbench.machinePart : Part Workbench Machine where
  get := Workbench.machine
  set := fun m w => { w with machine := m }

namespace Toolchain

/-- What a run of the compiler amounts to. -/
def interpret (t : Toolchain) : ToolRun → Except CompilerError ToolOutput
  | .finished output => .ok output
  | .timedOut => .error (.timedOut t.timeout)
  | .refused cause =>
    if cause = .notFound ∨ cause = .permissionDenied then
      .error (.unavailable (t.path ++ ": " ++ cause.message))
    else .error (.io cause)

/-- Run the compiler. -/
def run (t : Toolchain) (arguments : List String) :
    StateM Machine (Except CompilerError ToolOutput) := fun m =>
  let (answer, m) := m.run t.path (t.arguments ++ arguments)
  (t.interpret answer, m)

/-! ### The version -/

/-- The version in what the compiler prints: its first line that is not blank. -/
def versionOf (output : ToolOutput) : Option String :=
  if output.status.isSuccess then firstContentLine (Utf8.lossy output.stdout) else none

/-- Ask the compiler for its version. -/
def queryVersion (t : Toolchain) : StateM Machine (Except CompilerError (Option String)) := do
  match ← t.run ["--version"] with
  | .ok output => return .ok (versionOf output)
  | .error e => return .error e

/-- The version of the compiler, for which it is asked only if it was not asked before. -/
def detectVersion (t : Toolchain) : StateM Workbench (Option String) := do
  match (← get).version with
  | some version => return version
  | none =>
    let version := match ← Workbench.machinePart.lift t.queryVersion with
      | .ok version => version
      | .error _ => none
    modify fun w => { w with version := some version }
    return version

/-! ### Diagnostics -/

/-- Whether a line mentions a word, in any case of letters. -/
def mentionsWord (word : String) (line : List Char) : Bool :=
  occursIn word.toList (lower line)

/-- The lines of the diagnostics that are warnings. -/
def warnings (stderr : List Char) : List String :=
  ((contentLines stderr).filter (mentionsWord "warning")).map String.ofList

/-- The lines of the diagnostics that are errors: a line that also mentions a warning is not. -/
def errors (stderr : List Char) : List String :=
  ((contentLines stderr).filter fun line =>
    !mentionsWord "warning" line && mentionsWord "error" line).map String.ofList

/-- The outcome of a compilation that left no object. -/
def failure (output : ToolOutput) : Outcome :=
  let stderr := Utf8.lossy output.stderr
  let errors := errors stderr
  .failed
    (if errors.isEmpty then ["compiler exited with " ++ output.status.text] else errors)
    (warnings stderr)

/-! ### Compiling -/

/-- Compile the source in a workspace and collect the object. -/
def compileIn (t : Toolchain) (workspace source : String) :
    StateM Machine (Except CompilerError Outcome) := fun m =>
  let input := Path.join workspace "candidate.c"
  let object := Path.join workspace "candidate.o"
  match m.files.write input (Utf8.ofString source) with
  | .error e => (.error (.io e), m)
  | .ok files =>
    match t.run ["-c", input, "-o", object] { m with files } with
    | (.error e, m) => (.error e, m)
    | (.ok output, m) =>
      if output.status.isSuccess && m.files.exists? object then
        match m.files.read object with
        | .error e => (.error (.io e), m)
        | .ok data =>
          let artifact :=
            { path := object, digest := Sha256.hex data, workspace := some workspace }
          (.ok (.succeeded artifact (warnings (Utf8.lossy output.stderr))), m)
      else (.ok (failure output), m)

/-- Whether a compilation keeps its workspace. -/
def keepsWorkspace : Except CompilerError Outcome → Bool
  | .ok outcome => outcome.success
  | .error _ => false

/-- Compile the source in a workspace that is removed again unless it holds an object. -/
def compileFresh (t : Toolchain) (source : String) :
    StateM Machine (Except CompilerError Outcome) := fun m =>
  match m.newWorkspace with
  | (.error e, m) => (.error (.io e), m)
  | (.ok workspace, m) =>
    let (answer, m) := t.compileIn workspace source m
    (answer, if keepsWorkspace answer then m else m.dropWorkspace workspace)

/-- Compile a source, after the version is known. -/
def compileChecked (t : Toolchain) (source : String) :
    StateM Workbench (Except CompilerError Outcome) := do
  let _ ← t.detectVersion
  Workbench.machinePart.lift (t.compileFresh source)

/-- Remove the workspace of an outcome. -/
def release (outcome : Outcome) (w : Workbench) : Workbench :=
  match outcome.artifact.bind Artifact.workspace with
  | some workspace => { w with machine := w.machine.dropWorkspace workspace }
  | none => w

/-- The toolchain as a compiler. -/
def compiler (t : Toolchain) : Compiler Workbench where
  describe := fun w => { path := t.path, version := w.version.join }
  compileChecked := t.compileChecked
  release := release

end Toolchain

end MatchingDecomp
