import MatchingDecomp.Digest.Sha256
import MatchingDecomp.Host.Machine
import MatchingDecomp.Verification.Basic
import MatchingDecomp.Verification.DiffReport
import MatchingDecomp.Verification.Percentage

/-!
# The object verifier

A verifier that compares the compiled object with a reference object of the same name. Objects with
equal digests match without further ado; for all others an external tool is run, and its report is
read.
-/

namespace MatchingDecomp

open Text

/-- The tool and the reference objects. -/
structure ObjectDiff where
  path : String
  referenceDirectory : String
  timeout : Span
  deriving DecidableEq, Repr

namespace ObjectDiff

/-- The reference object of a fragment. -/
def referenceFor (d : ObjectDiff) (fragment : Fragment) : String :=
  Path.join d.referenceDirectory (fragment.identifier ++ ".o")

/-- What is wrong when the tool fails: the first line it complains with, or its status. -/
def complaint (output : ToolOutput) : String :=
  (firstContentLine (Utf8.lossy output.stderr)).getD ("exited with " ++ output.status.text)

/-- The report in a run of the tool. -/
def interpret (d : ObjectDiff) : ToolRun → Except VerificationError String
  | .finished output =>
    if output.status.isSuccess then .ok (String.ofList (Utf8.lossy output.stdout))
    else .error (.backend (complaint output))
  | .timedOut => .error (.timedOut d.timeout)
  | .refused cause =>
    if cause = .notFound ∨ cause = .permissionDenied then
      .error (.unavailable (d.path ++ ": " ++ cause.message))
    else .error (.io cause)

/-- The score in a report: its first percentage, else a hundred if it calls the objects identical,
else nothing. -/
def score (report : String) : Nat :=
  (Percentage.parse? report).getD (if DiffReport.saysIdentical report then 100 else 0)

/-- The comparison in a report. -/
def comparison (report : String) : Comparison :=
  let categories := DiffReport.classify report
  { score := score report
    discrepancies :=
      if score report ≤ matchThreshold ∧ categories.isEmpty then [Category.unclassified]
      else categories
    detailedDiff := some report }

/-- The data of a reference object. -/
def readReference (d : ObjectDiff) (fragment : Fragment) (m : Machine) :
    Except VerificationError Bytes :=
  match m.files.read (m.absolute (d.referenceFor fragment)) with
  | .ok data => .ok data
  | .error .notFound => .error (.missingReference fragment.identifier)
  | .error e => .error (.io e)

/-- Compare an object with the reference of a fragment. -/
def compareObject (d : ObjectDiff) (fragment : Fragment) (artifact : Artifact) :
    StateM Machine (Except VerificationError Comparison) := fun m =>
  match d.readReference fragment m with
  | .error e => (.error e, m)
  | .ok data =>
    if Sha256.hex data = artifact.digest then (.ok .identical, m)
    else
      let (answer, m) := m.run d.path [d.referenceFor fragment, artifact.path]
      ((d.interpret answer).map comparison, m)

/-- The object verifier. -/
def verifier (d : ObjectDiff) : Verifier Machine where
  name := "objdiff"
  compare := fun fragment _ artifact =>
    match artifact with
    | some artifact => d.compareObject fragment artifact
    | none => pure (.error .missingArtifact)

end ObjectDiff

end MatchingDecomp
