import MatchingDecomp.Decimal.Shortest
import MatchingDecomp.Run.Summary
import MatchingDecomp.Text.Lines

/-!
# Verification reports

A summary of runs in Markdown: the counts, then a section for each run that is no success.
-/

namespace MatchingDecomp.Report

/-- The share of successful runs with one decimal. -/
def rateText (s : Summary) : String :=
  match s.successRate? with
  | some rate => String.ofList (Decimal.fixed 1 rate.ratio.1 rate.ratio.2) ++ "%"
  | none => "n/a"

/-- The lines with the counts. -/
def summaryLines (s : Summary) : List String :=
  ["## Summary",
    "- Total functions: " ++ Decimal.text s.total,
    "- Successful verifications: " ++ Decimal.text s.success,
    "- Partial matches: " ++ Decimal.text s.warning,
    "- Failed compilations: " ++ Decimal.text s.error,
    "- Success rate: " ++ rateText s,
    ""]

/-- The lines that name discrepancies. -/
def issueLines : Option (List String) → List String
  | some (d :: ds) => "- Issues:" :: (d :: ds).map ("  - " ++ ·)
  | _ => []

/-- The section of a run. -/
def sectionLines (run : Run) : List String :=
  ["### " ++ run.fragmentIdentifier ++ " (" ++ run.status.label ++ ")"] ++
    (run.sourceFragmentRef.map ("- Source: " ++ ·)).toList ++
    ["- Match percentage: " ++ Decimal.text (run.matchPercentage.getD 0) ++ "%"] ++
    run.compileErrors.map ("- Compiler: " ++ ·) ++
    issueLines run.discrepancies ++ [""]

/-- The sections of the runs that are no success, under their heading. -/
def failedLines (runs : List Run) : List String :=
  match runs.filter fun run => run.status ≠ .success with
  | [] => []
  | failed => ["## Failed Verifications", ""] ++ failed.flatMap sectionLines

/-- The report on runs, made at a time that is given by its text. -/
def render (timestamp : String) (runs : List Run) : String :=
  Text.unlines (["# Decompilation Verification Report", "", "Generated: " ++ timestamp, ""] ++
    summaryLines (.ofRuns runs) ++ failedLines runs)

end MatchingDecomp.Report
