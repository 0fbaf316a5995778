import MatchingDecomp.Json.Record
import MatchingDecomp.Run.Basic

/-!
# Runs as JSON

The record of a run as it is exported, and back. Reading a record back asks for every field but the
optional ones.
-/

namespace MatchingDecomp.Run

open Json

/-- The fields of a record, in order. -/
def fieldNames : List String :=
  ["id", "fragment_identifier", "source_fragment_ref", "candidate_source", "confidence", "status",
    "match_percentage", "created_at", "discrepancies", "compile_errors", "compile_warnings",
    "detailed_diff"]

/-- A list of texts that may be missing. -/
def optTexts : Option (List String) → Value
  | some xs => .texts xs
  | none => .null

/-- A number that may be missing. -/
def optNat : Option Nat → Value
  | some n => .nat n
  | none => .null

/-- The record of a run. -/
def toJson (r : Run) : Value :=
  .record (fieldNames.zip
    [.text r.id.text, .text r.fragmentIdentifier, .optText r.sourceFragmentRef,
      .text r.candidateSource, .single r.confidence, .text r.status.label,
      optNat r.matchPercentage, .text r.createdAt.text, optTexts r.discrepancies,
      .texts r.compileErrors, .texts r.compileWarnings, .optText r.detailedDiff])

/-- The run of a record. -/
def ofJson? (v : Value) : Option Run := do
  match ← fields? fieldNames .required v with
  | [id, identifier, ref, source, confidence, status, percentage, created, discrepancies, errors,
      warnings, diff] =>
    return {
      id := ⟨← required Value.text? id⟩
      fragmentIdentifier := ← required Value.text? identifier
      sourceFragmentRef := ← optional Value.text? ref
      candidateSource := ← required Value.text? source
      confidence := ← required Value.single? confidence
      status := ← required (Value.choice? RunStatus.labels) status
      matchPercentage := ← optional (Value.natBelow? 256) percentage
      createdAt := ← (← required Value.text? created) |> Instant.parse?
      discrepancies := ← optional Value.texts? discrepancies
      compileErrors := ← required Value.texts? errors
      compileWarnings := ← required Value.texts? warnings
      detailedDiff := ← optional Value.text? diff }
  | _ => none

end MatchingDecomp.Run
