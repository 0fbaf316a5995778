import MatchingDecomp.Generation.Basic
import MatchingDecomp.Host.Machine
import MatchingDecomp.Json.Reader
import MatchingDecomp.Json.Writer

/-!
# The generation service

A generator that posts the fragment to a service and takes the candidate from its answer. Every way
in which that can fail is one of three: the service does not answer in time, it cannot be reached,
or it answers something that is no candidate.
-/

namespace MatchingDecomp.Remote

/-- How to reach a service. -/
structure Client where
  baseUrl : String
  apiKey : Option String
  model : String
  timeout : Span
  deriving DecidableEq, Repr

/-- A text without the slashes it ends with. -/
def dropSlashes (s : String) : String :=
  String.ofList (s.toList.reverse.dropWhile (· == '/')).reverse

/-- Where requests are posted. -/
def Client.endpoint (c : Client) : String :=
  dropSlashes c.baseUrl ++ "/v1/decompile"

/-- What a request says. -/
def Client.body (c : Client) (fragment : Fragment) : Json.Value :=
  .record [("assembly", .text fragment.text), ("function_name", .text fragment.identifier),
    ("model", .text c.model)]

/-- The request for a fragment. -/
def Client.request (c : Client) (fragment : Fragment) : Http.Request where
  endpoint := c.endpoint
  authorization := c.apiKey.map ("Bearer " ++ ·)
  body := (c.body fragment).compact

/-- What a service answers. -/
structure Answer where
  success : Bool
  source : String
  explanation : Option String
  confidence : Option Single
  deriving DecidableEq, Repr

/-- The answer in a record. -/
def Answer.ofJson? (v : Json.Value) : Option Answer := do
  match ← Json.fields? ["success", "cCode", "explanation", "confidence"] .required v with
  | [success, source, explanation, confidence] =>
    return {
      success := ← Json.required Json.Value.bool? success
      source := ← Json.withDefault Json.Value.text? "" source
      explanation := ← Json.optional Json.Value.text? explanation
      confidence := ← Json.optional Json.Value.single? confidence }
  | _ => none

/-- The confidence in a candidate when the service gives none: 0.5. -/
def defaultConfidence : Single := ⟨0x3F000000⟩

/-- The candidate in an answer. -/
def Answer.candidate (a : Answer) : Except GenerationError Candidate :=
  if a.success then .ok ⟨a.source, a.confidence.getD defaultConfidence⟩
  else .error (.backend (a.explanation.getD "service reported failure"))

/-- The candidate in the body of an answer. -/
def readBody (body : Bytes) : Except GenerationError Candidate :=
  match (Json.ofUnits? (Utf8.units body)).bind Answer.ofJson? with
  | some answer => answer.candidate
  | none => .error (.backend "error decoding response body")

/-- The answer with a status that reports no success. -/
def refusal (status : Nat) : GenerationError :=
  .backend ("service answered HTTP " ++ Http.statusText status)

/-- The candidate that comes of a request. -/
def Client.receive (c : Client) : Http.Delivery → Except GenerationError Candidate
  | .unsendable => .error (.backend "builder error")
  | .refused => .error (.unreachable ("error sending request for url (" ++ c.endpoint ++ ")"))
  | .replied .hangUp =>
    .error (.unreachable ("error sending request for url (" ++ c.endpoint ++ ")"))
  | .replied .silence => .error (.timedOut c.timeout)
  | .replied (.cutShort status) =>
    if Http.isSuccess status then .error (.backend "request or response body error")
    else .error (refusal status)
  | .replied (.answer status body) =>
    if Http.isSuccess status then readBody (if Http.carriesBody status then body else [])
    else .error (refusal status)

/-- The generator that asks the service. -/
def Client.generator (c : Client) : Generator Machine where
  name := "remote"
  produce := fun fragment m =>
    let (delivery, m) := m.post (c.request fragment)
    (c.receive delivery, m)

end MatchingDecomp.Remote
