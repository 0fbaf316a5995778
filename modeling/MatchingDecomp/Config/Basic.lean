import MatchingDecomp.Run.Store
import MatchingDecomp.Time.Span

/-!
# Configuration

Which backends carry out the stages and how they are reached. A configuration is usable when none of
the rules in `problems` is broken.
-/

namespace MatchingDecomp

/-- What carries out a stage. -/
inductive BackendKind where
  /-- A stand-in that needs nothing from outside. -/
  | mock
  /-- A service or an external program. -/
  | real
  deriving DecidableEq, Repr

/-- Every kind of backend with its name. -/
def BackendKind.labels : List (String × BackendKind) :=
  [("mock", .mock), ("real", .real)]

/-- The name of a kind of backend. -/
def BackendKind.label : BackendKind → String
  | .mock => "mock"
  | .real => "real"

/-- A configuration. -/
structure Config where
  apiKey : Option String := none
  baseUrl : String := "http://localhost:8080"
  modelProvider : String := "openai"
  timeoutMs : Nat := 30000
  debug : Bool := false
  generatorBackend : BackendKind := .mock
  compilerBackend : BackendKind := .mock
  verifierBackend : BackendKind := .mock
  compilerPath : String := "cc"
  compilerArgs : List String := []
  objdiffPath : String := "objdiff"
  referenceDir : Option String := none
  historyLimit : Nat := Store.defaultLimit
  deriving DecidableEq, Repr

namespace Config

/-- The shortest time that a backend may be given, in milliseconds. -/
def minTimeoutMs : Nat := 1000

/-- The longest time that a backend may be given, in milliseconds. -/
def maxTimeoutMs : Nat := 300000

/-- The first number that does not fit into a setting. -/
def countLimit : Nat := 18446744073709551616

/-- The time that backends are given. -/
def timeout (c : Config) : Span :=
  .ofMillis c.timeoutMs

/-- The history that the configuration asks for. -/
def newStore (c : Config) : Store :=
  .withLimit c.historyLimit

/-- A rule and the text that says how it is broken. -/
def problemIf (broken : Bool) (text : String) : List String :=
  if broken then [text] else []

/-- The rules that the configuration breaks, in order. -/
def problems (c : Config) : List String :=
  problemIf (c.generatorBackend == .real && c.apiKey.all Text.isBlankText)
    "API key is required for the remote generator" ++
  problemIf (!(minTimeoutMs ≤ c.timeoutMs && c.timeoutMs ≤ maxTimeoutMs))
    ("timeout must be between " ++ Decimal.text minTimeoutMs ++ " and " ++
      Decimal.text maxTimeoutMs ++ " ms, got " ++ Decimal.text c.timeoutMs) ++
  problemIf (c.historyLimit == 0)
    "history limit must be greater than zero" ++
  problemIf (c.verifierBackend == .real && c.referenceDir.isNone)
    "reference directory is required for the objdiff verifier" ++
  problemIf (c.verifierBackend == .real && c.compilerBackend == .mock)
    "the objdiff verifier needs real object files from the subprocess compiler"

end Config

end MatchingDecomp
