import MatchingDecomp.Config.Basic

/-!
# Configuration from the environment

Each setting has a variable. A variable that is missing, blank, or holds no value of its setting
leaves the default in place.
-/

namespace MatchingDecomp.Config

open Text

/-- The variables: a value for each name that has one. -/
abbrev Environment := String → Option String

/-- The names of the variables that are read. -/
def variableNames : List String :=
  ["DECOMP_API_KEY", "DECOMP_BASE_URL", "DECOMP_MODEL_PROVIDER", "DECOMP_TIMEOUT_MS",
    "DECOMP_DEBUG", "DECOMP_GENERATOR", "DECOMP_COMPILER", "DECOMP_VERIFIER",
    "DECOMP_COMPILER_PATH", "DECOMP_COMPILER_ARGS", "DECOMP_OBJDIFF_PATH", "DECOMP_REFERENCE_DIR",
    "DECOMP_HISTORY_LIMIT"]

/-- The value of a variable that is not blank. -/
def given? (env : Environment) (name : String) : Option String :=
  (env name).filter fun value => !isBlankText value

/-- A number in a text, blanks around it aside: digits after an optional plus sign. -/
def parseCount? (s : String) : Option Nat :=
  let digits := match trim s.toList with
    | '+' :: rest => rest
    | cs => cs
  if digits.isEmpty || !digits.all isDigit then none
  else (some (Decimal.value digits)).filter (· < countLimit)

/-- A text without the blanks around it, in lower case as far as ASCII goes. -/
def keyword (s : String) : String :=
  String.ofList ((trim s.toList).map asciiLower)

/-- The kind of backend that a text names. -/
def parseKind? (s : String) : Option BackendKind :=
  BackendKind.labels.lookup (keyword s)

/-- Whether a text says yes. -/
def parseFlag (s : String) : Bool :=
  ["1", "true", "yes"].contains (keyword s)

/-- The words of a text. -/
def parseWords (s : String) : List String :=
  (words s.toList).map String.ofList

/-- The configuration that an environment asks for. -/
def ofEnvironment (env : Environment) : Config :=
  let var := given? env
  let default : Config := {}
  { apiKey := var "DECOMP_API_KEY"
    baseUrl := (var "DECOMP_BASE_URL").getD default.baseUrl
    modelProvider := (var "DECOMP_MODEL_PROVIDER").getD default.modelProvider
    timeoutMs := ((var "DECOMP_TIMEOUT_MS").bind parseCount?).getD default.timeoutMs
    debug := ((var "DECOMP_DEBUG").map parseFlag).getD default.debug
    generatorBackend := ((var "DECOMP_GENERATOR").bind parseKind?).getD default.generatorBackend
    compilerBackend := ((var "DECOMP_COMPILER").bind parseKind?).getD default.compilerBackend
    verifierBackend := ((var "DECOMP_VERIFIER").bind parseKind?).getD default.verifierBackend
    compilerPath := (var "DECOMP_COMPILER_PATH").getD default.compilerPath
    compilerArgs := ((var "DECOMP_COMPILER_ARGS").map parseWords).getD default.compilerArgs
    objdiffPath := (var "DECOMP_OBJDIFF_PATH").getD default.objdiffPath
    referenceDir := var "DECOMP_REFERENCE_DIR"
    historyLimit := ((var "DECOMP_HISTORY_LIMIT").bind parseCount?).getD default.historyLimit }

end MatchingDecomp.Config
