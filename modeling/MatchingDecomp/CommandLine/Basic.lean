import MatchingDecomp.CommandLine.Options
import MatchingDecomp.Config.Environment
import MatchingDecomp.Config.Json
import MatchingDecomp.Decompile

/-!
# The command line

What the program prints and does for its arguments. Arguments that cannot be used are answered on
the standard output and count as a success; everything that fails later is a failure with one
message.
-/

namespace MatchingDecomp.CommandLine

/-- The version of the program. -/
def version : String := "0.1.0"

/-- The line that names the program. -/
def banner : String := "ASM Decompiler v" ++ version

/-- The usage of the program. -/
def usage (program : String) : List String :=
  [banner,
    "",
    "Usage:",
    "  " ++ program ++ " <FILE> [--function NAME] [--json] [--report PATH] [--config PATH]",
    "  " ++ program ++ " --version",
    "",
    "Options:",
    "  --function, -f NAME  Name of the function in the fragment",
    "  --json               Print the run as JSON",
    "  --report, -r PATH    Save a markdown verification report",
    "  --config, -c PATH    Load configuration from a JSON file",
    "  --version, -v        Show version information",
    "",
    "Without --config, settings are read from DECOMP_* environment variables."]

/-- What a command leaves behind, apart from files. -/
structure Ending where
  /-- The lines on the standard output. -/
  output : List String
  /-- What went wrong, if anything did. -/
  failure : Option String := none
  deriving DecidableEq, Repr

/-- The exit code of a command. -/
def Ending.code (e : Ending) : Nat :=
  if e.failure.isSome then 1 else 0

/-- The standard output of a command. -/
def Ending.stdout (e : Ending) : String :=
  Text.unlines e.output

/-! ### What is printed about a run -/

/-- The line of a progress event. -/
def eventLine (e : Event) : String :=
  "[" ++ String.ofList (Decimal.padLeft 3 (Decimal.digits e.percent)) ++ "%] " ++ e.message

/-- A confidence with two decimals. -/
def confidenceText (x : Single) : String :=
  match x.finite? with
  | some q =>
    (if x.isNegative then "-" else "") ++ String.ofList (Decimal.fixed 2 q.ratio.1 q.ratio.2)
  | none => if x.isNaN then "NaN" else if x.isNegative then "-inf" else "inf"

/-- The line that lists discrepancies, if there are any. -/
def issuesLine : Option (List String) → List String
  | some (d :: ds) => ["Issues:     " ++ String.intercalate ", " (d :: ds)]
  | _ => []

/-- A run in words. -/
def describe (run : Run) : List String :=
  ["",
    "Function:   " ++ run.fragmentIdentifier,
    "Status:     " ++ run.status.label,
    "Match:      " ++ Decimal.text (run.matchPercentage.getD 0) ++ "%",
    "Confidence: " ++ confidenceText run.confidence] ++
    run.compileErrors.map ("Compiler:   " ++ ·) ++
    issuesLine run.discrepancies ++
    ["", run.candidateSource]

/-- A run as it is printed. -/
def present (json : Bool) (run : Run) : List String :=
  if json then [run.toJson.pretty] else describe run

/-! ### Carrying out a command -/

/-- The configuration that the options and the environment ask for. -/
def configOf (o : Options) (env : Config.Environment) (m : Machine) :
    Except Config.FileError Config :=
  match o.config with
  | some path => Config.load m path
  | none => .ok (Config.ofEnvironment env)

/-- The fragment of a text from a file. -/
def fragmentOf (o : Options) (path text : String) : Fragment :=
  let fragment := match o.function with
    | some name => Fragment.withHint text name
    | none => Fragment.ofText text
  match Path.fileName? path with
  | some name => fragment.withOrigin name
  | none => fragment

/-- Decompile a fragment from a file and print what comes of it. -/
def decompileFile (o : Options) (config : Config) (path : String) (fragment : Fragment) :
    StateM Machine Ending := do
  match ← perform config fragment with
  | .error problems => return { output := [], failure := some (Config.refusal problems) }
  | .ok performance =>
    let output := ("Decompiling " ++ fragment.identifier ++ " from " ++ path) ::
      performance.events.map eventLine
    match performance.run with
    | .error e => return { output, failure := some e.message }
    | .ok run =>
      let output := output ++ present o.json run
      match ← saveReport run o.report with
      | .ok none => return { output }
      | .ok (some saved) => return { output := output ++ ["Report saved to: " ++ saved] }
      | .error e => return { output, failure := some e.message }

/-- Carry out a command whose options are read. -/
def carryOut (o : Options) (env : Config.Environment) (path : String) : StateM Machine Ending := do
  let m ← get
  match configOf o env m with
  | .error e => return { output := [], failure := some e.message }
  | .ok config =>
    match m.readText path with
    | none => return { output := [], failure := some ("Failed to read assembly file: " ++ path) }
    | some text => decompileFile o config path (fragmentOf o path text)

/-- The program: its name, its arguments and the environment. -/
def run (program : String) (arguments : List String) (env : Config.Environment) :
    StateM Machine Ending := do
  match arguments with
  | [] => return { output := usage program }
  | first :: rest =>
    if first == "--version" || first == "-v" then return { output := [banner] }
    else if first.toList.head? == some '-' then return { output := usage program }
    else
      let (options, error) := Options.read {} rest
      let notes := options.unknown.map ("Unknown argument: " ++ ·)
      match error with
      | some e => return { output := notes ++ ["Error: " ++ e.message] }
      | none =>
        let ending ← carryOut options env first
        return { ending with output := notes ++ ending.output }

end MatchingDecomp.CommandLine
