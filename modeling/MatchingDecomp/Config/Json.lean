import MatchingDecomp.Config.Basic
import MatchingDecomp.Host.Machine
import MatchingDecomp.Json.Reader
import MatchingDecomp.Json.Record

/-!
# Configuration files

A configuration file is a JSON record. Settings that it does not mention have their defaults.
-/

namespace MatchingDecomp.Config

open Json

/-- The names of the settings, in order. -/
def fieldNames : List String :=
  ["api_key", "base_url", "model_provider", "timeout_ms", "debug", "generator_backend",
    "compiler_backend", "verifier_backend", "compiler_path", "compiler_args", "objdiff_path",
    "reference_dir", "history_limit"]

/-- The record of a configuration. -/
def toJson (c : Config) : Value :=
  .record (fieldNames.zip
    [.optText c.apiKey, .text c.baseUrl, .text c.modelProvider, .nat c.timeoutMs, .bool c.debug,
      .text c.generatorBackend.label, .text c.compilerBackend.label, .text c.verifierBackend.label,
      .text c.compilerPath, .texts c.compilerArgs, .text c.objdiffPath, .optText c.referenceDir,
      .nat c.historyLimit])

/-- The configuration of a record. -/
def ofJson? (v : Value) : Option Config := do
  let kind := withDefault (Value.choice? BackendKind.labels)
  let count := withDefault (Value.natBelow? countLimit)
  let text := withDefault Value.text?
  let default : Config := {}
  match ← fields? fieldNames .optional v with
  | [apiKey, baseUrl, modelProvider, timeoutMs, debug, generator, compiler, verifier, compilerPath,
      compilerArgs, objdiffPath, referenceDir, historyLimit] =>
    return {
      apiKey := ← optional Value.text? apiKey
      baseUrl := ← text default.baseUrl baseUrl
      modelProvider := ← text default.modelProvider modelProvider
      timeoutMs := ← count default.timeoutMs timeoutMs
      debug := ← withDefault Value.bool? default.debug debug
      generatorBackend := ← kind default.generatorBackend generator
      compilerBackend := ← kind default.compilerBackend compiler
      verifierBackend := ← kind default.verifierBackend verifier
      compilerPath := ← text default.compilerPath compilerPath
      compilerArgs := ← withDefault Value.texts? default.compilerArgs compilerArgs
      objdiffPath := ← text default.objdiffPath objdiffPath
      referenceDir := ← optional Value.text? referenceDir
      historyLimit := ← count default.historyLimit historyLimit }
  | _ => none

/-- Why a configuration file was not loaded. -/
inductive FileError where
  | unreadable (path : String)
  | malformed (path : String)
  deriving DecidableEq, Repr

/-- The text of the reason. -/
def FileError.message : FileError → String
  | .unreadable path => "Failed to read config file: " ++ path
  | .malformed path => "Failed to parse config file: " ++ path

/-- Load a configuration file. -/
def load (m : Machine) (path : String) : Except FileError Config :=
  match m.readText path with
  | none => .error (.unreadable path)
  | some text =>
    match (parse? text).bind ofJson? with
    | some config => .ok config
    | none => .error (.malformed path)

end MatchingDecomp.Config
