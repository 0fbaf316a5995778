import MatchingDecomp.Compilation.StandIn
import MatchingDecomp.Compilation.Toolchain
import MatchingDecomp.Config.Basic
import MatchingDecomp.Generation.Remote
import MatchingDecomp.Generation.Template
import MatchingDecomp.Pipeline.Session
import MatchingDecomp.Verification.Heuristic
import MatchingDecomp.Verification.ObjectDiff

/-!
# The backends of a configuration

A configuration without problems names one backend for each stage.
-/

namespace MatchingDecomp.Config

/-- The service that the configuration names. -/
def client (c : Config) : Remote.Client where
  baseUrl := c.baseUrl
  apiKey := c.apiKey
  model := c.modelProvider
  timeout := c.timeout

/-- The external compiler that the configuration names. -/
def toolchain (c : Config) : Toolchain where
  path := c.compilerPath
  arguments := c.compilerArgs
  timeout := c.timeout

/-- The comparison tool that the configuration names, with the directory of the references. -/
def objectDiff (c : Config) (referenceDirectory : String) : ObjectDiff where
  path := c.objdiffPath
  referenceDirectory := referenceDirectory
  timeout := c.timeout

/-- The generator of a configuration. -/
def generator (c : Config) : Generator Workbench :=
  match c.generatorBackend with
  | .mock => Template.generator Workbench
  | .real => c.client.generator.lift Workbench.machinePart

/-- The compiler of a configuration, on a machine with the given directory for temporary files. -/
def compiler (c : Config) (tempDirectory : String) : Compiler Workbench :=
  match c.compilerBackend with
  | .mock => StandIn.compiler Workbench tempDirectory
  | .real => c.toolchain.compiler

/-- The verifier of a configuration. -/
def verifier (c : Config) : Verifier Workbench :=
  match c.verifierBackend, c.referenceDir with
  | .real, some directory => (c.objectDiff directory).verifier.lift Workbench.machinePart
  | _, _ => Heuristic.verifier Workbench {}

/-- The text that lists the problems of a configuration. -/
def refusal (problems : List String) : String :=
  "Invalid configuration: " ++ String.intercalate "; " problems

/-- The backends of a configuration, or the problems that it has. -/
def backends (c : Config) (tempDirectory : String) : Except (List String) (Backends Workbench) :=
  if c.problems.isEmpty then
    .ok { generator := c.generator, compiler := c.compiler tempDirectory, verifier := c.verifier }
  else .error c.problems

end MatchingDecomp.Config
