import MatchingDecomp.Compilation.Basic
import MatchingDecomp.Digest.Sha256
import MatchingDecomp.Host.Path
import MatchingDecomp.Text.Search

/-!
# The stand-in compiler

A compiler that runs nothing. It accepts every source with an include and a pair of braces, and its
object is the source itself, so that equal sources have equal digests.
-/

namespace MatchingDecomp.StandIn

open Text

/-- The characters of a digest that are taken into a file name. -/
def digestPart : Nat := 12

/-- The object of a source. -/
def artifact (tempDirectory source : String) : Artifact :=
  let digest := Sha256.hex (Utf8.ofString source)
  let name := "compiled_" ++ String.ofList (digest.toList.take digestPart) ++ ".o"
  { path := Path.join tempDirectory name, digest }

/-- Whether a source has what every program has: an include and a function body. -/
def isProgram (source : String) : Bool :=
  mentions "#include" source && source.toList.contains '{' && source.toList.contains '}'

/-- Whether a source seems to define the main function. -/
def hasMain (source : String) : Bool :=
  mentions "int main" source || mentions "void main" source

/-- The outcome for a source. -/
def outcome (tempDirectory source : String) : Outcome :=
  if isProgram source then
    .succeeded (artifact tempDirectory source)
      (if hasMain source then [] else ["No main function found"])
  else .failed ["Invalid C code structure"] ["Missing includes or function brackets"]

/-- The stand-in compiler. -/
def compiler (σ : Type) (tempDirectory : String) : Compiler σ where
  describe := fun _ => { path := "mock-cc", version := some "Mock Compiler v1.0.0" }
  compileChecked := fun source => pure (.ok (outcome tempDirectory source))

end MatchingDecomp.StandIn
