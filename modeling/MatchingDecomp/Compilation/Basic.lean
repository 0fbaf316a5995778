import MatchingDecomp.Compilation.Outcome
import MatchingDecomp.Host.OsError
import MatchingDecomp.Source.Brackets
import MatchingDecomp.State.Part
import MatchingDecomp.Time.Span

/-!
# Compiling candidates

A compiler turns source into an outcome. Whatever the compiler is, `Compiler.compile` puts the
bracket gate in front of it: source that is not balanced never reaches it.
-/

namespace MatchingDecomp

/-- Why a compiler gave no outcome. -/
inductive CompilerError where
  | unavailable (detail : String)
  | timedOut (after : Span)
  | io (cause : OsError)
  deriving DecidableEq, Repr

/-- The text of a compiler error. -/
def CompilerError.message : CompilerError → String
  | .unavailable detail => "compiler unavailable: " ++ detail
  | .timedOut after => "compiler timed out after " ++ after.text
  | .io cause => "compiler I/O error: " ++ cause.message

/-- Which compiler it is, as far as that is known. -/
structure CompilerInfo where
  path : String
  version : Option String
  deriving DecidableEq, Repr

/-- A compiler that works on a state `σ`. -/
structure Compiler (σ : Type) where
  describe : σ → CompilerInfo
  /-- Compile source whose brackets are balanced. -/
  compileChecked : String → StateM σ (Except CompilerError Outcome)
  /-- Give up what is kept for an outcome, once nobody needs its object any more. -/
  release : Outcome → σ → σ := fun _ s => s

namespace Compiler

variable {σ τ : Type}

/-- Compile a source. -/
def compile (c : Compiler σ) (source : String) : StateM σ (Except CompilerError Outcome) :=
  if Source.isBalanced source then c.compileChecked source
  else pure (.ok .invalidStructure)

/-- The same compiler on a larger state. -/
def lift (p : Part τ σ) (c : Compiler σ) : Compiler τ where
  describe := fun t => c.describe (p.get t)
  compileChecked := fun source => p.lift (c.compileChecked source)
  release := fun outcome t => p.set (c.release outcome (p.get t)) t

end Compiler

end MatchingDecomp
