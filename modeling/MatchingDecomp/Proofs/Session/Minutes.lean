import Mathlib.Data.List.Induction
import MatchingDecomp.Proofs.Session.Effect

/-!
# The minutes of a session

`Session.play` carries out a list of commands and keeps the minutes, an entry for each command.
What outsiders know of a session is what stands in its minutes, so the theorems about sessions
compare the session that was reached with a function of the minutes alone.

`play_induction` is the one induction over sessions: a statement about minutes and session that
holds at the beginning, and that every further command keeps, holds after every list of commands.
-/

namespace MatchingDecomp

variable {σ : Type}

namespace Minutes

/-- The results that a run came to.  A run that is over once is over for good, so there is more than
one only if its id was given out more than once. -/
def results (id : RunId) (minutes : List Entry) : List (Except PipelineError Run) :=
  minutes.filterMap (Entry.resultOf? id)

/-- The backend calls that were made in moving a run. -/
def callsFor (id : RunId) (minutes : List Entry) : List Call :=
  (minutes.filter fun entry => entry.command.moved? = some id).flatMap Entry.calls

/-- The ids that were given out, in order. -/
def issued (minutes : List Entry) : List RunId :=
  minutes.filterMap Entry.issued?

theorem results_cons (id : RunId) (entry : Entry) (rest : List Entry) :
    results id (entry :: rest) = (entry.resultOf? id).toList ++ results id rest := by
  cases hresult : entry.resultOf? id with
  | none => simp [results, hresult]
  | some result => simp [results, hresult]

theorem results_append (id : RunId) (first second : List Entry) :
    results id (first ++ second) = results id first ++ results id second :=
  List.filterMap_append

theorem callsFor_append (id : RunId) (first second : List Entry) :
    callsFor id (first ++ second) = callsFor id first ++ callsFor id second := by
  simp only [callsFor, List.filter_append, List.flatMap_append]

theorem issued_append (first second : List Entry) :
    issued (first ++ second) = issued first ++ issued second :=
  List.filterMap_append

end Minutes

/-- Backends that give the same answers each time. -/
def Backends.answering (candidate : Except GenerationError Candidate)
    (outcome : Except CompilerError Outcome) (comparison : Except VerificationError Comparison) :
    Backends Unit where
  generator := { name := "constant", produce := fun _ => pure candidate }
  compiler := { describe := fun _ => ⟨"constant", none⟩, compileChecked := fun _ => pure outcome }
  verifier := { name := "constant", compare := fun _ _ _ => pure comparison }

namespace Session

/-- A session with nothing in it yet.  The sequence number need not be zero: others may have given
out ids before. -/
def opened (resources : σ) (limit : Nat) (sequence : UInt64) : Session σ :=
  { resources, store := .withLimit limit, sequence }

/-- Carry out commands one after the other, and keep the minutes. -/
def play (s : Session σ) (b : Backends σ) : List Command → List Entry × Session σ
  | [] => ([], s)
  | command :: rest =>
    let (minutes, after) := (s.obey b command).2.play b rest
    (s.entry b command :: minutes, after)

theorem play_cons (s : Session σ) (b : Backends σ) (command : Command) (rest : List Command) :
    s.play b (command :: rest) =
      (s.entry b command :: ((s.obey b command).2.play b rest).1,
        ((s.obey b command).2.play b rest).2) := rfl

theorem play_append (s : Session σ) (b : Backends σ) (first second : List Command) :
    s.play b (first ++ second) =
      ((s.play b first).1 ++ ((s.play b first).2.play b second).1,
        ((s.play b first).2.play b second).2) := by
  induction first generalizing s with
  | nil => rfl
  | cons command rest ih => simp only [List.cons_append, play_cons, ih]

theorem play_concat (s : Session σ) (b : Backends σ) (commands : List Command)
    (command : Command) :
    s.play b (commands ++ [command]) =
      ((s.play b commands).1 ++ [(s.play b commands).2.entry b command],
        ((s.play b commands).2.obey b command).2) :=
  play_append s b commands [command]

theorem play_commands (s : Session σ) (b : Backends σ) (commands : List Command) :
    (s.play b commands).1.map Entry.command = commands := by
  induction commands generalizing s with
  | nil => rfl
  | cons command rest ih =>
      rw [play_cons, List.map_cons, ih]
      rfl

/-- What holds at the beginning and is kept by every command holds after every list of commands. -/
theorem play_induction {b : Backends σ} {s : Session σ} {P : List Entry → Session σ → Prop}
    (hinitial : P [] s)
    (hstep : ∀ minutes t command, P minutes t →
      P (minutes ++ [t.entry b command]) (t.obey b command).2)
    (commands : List Command) : P (s.play b commands).1 (s.play b commands).2 := by
  induction commands using List.reverseRecOn with
  | nil => exact hinitial
  | append_singleton commands command ih =>
      rw [play_concat]
      exact hstep _ _ command ih

end Session

end MatchingDecomp
