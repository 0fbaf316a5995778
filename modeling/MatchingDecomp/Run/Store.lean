import MatchingDecomp.Run.Summary

/-!
# The history of runs

The most recent runs, newest first. The history keeps at least one run and at most as many as its
limit; when it is full the oldest one goes.
-/

namespace MatchingDecomp

/-- The history: its limit, and the runs it holds, newest first. -/
structure Store where
  limit : Nat
  runs : List Run := []
  deriving DecidableEq, Repr

namespace Store

/-- The limit when none is given. -/
def defaultLimit : Nat := 100

/-- An empty history. A limit of zero counts as one. -/
def withLimit (limit : Nat) : Store :=
  { limit := max limit 1 }

/-- Record a run as the newest. -/
def append (s : Store) (run : Run) : Store :=
  { s with runs := (run :: s.runs).take s.limit }

/-- Forget every run. -/
def clear (s : Store) : Store :=
  { s with runs := [] }

/-- The newest run with an id. -/
def get? (s : Store) (id : RunId) : Option Run :=
  s.runs.find? fun run => run.id = id

/-- The number of runs. -/
def size (s : Store) : Nat :=
  s.runs.length

/-- Whether there is no run. -/
def isEmpty (s : Store) : Bool :=
  s.runs.isEmpty

/-- The runs counted by status. -/
def summary (s : Store) : Summary :=
  .ofRuns s.runs

end Store

end MatchingDecomp
