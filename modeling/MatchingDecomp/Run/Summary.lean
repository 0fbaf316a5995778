import MatchingDecomp.Binary.Format
import MatchingDecomp.Run.Basic

/-!
# Summaries

Runs counted by status, and the share of those that are a success.
-/

namespace MatchingDecomp

open Binary

/-- Counts of runs by status. -/
structure Summary where
  total : Nat := 0
  success : Nat := 0
  warning : Nat := 0
  error : Nat := 0
  deriving DecidableEq, Repr

namespace Summary

/-- The counts with one more run. -/
def add (s : Summary) (run : Run) : Summary :=
  let s := { s with total := s.total + 1 }
  match run.status with
  | .success => { s with success := s.success + 1 }
  | .warning => { s with warning := s.warning + 1 }
  | .error => { s with error := s.error + 1 }

/-- The counts of a list of runs. -/
def ofRuns (runs : List Run) : Summary :=
  runs.foldl add {}

/-- The share of successful runs in percent, if there are runs at all. It is computed in the 64-bit
format, one rounded operation after the other. -/
def successRate? (s : Summary) : Option Quantity :=
  if s.total = 0 then none
  else do
    let f := Format.double
    let hundredfold ← f.mul (← f.round s.success 1) (← f.round 100 1)
    f.div hundredfold (← f.round s.total 1)

end Summary

end MatchingDecomp
