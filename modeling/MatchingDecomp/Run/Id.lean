import MatchingDecomp.Decimal.Digits
import MatchingDecomp.Time.Instant

/-!
# Run ids

An id is made of a reading of the clock in milliseconds and a sequence number, each padded with
zeros to a fixed width. So the order of ids as texts is the order in which they were given out, as
long as the clock does not go back.
-/

namespace MatchingDecomp

/-- The id of a run. Ids that come from outside can be any text. -/
structure RunId where
  text : String
  deriving DecidableEq, Repr

namespace RunId

/-- The id of a reading of the clock and a sequence number. -/
def compose (millis sequence : Nat) : RunId :=
  ⟨String.ofList
    ("decomp_".toList ++ Decimal.padded 13 millis ++ '_' :: Decimal.padded 20 sequence)⟩

/-- The id that is given out at an instant. A clock before 1970 counts as its start. -/
def next (now : Instant) (sequence : UInt64) : RunId :=
  compose now.millis.toNat sequence.toNat

/-- The order of ids as texts. -/
def le (a b : RunId) : Bool :=
  decide (a.text ≤ b.text)

end RunId

end MatchingDecomp
