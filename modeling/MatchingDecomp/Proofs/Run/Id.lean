import Mathlib.Algebra.Group.Int.Defs
import Mathlib.Data.String.Basic
import MatchingDecomp.Proofs.Decimal.Digits
import MatchingDecomp.Run.Id

/-!
# The order of run ids

An id is two numbers padded with zeros to thirteen and to twenty digits.  A sequence number always
fits into its width; a reading of the clock does so up to the year 2286.  As long as it fits, ids
are ordered as texts like the pairs of numbers they are made of (`compose_lt_iff`).  Two pairs give
the same id only if they are equal, whether the reading fits or not (`compose_inj`).

`series` is a number of ids given out one after the other.  They are all different, because the
sequence number goes up with each (`series_nodup`), and they go up themselves as long as the clock
does not go back (`series_pairwise_lt`).
-/

namespace MatchingDecomp.RunId

open Decimal

/-! ## One id -/

theorem toList_compose (millis sequence : Nat) :
    (compose millis sequence).text.toList =
      "decomp_".toList ++ (padded 13 millis ++ '_' :: padded 20 sequence) := by
  unfold compose
  generalize "decomp_".toList = tag
  rw [String.toList_ofList, List.append_assoc]

theorem sequence_lt (sequence : UInt64) : sequence.toNat < 10 ^ 20 := by
  have hlt : sequence.toNat < 2 ^ 64 := sequence.toNat_lt
  omega

/-- Texts of the same length decide before what follows them does. -/
theorem append_lt_append_iff {first second : List Char} (hlength : first.length = second.length)
    (left right : List Char) :
    first ++ left < second ++ right ↔ first < second ∨ first = second ∧ left < right := by
  induction first generalizing second with
  | nil =>
      obtain rfl : second = [] := List.length_eq_zero_iff.mp hlength.symm
      simp
  | cons c first ih =>
      cases second with
      | nil => cases hlength
      | cons d second =>
          have hrest : first.length = second.length := by simpa using hlength
          rw [List.cons_append, List.cons_append, List.cons_lt_cons_iff, ih hrest,
            List.cons_lt_cons_iff, List.cons.injEq]
          tauto

theorem compose_lt_iff {millis millis' : Nat} (hmillis : millis < 10 ^ 13)
    (hmillis' : millis' < 10 ^ 13) (sequence sequence' : UInt64) :
    (compose millis sequence.toNat).text < (compose millis' sequence'.toNat).text ↔
      millis < millis' ∨ millis = millis' ∧ sequence < sequence' := by
  have hlength : (padded 13 millis).length = (padded 13 millis').length := by
    rw [length_padded (by omega) hmillis, length_padded (by omega) hmillis']
  have heq : padded 13 millis = padded 13 millis' ↔ millis = millis' :=
    ⟨padded_inj, congrArg (padded 13)⟩
  rw [String.lt_iff_toList_lt, toList_compose, toList_compose, append_lt_append_iff rfl,
    append_lt_append_iff hlength, List.cons_lt_cons_iff, padded_lt_iff (by omega) hmillis hmillis',
    padded_lt_iff (by omega) (sequence_lt sequence) (sequence_lt sequence'), heq,
    ← UInt64.lt_iff_toNat_lt]
  simp

theorem compose_inj {millis millis' : Nat} {sequence sequence' : UInt64}
    (heq : compose millis sequence.toNat = compose millis' sequence'.toNat) :
    millis = millis' ∧ sequence = sequence' := by
  have htext := congrArg (fun id => id.text.toList) heq
  simp only [toList_compose, List.append_cancel_left_eq] at htext
  -- the last twenty characters are the sequence number, however long the reading of the clock is
  have hlength : ('_' :: padded 20 sequence.toNat).length =
      ('_' :: padded 20 sequence'.toNat).length := by
    rw [List.length_cons, List.length_cons, length_padded (by omega) (sequence_lt sequence),
      length_padded (by omega) (sequence_lt sequence')]
  obtain ⟨hmillis, hsequence⟩ := List.append_inj' htext hlength
  refine ⟨padded_inj hmillis, ?_⟩
  apply UInt64.toNat_inj.mp
  exact padded_inj (List.cons.inj hsequence).2

/-! ## Ids one after the other -/

/-- The ids that are given out at some readings of the clock, beginning with a sequence number. -/
def series (sequence : UInt64) : List Instant → List RunId
  | [] => []
  | now :: later => next now sequence :: series (sequence + 1) later

/-- The clock does not go back, and it has not come to the first reading with fourteen digits. -/
structure Steady (readings : List Instant) : Prop where
  ordered : readings.Pairwise fun earlier later => earlier.millis ≤ later.millis
  fits : ∀ now ∈ readings, now.millis < 10 ^ 13

theorem length_series (sequence : UInt64) (readings : List Instant) :
    (series sequence readings).length = readings.length := by
  induction readings generalizing sequence with
  | nil => rfl
  | cons now later ih => rw [series, List.length_cons, List.length_cons, ih]

theorem getElem_series (sequence : UInt64) (readings : List Instant) (i : Nat)
    (hseries : i < (series sequence readings).length) (hi : i < readings.length) :
    (series sequence readings)[i] = next readings[i] (sequence + UInt64.ofNat i) := by
  induction readings generalizing sequence i with
  | nil => cases hi
  | cons now later ih =>
      cases i with
      | zero => exact congrArg (next now) (UInt64.add_zero sequence).symm
      | succ i =>
          have hshift : sequence + 1 + UInt64.ofNat i = sequence + UInt64.ofNat (i + 1) := by
            rw [UInt64.ofNat_add, UInt64.ofNat_one, UInt64.add_assoc, UInt64.add_comm 1]
          rw [← hshift]
          exact ih (sequence + 1) i (Nat.lt_of_succ_lt_succ hseries) (Nat.lt_of_succ_lt_succ hi)

/-- The counter does not wrap, so it is an id's place in the series that counts. -/
theorem toNat_counter {sequence : UInt64} {i n : Nat} (hroom : sequence.toNat + n ≤ 2 ^ 64)
    (hi : i < n) : (sequence + UInt64.ofNat i).toNat = sequence.toNat + i := by
  have hlt : i < 2 ^ 64 := by omega
  rw [UInt64.toNat_add, UInt64.toNat_ofNat_of_lt' hlt]
  omega

/-- Ids are all different, whatever the clock reads. -/
theorem series_nodup {sequence : UInt64} {readings : List Instant}
    (hroom : sequence.toNat + readings.length ≤ 2 ^ 64) : (series sequence readings).Nodup := by
  rw [List.Nodup, List.pairwise_iff_getElem]
  intro i j hi hj hij
  have hlength := length_series sequence readings
  rw [getElem_series sequence readings i hi (by omega),
    getElem_series sequence readings j hj (by omega)]
  intro heq
  obtain ⟨-, hcounter⟩ := compose_inj heq
  have htoNat := congrArg UInt64.toNat hcounter
  rw [toNat_counter hroom (by omega), toNat_counter hroom (by omega)] at htoNat
  omega

/-- Ids go up as long as the clock does not go back. -/
theorem series_pairwise_lt {sequence : UInt64} {readings : List Instant}
    (hroom : sequence.toNat + readings.length ≤ 2 ^ 64) (hclock : Steady readings) :
    (series sequence readings).Pairwise fun earlier later => earlier.text < later.text := by
  have hfits : ∀ now ∈ readings, now.millis.toNat < 10 ^ 13 := by
    intro now hnow
    have := hclock.fits now hnow
    omega
  have hordered := hclock.ordered
  rw [List.pairwise_iff_getElem] at hordered ⊢
  intro i j hi hj hij
  have hlength := length_series sequence readings
  have hi' : i < readings.length := by omega
  have hj' : j < readings.length := by omega
  have hle := hordered i j hi' hj' hij
  have hcounter : sequence + UInt64.ofNat i < sequence + UInt64.ofNat j := by
    rw [UInt64.lt_iff_toNat_lt, toNat_counter hroom hi', toNat_counter hroom hj']
    omega
  rw [getElem_series sequence readings i hi hi', getElem_series sequence readings j hj hj', next,
    next, compose_lt_iff (hfits _ (List.getElem_mem hi')) (hfits _ (List.getElem_mem hj'))]
  -- a clock before its start counts as its start, so equal readings are common
  rcases Nat.lt_or_ge readings[i].millis.toNat readings[j].millis.toNat with hlt | hge
  · exact .inl hlt
  · exact .inr ⟨by omega, hcounter⟩

end MatchingDecomp.RunId
