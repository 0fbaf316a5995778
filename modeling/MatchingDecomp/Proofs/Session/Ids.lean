import Mathlib.Data.List.Sort
import MatchingDecomp.Proofs.Run.Id
import MatchingDecomp.Proofs.Session.Tickets

/-!
# The ids of a session

A session gives out one id for each run that is prepared, with the reading of the clock at that
moment and the next sequence number.  So the ids that were given out are a `RunId.series`
(`issued_play`), whatever else happens in between.

The active runs stay in the order in which they were prepared (`ids_sublist_issued`).  A desk lists
its own in the order of their ids as texts, and as long as the clock does not go back this is the
same order (`activeIds_eq_filter`).
-/

namespace MatchingDecomp

open Minutes

variable {σ : Type}

/-- The reading of the clock at which a command prepares a run. -/
def Command.reading? : Command → Option Instant
  | .prepare _ now => some now
  | _ => none

/-- The readings of the clock at which runs are prepared, in order. -/
def readings (commands : List Command) : List Instant :=
  commands.filterMap Command.reading?

/-! ## The sequence number -/

namespace Session

theorem transition_sequence (s : Session σ) (desk : Nat) (id : RunId) (next : RunState) :
    (s.transition desk id next).sequence = s.sequence := by
  unfold transition
  split <;> rfl

theorem finish_sequence (s : Session σ) (b : Backends σ) (id : RunId) (desk : Nat)
    (position : Position) (result : Except PipelineError Run) :
    (s.finish b id desk position result).2.sequence = s.sequence := by
  rw [finish, release_eq]
  cases result <;> exact transition_sequence ..

end Session

/-- Only a command that prepares a run takes a sequence number, and it gives out the id with it. -/
theorem Effect.issued?_eq {b : Backends σ} {s after : Session σ} {entry : Entry}
    (heffect : Effect b s entry after) :
    entry.issued? = entry.command.reading?.map (RunId.next · s.sequence) ∧
      after.sequence = if entry.command.reading?.isSome then s.sequence + 1 else s.sequence := by
  -- a command that moves a run prepares none
  have hmoves : ∀ {command : Command} {id : RunId},
      command.moved? = some id → command.reading? = none := by
    intro command id hmoved
    cases command with
    | prepare desk now => cases hmoved
    | _ => rfl
  cases heffect with
  | prepared desk now => exact ⟨rfl, rfl⟩
  | refused hmoved hrefused =>
      rw [hmoves hmoved]
      exact ⟨rfl, rfl⟩
  | entered hrun hmoving hcancelled =>
      rw [hmoves hmoving.moved?_eq]
      exact ⟨rfl, Session.transition_sequence ..⟩
  | ended hrun hmoving hending =>
      rw [hmoves hmoving.moved?_eq]
      exact ⟨rfl, Session.finish_sequence ..⟩
  | cancelled => exact ⟨rfl, rfl⟩
  | unknown => exact ⟨rfl, rfl⟩
  | dropped => exact ⟨rfl, rfl⟩
  | cleared => exact ⟨rfl, rfl⟩

namespace Session

/-- The ids that a session gives out are a series. -/
theorem issued_play (s : Session σ) (b : Backends σ) (commands : List Command) :
    issued (s.play b commands).1 = RunId.series s.sequence (readings commands) := by
  induction commands generalizing s with
  | nil => rfl
  | cons command rest ih =>
      obtain ⟨hissued, hsequence⟩ := (obey_effect b s command).issued?_eq
      rw [play_cons, ← List.singleton_append, issued_append, ih, hsequence]
      change (s.entry b command).issued? = command.reading?.map (RunId.next · s.sequence) at hissued
      change issued [s.entry b command] ++
        RunId.series (if command.reading?.isSome then s.sequence + 1 else s.sequence) _ = _
      cases hreading : command.reading? with
      | none =>
          rw [hreading] at hissued
          have hissued' : issued [s.entry b command] = [] :=
            List.filterMap_cons_none hissued
          have hreadings : readings (command :: rest) = readings rest :=
            List.filterMap_cons_none hreading
          rw [hissued', hreadings]
          rfl
      | some now =>
          rw [hreading] at hissued
          have hissued' : issued [s.entry b command] = [RunId.next now s.sequence] :=
            List.filterMap_cons_some hissued
          have hreadings : readings (command :: rest) = now :: readings rest :=
            List.filterMap_cons_some hreading
          rw [hissued', hreadings]
          rfl

/-! ## The order of the active runs -/

/-- The active runs stay in the order in which they were prepared. -/
theorem ids_sublist_issued (b : Backends σ) (resources : σ) (limit : Nat) (sequence : UInt64)
    (commands : List Command) :
    ((opened resources limit sequence).play b commands).2.ids.Sublist
      (issued ((opened resources limit sequence).play b commands).1) := by
  refine play_induction (P := fun minutes s => s.ids.Sublist (issued minutes)) ?_ ?_ commands
  · exact List.Sublist.refl []
  · intro minutes t command hminutes
    have hissued : issued [t.entry b command] = (t.entry b command).issued?.toList := by
      cases hentry : (t.entry b command).issued? <;> simp [issued, hentry]
    rw [(obey_effect b t command).ids_eq, issued_append, hissued, Entry.tickets]
    exact (List.filter_sublist.trans hminutes).append (List.Sublist.refl _)

/-- A desk lists its runs in the order of their ids, so in the order in which they were prepared
when the ids have gone up since. -/
theorem activeIds_eq_filter {s : Session σ} {given : List RunId}
    (hactive : s.ids.Sublist given)
    (hgiven : given.Pairwise fun earlier later => earlier.text < later.text) (desk : Nat) :
    s.activeIds desk = given.filter fun id => (s.findAt? desk id).isSome := by
  have hlisted : ((s.active.filter fun r => r.home = desk).map ActiveRun.id).Sublist given :=
    (List.filter_sublist.map ActiveRun.id).trans hactive
  have hsorted := hgiven.sublist hlisted
  -- what is sorted already is left alone
  have hids : s.activeIds desk = (s.active.filter fun r => r.home = desk).map ActiveRun.id := by
    apply List.mergeSort_of_pairwise
    refine hsorted.imp fun hlt => ?_
    rw [RunId.le, decide_eq_true_eq]
    exact le_of_lt hlt
  have hmem : ∀ id, id ∈ s.activeIds desk ↔
      id ∈ given.filter fun id => (s.findAt? desk id).isSome := by
    intro id
    rw [List.mem_filter, mem_activeIds_iff]
    refine ⟨fun hfound => ⟨?_, hfound⟩, And.right⟩
    apply hlisted.subset
    rw [← hids, mem_activeIds_iff]
    exact hfound
  rw [← hids] at hsorted
  have hfiltered := hgiven.sublist (List.filter_sublist (p := fun id => (s.findAt? desk id).isSome))
  have hne : ∀ {a b : RunId}, a.text < b.text → a ≠ b := by
    rintro a b hlt rfl
    exact lt_irrefl _ hlt
  have hperm := (List.perm_ext_iff_of_nodup (hsorted.imp hne) (hfiltered.imp hne)).mpr hmem
  refine hperm.eq_of_pairwise ?_ hsorted hfiltered
  intro a b _ _ hab hba
  exact absurd (hab.trans hba) (lt_irrefl _)

/-! ## The main statement -/

/-- **Ids are unique, and ordered by time.**  Below fourteen digits of milliseconds, ids are ordered
as texts like the pairs of numbers they are made of, and different pairs give different ids in any
case.  So ids that are given out one after the other are all different, whatever the clock reads,
and they go up if the clock does not go back.  In a session, the runs of a desk are then listed in
the order in which they were prepared. -/
theorem ids_unique_and_ordered (b : Backends σ) (resources : σ) (limit : Nat) :
    (∀ (millis millis' : Nat) (sequence sequence' : UInt64),
      millis < 10 ^ 13 → millis' < 10 ^ 13 →
        ((RunId.compose millis sequence.toNat).text <
            (RunId.compose millis' sequence'.toNat).text ↔
          millis < millis' ∨ millis = millis' ∧ sequence < sequence')) ∧
      (∀ (millis millis' : Nat) (sequence sequence' : UInt64),
        RunId.compose millis sequence.toNat = RunId.compose millis' sequence'.toNat →
          millis = millis' ∧ sequence = sequence') ∧
      (∀ (sequence : UInt64) (clock : List Instant), sequence.toNat + clock.length ≤ 2 ^ 64 →
        (RunId.series sequence clock).Nodup ∧
          (RunId.Steady clock →
            (RunId.series sequence clock).Pairwise fun earlier later =>
              earlier.text < later.text)) ∧
      ∀ (sequence : UInt64) (commands : List Command),
        sequence.toNat + (readings commands).length ≤ 2 ^ 64 →
          let minutes := ((opened resources limit sequence).play b commands).1
          let s := ((opened resources limit sequence).play b commands).2
          (issued minutes).Nodup ∧
            (RunId.Steady (readings commands) →
              (issued minutes).Pairwise (fun earlier later => earlier.text < later.text) ∧
                ∀ desk, s.activeIds desk =
                  (issued minutes).filter fun id => (s.findAt? desk id).isSome) := by
  refine ⟨?_, ?_, ?_, ?_⟩
  · intro millis millis' sequence sequence' hmillis hmillis'
    exact RunId.compose_lt_iff hmillis hmillis' sequence sequence'
  · intro millis millis' sequence sequence' heq
    exact RunId.compose_inj heq
  · intro sequence clock hroom
    exact ⟨RunId.series_nodup hroom, RunId.series_pairwise_lt hroom⟩
  · intro sequence commands hroom minutes s
    have hissued : issued minutes = RunId.series sequence (readings commands) :=
      issued_play (opened resources limit sequence) b commands
    rw [hissued]
    refine ⟨RunId.series_nodup hroom, fun hclock => ?_⟩
    have hordered := RunId.series_pairwise_lt hroom hclock
    refine ⟨hordered, fun desk => activeIds_eq_filter ?_ hordered desk⟩
    rw [← hissued]
    exact ids_sublist_issued b resources limit sequence commands

/-- Two runs are prepared before 1970 and one after it, with the last sequence numbers there are,
and the second one is dropped. -/
theorem ids_ordered_before_epoch :
    let b := Backends.answering (.error .emptyOutput) (.ok .invalidStructure) (.ok .identical)
    let clock : List Instant := [⟨-9, 0⟩, ⟨-5, 0⟩, ⟨0, 0⟩]
    let commands : List Command :=
      [.prepare 0 ⟨-9, 0⟩, .prepare 0 ⟨-5, 0⟩, .prepare 0 ⟨0, 0⟩,
        .drop (RunId.compose 0 18446744073709551614)]
    let s := ((opened () 1 18446744073709551613).play b commands).2
    RunId.Steady clock ∧
      (RunId.series 18446744073709551613 clock).Pairwise
        (fun earlier later => earlier.text < later.text) ∧
      (RunId.compose 999 18446744073709551615).text < (RunId.compose 1000 0).text ∧
      s.activeIds 0 =
        [RunId.compose 0 18446744073709551613, RunId.compose 0 18446744073709551615] := by
  intro b clock commands s
  have hclock : RunId.Steady clock := ⟨by decide, by decide⟩
  obtain ⟨horder, -, hseries, hsession⟩ := ids_unique_and_ordered b () 1
  refine ⟨hclock, (hseries 18446744073709551613 clock (by decide)).2 hclock, ?_, ?_⟩
  · exact (horder 999 1000 18446744073709551615 0 (by decide) (by decide)).mpr (by decide)
  · rw [((hsession 18446744073709551613 commands (by decide)).2 hclock).2 0]
    decide +kernel

end Session

end MatchingDecomp
