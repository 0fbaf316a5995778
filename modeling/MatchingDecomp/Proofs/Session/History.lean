import MatchingDecomp.Proofs.Run.Store
import MatchingDecomp.Proofs.Session.Tickets

/-!
# What the history holds

The history of a session can be read off its minutes: go back from the newest entry to the last time
the history was cleared, and take the runs that came to a verdict on the way, as many as the limit
allows.  A run that failed, was cancelled, abandoned, or never started leaves no trace.

The step is `Effect.store_eq`: what a command does to the store is told by its entry in the minutes.
That each run is in the history only once is a matter of tickets (`results_length_add_count_le`).
-/

namespace MatchingDecomp

open Minutes

variable {σ : Type}

/-- The record of a run that came to a verdict, if this is the entry that says so. -/
def Entry.record? (entry : Entry) : Option Run :=
  match entry.answer.result? with
  | some (.ok run) => some run
  | _ => none

/-- The runs that came to a verdict since the history was cleared, newest first. -/
def Minutes.completed (minutes : List Entry) : List Run :=
  (minutes.reverse.takeWhile fun entry => entry.command ≠ .clearHistory).filterMap Entry.record?

/-! ## Minutes that grow by an entry -/

namespace Minutes

theorem completed_concat_of_cleared (minutes : List Entry) {entry : Entry}
    (hcleared : entry.command = .clearHistory) : completed (minutes ++ [entry]) = [] := by
  simp [completed, hcleared]

theorem completed_concat (minutes : List Entry) {entry : Entry}
    (hkept : entry.command ≠ .clearHistory) :
    completed (minutes ++ [entry]) = entry.record?.toList ++ completed minutes := by
  rw [completed, List.reverse_append, List.reverse_singleton, List.singleton_append,
    List.takeWhile_cons_of_pos (by simpa using hkept), ← List.singleton_append,
    List.filterMap_append]
  cases hrecord : entry.record? with
  | none => simp [completed, hrecord]
  | some run => simp [completed, hrecord]

end Minutes

/-! ## One command -/

namespace Store

/-- The store after the command of an entry. -/
def follow (store : Store) (entry : Entry) : Store :=
  if entry.command = .clearHistory then store.clear
  else
    match entry.record? with
    | some run => store.append run
    | none => store

end Store

/-- What a command does to the store is told by its entry. -/
theorem Effect.store_eq {b : Backends σ} {s after : Session σ} {entry : Entry}
    (heffect : Effect b s entry after) : after.store = s.store.follow entry := by
  -- a command that moves a run does not clear the history
  have hmoves : ∀ {command : Command} {id : RunId},
      command.moved? = some id → command ≠ .clearHistory := by
    rintro command id hmoved rfl
    cases hmoved
  cases heffect with
  | prepared => rfl
  | refused hmoved hrefused =>
      rw [Store.follow, if_neg (hmoves hmoved)]
      rfl
  | entered hrun hmoving hcancelled =>
      rw [Store.follow, if_neg (hmoves hmoving.moved?_eq)]
      exact Session.entered_store ..
  | @ended _ _ _ _ _ _ _ result hrun hmoving hending =>
      rw [Store.follow, if_neg (hmoves hmoving.moved?_eq), Session.finish_store]
      cases result <;> rfl
  | cancelled => rfl
  | unknown => rfl
  | dropped => rfl
  | cleared => rfl

/-! ## All commands -/

namespace Session

/-- The limit stays, and the runs are the newest of those that came to a verdict. -/
theorem store_eq_completed (b : Backends σ) (resources : σ) (limit : Nat) (sequence : UInt64)
    (commands : List Command) :
    ((opened resources limit sequence).play b commands).2.store =
      ⟨max limit 1,
        (completed ((opened resources limit sequence).play b commands).1).take (max limit 1)⟩ := by
  refine play_induction (P := fun minutes s =>
    s.store = ⟨max limit 1, (completed minutes).take (max limit 1)⟩) ?_ ?_ commands
  · rw [show completed [] = [] from rfl, List.take_nil]
    rfl
  · intro minutes s command hstore
    rw [(obey_effect b s command).store_eq, Store.follow]
    split
    · rename_i hcleared
      rw [completed_concat_of_cleared minutes hcleared, List.take_nil, hstore]
      rfl
    · rename_i hkept
      -- a record is put before the others, and at most the oldest one falls out
      rw [completed_concat minutes hkept]
      cases hrecord : (s.entry b command).record? with
      | none => exact hstore
      | some run =>
          rw [hstore]
          exact Store.append_of_take ..

/-- **The history is what was completed.**  After any commands it holds the runs that came to a
verdict since it was cleared, newest first, as many as the limit allows.  No ticket comes to more
than one result.  And a command whose answer is not a verdict leaves the history as it is, unless it
clears it. -/
theorem history_eq_completed (b : Backends σ) (resources : σ) (limit : Nat) (sequence : UInt64)
    (commands : List Command) :
    let minutes := ((opened resources limit sequence).play b commands).1
    let s := ((opened resources limit sequence).play b commands).2
    s.store.runs = (completed minutes).take (max limit 1) ∧
      (∀ id, (results id minutes).length ≤ (issued minutes).count id) ∧
      ∀ command, (s.obey b command).2.store.runs =
        if command = .clearHistory then []
        else
          match (s.entry b command).record? with
          | some run => (run :: s.store.runs).take (max limit 1)
          | none => s.store.runs := by
  have hstore := store_eq_completed b resources limit sequence commands
  refine ⟨congrArg Store.runs hstore, fun id => ?_, ?_⟩
  · have hbalance := results_length_add_count_le b resources limit sequence commands id
    exact Nat.le_of_add_right_le hbalance
  · intro command
    rw [(obey_effect b _ command).store_eq, Store.follow]
    change (if command = .clearHistory then _ else _ : Store).runs = _
    generalize ((opened resources limit sequence).play b commands).2.entry b command = entry
    split
    · rfl
    · cases hrecord : entry.record? with
      | none => rfl
      | some run => simp only [Store.append, hstore]

end Session

end MatchingDecomp
