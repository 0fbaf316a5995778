import MatchingDecomp.Proofs.Session.Calls

/-!
# What a command can do

A command is written down as an `Entry`: the command, its answer, and the backend calls that it
made.  `Effect` relates a session, an entry and the session after it, with one case for each kind of
change, and `obey_effect` says that every command is carried out in one of these ways.

All invariants of sessions are proved by going through the cases of `Effect`; the operations
themselves are not opened again.
-/

namespace MatchingDecomp

variable {σ : Type}

/-! ## Entries -/

/-- An entry of the minutes. -/
structure Entry where
  command : Command
  answer : Answer
  calls : List Call

/-- How a run ended, if this is the entry that says so. -/
def Entry.resultOf? (id : RunId) (entry : Entry) : Option (Except PipelineError Run) :=
  if entry.command.moved? = some id then entry.answer.result? else none

theorem Entry.resultOf?_eq_some_iff {id : RunId} {entry : Entry}
    {result : Except PipelineError Run} :
    entry.resultOf? id = some result ↔
      entry.command.moved? = some id ∧ entry.answer.result? = some result := by
  simp [resultOf?]

/-- The id that was given out, if this is an entry that gives one out. -/
def Entry.issued? (entry : Entry) : Option RunId :=
  match entry.answer with
  | .prepared id => some id
  | _ => none

namespace Session

/-- The entry for a command. -/
def entry (s : Session σ) (b : Backends σ) (command : Command) : Entry where
  command := command
  answer := (s.obey b command).1
  calls := s.callsOf b command

theorem resultOf?_entry (s : Session σ) (b : Backends σ) {id : RunId} {command : Command}
    (hmoved : command.moved? = some id) :
    (s.entry b command).resultOf? id = (s.obey b command).1.result? := by
  rw [Entry.resultOf?, entry, if_pos hmoved]

end Session

/-! ## The relation -/

/-- A run waits for a command: to be started, or that its call returns. -/
def ActiveRun.Awaits (run : ActiveRun) : Command → Prop
  | .start _ id _ => id = run.id ∧ run.work = none
  | .advance id _ => id = run.id ∧ run.work ≠ none
  | _ => False

theorem ActiveRun.Awaits.moved?_eq {run : ActiveRun} {command : Command}
    (hawaits : run.Awaits command) : command.moved? = some run.id := by
  cases command with
  | start desk id fragment => exact congrArg some hawaits.1
  | advance id now => exact congrArg some hawaits.1
  | _ => cases hawaits

/-- A command moves a run: it starts it, or lets the call return that the run is waiting for. -/
inductive Moving (b : Backends σ) (s : Session σ) (run : ActiveRun) :
    Command → List Call → Work → Returned → σ → Prop where
  | start (desk : Nat) (fragment : Fragment) (hidle : run.work = none) :
      Moving b s run (.start desk run.id fragment) [] ⟨desk, fragment, .generating⟩
        (.onward .generating) s.resources
  | advance (now : Instant) {work : Work} (hwork : run.work = some work) :
      Moving b s run (.advance run.id now) (work.position.calls b work.fragment s.resources) work
        (work.call b run.id now s.resources).1 (work.call b run.id now s.resources).2

theorem Moving.moved?_eq {b : Backends σ} {s : Session σ} {run : ActiveRun} {command : Command}
    {calls : List Call} {work : Work} {returned : Returned} {resources : σ}
    (hmoving : Moving b s run command calls work returned resources) :
    command.moved? = some run.id := by
  cases hmoving <;> rfl

theorem Moving.id_eq {b : Backends σ} {s : Session σ} {run : ActiveRun} {command : Command}
    {calls : List Call} {work : Work} {returned : Returned} {resources : σ} {id : RunId}
    (hmoving : Moving b s run command calls work returned resources)
    (hmoved : command.moved? = some id) : run.id = id :=
  Option.some.inj (hmoving.moved?_eq.symm.trans hmoved)

/-- A run is moved only by commands that it waits for. -/
theorem Moving.awaits {b : Backends σ} {s : Session σ} {run : ActiveRun} {command : Command}
    {calls : List Call} {work : Work} {returned : Returned} {resources : σ}
    (hmoving : Moving b s run command calls work returned resources) : run.Awaits command := by
  cases hmoving with
  | start desk fragment hidle => exact ⟨rfl, hidle⟩
  | advance now hwork => exact ⟨rfl, by simp [hwork]⟩

/-- A run ends in one of three ways, at a position and with a result: it was asked to stop before
the stage that comes next, its call failed, or it is complete. -/
inductive Ending (run : ActiveRun) (work : Work) :
    Returned → Position → Except PipelineError Run → Prop where
  | cancelled (position : Position) (hcancelled : run.cancelled = true) :
      Ending run work (.onward position) position (.error (.cancelledBefore position.stage))
  | failed (cause : StageFailure) :
      Ending run work (.failed cause) work.position (.error ⟨work.position.stage, cause⟩)
  | completed (record : Run) :
      Ending run work (.complete record) work.position (.ok record)

/-- What a command can do to a session: the entry, and the session after it.  A command is refused
only if there is no run that waits for it. -/
inductive Effect (b : Backends σ) (s : Session σ) : Entry → Session σ → Prop where
  | prepared (desk : Nat) (now : Instant) :
      Effect b s ⟨.prepare desk now, .prepared (s.prepare desk now).1, []⟩ (s.prepare desk now).2
  | refused {command : Command} {id : RunId} (hmoved : command.moved? = some id)
      (hrefused : ∀ run, s.find? run.id = some run → ¬ run.Awaits command) :
      Effect b s ⟨command, .moved .refused, []⟩ s
  | entered {run : ActiveRun} {command : Command} {calls : List Call} {work : Work}
      {position : Position} {resources : σ} (hrun : s.find? run.id = some run)
      (hmoving : Moving b s run command calls work (.onward position) resources)
      (hcancelled : run.cancelled = false) :
      Effect b s ⟨command, .moved .working, calls⟩
        ({ s with resources }.entered run.id { work with position })
  | ended {run : ActiveRun} {command : Command} {calls : List Call} {work : Work}
      {returned : Returned} {resources : σ} {position : Position}
      {result : Except PipelineError Run} (hrun : s.find? run.id = some run)
      (hmoving : Moving b s run command calls work returned resources)
      (hending : Ending run work returned position result) :
      Effect b s ⟨command, .moved (.finished result), calls⟩
        ({ s with resources }.finish b run.id work.desk position result).2
  | cancelled (desk : Nat) (id : RunId) {run : ActiveRun} (hrun : s.findAt? desk id = some run) :
      Effect b s ⟨.cancel desk id, .cancelled true, []⟩
        (s.update id fun r => { r with cancelled := true })
  | unknown (desk : Nat) (id : RunId) (hrun : s.findAt? desk id = none) :
      Effect b s ⟨.cancel desk id, .cancelled false, []⟩ s
  | dropped (id : RunId) (resources : σ) :
      Effect b s ⟨.drop id, .done, []⟩ ({ s with resources }.remove id)
  | cleared : Effect b s ⟨.clearHistory, .done, []⟩ s.clearHistory

/-! ## Every command has such an effect -/

namespace Session

/-- The conclusion that `settle` draws is one of those that `Effect` lists. -/
theorem settle_effect {b : Backends σ} {s : Session σ} {run : ActiveRun} {command : Command}
    {calls : List Call} {work : Work} {returned : Returned} {resources : σ}
    (hrun : s.find? run.id = some run)
    (hmoving : Moving b s run command calls work returned resources) :
    Effect b s ⟨command, .moved ({ s with resources }.settle b run.id work returned).1, calls⟩
      ({ s with resources }.settle b run.id work returned).2 := by
  cases returned with
  | failed cause => exact .ended hrun hmoving (.failed cause)
  | complete record => exact .ended hrun hmoving (.completed record)
  | onward position =>
      -- the call has left its resources behind, which is nothing to the lookup
      have hfound : ({ s with resources } : Session σ).find? run.id = some run := hrun
      simp only [settle, enter_eq, hfound, Option.any_some]
      cases hcancelled : run.cancelled with
      | true => exact .ended hrun hmoving (.cancelled position hcancelled)
      | false => exact .entered hrun hmoving hcancelled

theorem start_effect (b : Backends σ) (s : Session σ) (desk : Nat) (id : RunId)
    (fragment : Fragment) :
    Effect b s ⟨.start desk id fragment, .moved (s.start b desk id fragment).1, []⟩
      (s.start b desk id fragment).2 := by
  by_cases hidle : ∃ run, s.find? id = some run ∧ run.work = none
  · obtain ⟨run, hrun, hwork⟩ := hidle
    rw [start_of_idle hrun hwork]
    obtain rfl := id_of_find? hrun
    exact settle_effect hrun (.start desk fragment hwork)
  · rw [start_of_not_idle fun run hrun hwork => hidle ⟨run, hrun, hwork⟩]
    exact .refused rfl fun run hrun hawaits => hidle ⟨run, hawaits.1 ▸ hrun, hawaits.2⟩

theorem advance_effect (b : Backends σ) (s : Session σ) (id : RunId) (now : Instant) :
    Effect b s (s.entry b (.advance id now)) (s.advance b id now).2 := by
  simp only [entry, obey, callsOf_advance, advance_eq]
  cases hfound : (s.find? id).bind ActiveRun.work with
  | none =>
      refine .refused rfl fun run hrun hawaits => hawaits.2 ?_
      rwa [hawaits.1, hrun, Option.bind_some] at hfound
  | some work =>
      obtain ⟨run, hrun, hwork⟩ := Option.bind_eq_some_iff.mp hfound
      obtain rfl := id_of_find? hrun
      exact settle_effect hrun (.advance now hwork)

theorem cancel_effect (b : Backends σ) (s : Session σ) (desk : Nat) (id : RunId) :
    Effect b s ⟨.cancel desk id, .cancelled (s.cancel desk id).1, []⟩ (s.cancel desk id).2 := by
  cases hrun : s.findAt? desk id with
  | some run =>
      simp only [cancel, hrun]
      exact .cancelled desk id hrun
  | none =>
      simp only [cancel, hrun]
      exact .unknown desk id hrun

theorem drop_effect (b : Backends σ) (s : Session σ) (id : RunId) :
    Effect b s ⟨.drop id, .done, []⟩ (s.drop b id) := by
  unfold drop
  split
  · rw [release_eq]
    exact .dropped id _
  · exact .dropped id s.resources

/-- Every command does to every session what `Effect` allows. -/
theorem obey_effect (b : Backends σ) (s : Session σ) (command : Command) :
    Effect b s (s.entry b command) (s.obey b command).2 := by
  cases command with
  | prepare desk now => exact .prepared desk now
  | start desk id fragment =>
      rw [entry, callsOf_start]
      exact start_effect b s desk id fragment
  | advance id now => exact advance_effect b s id now
  | cancel desk id =>
      rw [entry, callsOf_cancel]
      exact cancel_effect b s desk id
  | drop id =>
      rw [entry, callsOf_drop]
      exact drop_effect b s id
  | clearHistory => exact .cleared

end Session

/-! ## Runs that a command does not move -/

/-- A run that a command does not move is as it was, except that it may have been asked to stop; or
it was just prepared. -/
theorem Effect.find?_of_not_moved {b : Backends σ} {s after : Session σ} {entry : Entry}
    (heffect : Effect b s entry after) {id : RunId} {next : ActiveRun}
    (hother : entry.command.moved? ≠ some id) (hnext : after.find? id = some next) :
    (∃ run cancelled, s.find? id = some run ∧ next = { run with cancelled }) ∨
      s.find? id = none ∧ entry.issued? = some id ∧
        ∃ home now, entry.command = .prepare home now ∧ next = { id, home } := by
  have hkept : s.find? id = some next →
      ∃ run cancelled, s.find? id = some run ∧ next = { run with cancelled } :=
    fun hfound => ⟨next, next.cancelled, hfound, rfl⟩
  cases heffect with
  | prepared desk now =>
      -- an older run with the same id hides the new one
      rw [Session.find?_prepare] at hnext
      cases hfound : s.find? id with
      | some run =>
          rw [hfound, Option.some_or] at hnext
          exact .inl (hfound ▸ hkept (hfound.trans hnext))
      | none =>
          rw [hfound, Option.none_or] at hnext
          split at hnext
          · rename_i hissued
            exact .inr ⟨rfl, congrArg some hissued, desk, now, rfl, (Option.some.inj hnext).symm⟩
          · cases hnext
  | refused hmoved hrefused => exact .inl (hkept hnext)
  | entered hrun hmoving hcancelled =>
      have hne : id ≠ _ := fun hid => hother (hid ▸ hmoving.moved?_eq)
      rw [Session.find?_entered_of_ne _ _ hne] at hnext
      exact .inl (hkept hnext)
  | ended hrun hmoving hending =>
      rw [Session.find?_finish] at hnext
      split at hnext
      · cases hnext
      · exact .inl (hkept hnext)
  | cancelled desk stopped hrun =>
      have hupdate := Session.find?_update s stopped id
        (f := fun run => { run with cancelled := true }) fun _ => rfl
      rw [hupdate] at hnext
      split at hnext
      · rename_i hid
        subst hid
        obtain ⟨run, hfound, rfl⟩ := Option.map_eq_some_iff.mp hnext
        exact .inl ⟨run, true, hfound, rfl⟩
      · exact .inl (hkept hnext)
  | unknown desk stopped hrun => exact .inl (hkept hnext)
  | dropped gone resources =>
      rw [Session.find?_remove] at hnext
      split at hnext
      · cases hnext
      · exact .inl (hkept hnext)
  | cleared => exact .inl (hkept hnext)

end MatchingDecomp
