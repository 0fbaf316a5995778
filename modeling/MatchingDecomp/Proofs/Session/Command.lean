import MatchingDecomp.Proofs.Session.ActiveRuns

/-!
# Commands

Everything that can be asked of a session is a `Command`, and `Session.obey` carries one out.  A run
is started by one command and then moved by one command for each of its calls, so a list of commands
is an interleaving of the stages of any number of runs, with cancellations, dropped tickets and
cleared histories anywhere in between.

The two commands that move a run are brought into one form (`advance_eq`, `start_of_idle`).  Each
comes to a `Returned`, which is what the call amounts to, and `settle` draws the conclusion from it:
the run fails, or comes to its next stage, or is complete.
-/

namespace MatchingDecomp

variable {σ : Type}

/-! ## When a call returns -/

/-- What the call of a run amounts to: a reason to fail, the position that comes next, or the
record of the run. -/
inductive Returned where
  | failed (cause : StageFailure)
  | onward (position : Position)
  | complete (record : Run)

/-- The call that a run is waiting for. -/
def Work.call (b : Backends σ) (id : RunId) (now : Instant) (work : Work) : StateM σ Returned :=
  fun resources =>
    match work.position with
    | .generating =>
      match b.generator.generate work.fragment resources with
      | (.error e, resources) => (.failed (.generation e), resources)
      | (.ok candidate, resources) => (.onward (.compiling candidate), resources)
    | .compiling candidate =>
      match b.compiler.compile candidate.source resources with
      | (.error e, resources) => (.failed (.compiler e), resources)
      | (.ok outcome, resources) => (.onward (.verifying candidate outcome), resources)
    | .verifying candidate outcome =>
      match b.verifier.verify work.fragment candidate.source outcome resources with
      | (.error e, resources) => (.failed (.verification e), resources)
      | (.ok verdict, resources) =>
        (.complete (.assemble id now work.fragment candidate outcome verdict), resources)

namespace Work

variable {b : Backends σ} {id : RunId} {now : Instant} {work : Work} {resources : σ}

/-- A call that leads on is the one of the generator, or the one of the compiler. -/
theorem call_onward {position : Position}
    (honward : (work.call b id now resources).1 = .onward position) :
    (∃ candidate after, work.position = .generating ∧ position = .compiling candidate ∧
        b.generator.generate work.fragment resources = (.ok candidate, after)) ∨
      ∃ candidate outcome after, work.position = .compiling candidate ∧
        position = .verifying candidate outcome ∧
          b.compiler.compile candidate.source resources = (.ok outcome, after) := by
  obtain ⟨desk, fragment, current⟩ := work
  cases current with
  | generating =>
      simp only [call] at honward
      generalize b.generator.generate fragment resources = answered at honward ⊢
      obtain ⟨_ | candidate, after⟩ := answered
      · cases honward
      · cases honward
        exact .inl ⟨candidate, after, rfl, rfl, rfl⟩
  | compiling candidate =>
      simp only [call] at honward
      generalize hanswer : b.compiler.compile candidate.source resources = answered at honward
      obtain ⟨_ | outcome, after⟩ := answered
      · cases honward
      · cases honward
        exact .inr ⟨candidate, outcome, after, rfl, rfl, hanswer⟩
  | verifying candidate outcome =>
      simp only [call] at honward
      generalize b.verifier.verify fragment candidate.source outcome resources = answered
        at honward
      obtain ⟨_ | _, _⟩ := answered <;> cases honward

/-- A call that completes a run is the one of the verifier. -/
theorem call_complete {record : Run}
    (hcomplete : (work.call b id now resources).1 = .complete record) :
    ∃ candidate outcome verdict after, work.position = .verifying candidate outcome ∧
      record = .assemble id now work.fragment candidate outcome verdict ∧
        b.verifier.verify work.fragment candidate.source outcome resources =
          (.ok verdict, after) := by
  obtain ⟨desk, fragment, current⟩ := work
  cases current with
  | generating =>
      simp only [call] at hcomplete
      generalize b.generator.generate fragment resources = answered at hcomplete
      obtain ⟨_ | _, _⟩ := answered <;> cases hcomplete
  | compiling candidate =>
      simp only [call] at hcomplete
      generalize b.compiler.compile candidate.source resources = answered at hcomplete
      obtain ⟨_ | _, _⟩ := answered <;> cases hcomplete
  | verifying candidate outcome =>
      simp only [call] at hcomplete
      generalize hanswer : b.verifier.verify fragment candidate.source outcome resources =
        answered at hcomplete
      obtain ⟨_ | verdict, after⟩ := answered
      · cases hcomplete
      · cases hcomplete
        exact ⟨candidate, outcome, verdict, after, rfl, rfl, hanswer⟩

end Work

namespace Session

/-- What becomes of a run whose call has returned. -/
def settle (s : Session σ) (b : Backends σ) (id : RunId) (work : Work) :
    Returned → Reply × Session σ
  | .failed cause => s.finish b id work.desk work.position (.error ⟨work.position.stage, cause⟩)
  | .onward position => s.enter b id { work with position }
  | .complete record => s.finish b id work.desk work.position (.ok record)

/-- The session in which a run has entered the stage of its position. -/
def entered (s : Session σ) (id : RunId) (work : Work) : Session σ :=
  ((s.transition work.desk id (.working work.position.stage)).update id
    fun run => { run with work := some work }).announce work.desk
      (.entered id work.position.stage)

theorem advance_eq (s : Session σ) (b : Backends σ) (id : RunId) (now : Instant) :
    s.advance b id now =
      match (s.find? id).bind ActiveRun.work with
      | none => (.refused, s)
      | some work =>
        { s with resources := (work.call b id now s.resources).2 }.settle b id work
          (work.call b id now s.resources).1 := by
  unfold advance
  cases (s.find? id).bind ActiveRun.work with
  | none => rfl
  | some work =>
      obtain ⟨desk, fragment, position⟩ := work
      cases position with
      | generating =>
          simp only [Work.call]
          generalize b.generator.generate fragment s.resources = answer
          obtain ⟨_ | _, _⟩ := answer <;> rfl
      | compiling candidate =>
          simp only [Work.call]
          generalize b.compiler.compile candidate.source s.resources = answer
          obtain ⟨_ | _, _⟩ := answer <;> rfl
      | verifying candidate outcome =>
          simp only [Work.call]
          generalize b.verifier.verify fragment candidate.source outcome s.resources = answer
          obtain ⟨_ | _, _⟩ := answer <;> rfl

theorem enter_eq (s : Session σ) (b : Backends σ) (id : RunId) (work : Work) :
    s.enter b id work =
      if (s.find? id).any ActiveRun.cancelled then
        s.finish b id work.desk work.position (.error (.cancelledBefore work.position.stage))
      else (.working, s.entered id work) := rfl

/-- Starting a run is settling a call that has returned with the first stage. -/
theorem start_of_idle {s : Session σ} {id : RunId} {run : ActiveRun} (hrun : s.find? id = some run)
    (hidle : run.work = none) (b : Backends σ) (desk : Nat) (fragment : Fragment) :
    s.start b desk id fragment =
      s.settle b id ⟨desk, fragment, .generating⟩ (.onward .generating) := by
  obtain ⟨runId, home, state, cancelled, work⟩ := run
  subst hidle
  simp only [start, hrun, settle]

theorem start_of_not_idle {s : Session σ} {id : RunId}
    (hrun : ∀ run, s.find? id = some run → run.work ≠ none) (b : Backends σ) (desk : Nat)
    (fragment : Fragment) : s.start b desk id fragment = (.refused, s) := by
  unfold start
  split
  · rename_i hfound
    exact absurd rfl (hrun _ hfound)
  · rfl

/-! ## A run that has entered a stage -/

@[simp] theorem entered_store (s : Session σ) (id : RunId) (work : Work) :
    (s.entered id work).store = s.store :=
  transition_store ..

@[simp] theorem entered_resources (s : Session σ) (id : RunId) (work : Work) :
    (s.entered id work).resources = s.resources :=
  transition_resources ..

/-- A run that has entered a stage is still asked to stop or not, as before, and has its new work.
-/
theorem exists_find?_entered {s : Session σ} {id : RunId} {run : ActiveRun}
    (hrun : s.find? id = some run) (work : Work) :
    ∃ state, (s.entered id work).find? id = some { run with state, work := some work } := by
  obtain ⟨state, hstate⟩ :=
    exists_find?_transition hrun work.desk (.working work.position.stage)
  exact ⟨state, find?_update_self hstate fun _ => rfl⟩

/-- Seen from the desk that carries it out, it also has its new state, and the change is written
down. -/
theorem find?_entered {s : Session σ} {id : RunId} {run : ActiveRun} {work : Work}
    (hrun : s.find? id = some run) (hseen : s.findAt? work.desk id = some run) :
    (s.entered id work).find? id =
      some { run with state := .working work.position.stage, work := some work } := by
  have hstate : (s.transition work.desk id (.working work.position.stage)).find? id =
      some { run with state := .working work.position.stage } := by
    rw [transition_of_findAt? hseen]
    exact find?_update_self hrun fun _ => rfl
  exact find?_update_self hstate fun _ => rfl

theorem moves_entered {s : Session σ} {id : RunId} {run : ActiveRun} {work : Work}
    (hseen : s.findAt? work.desk id = some run) :
    (s.entered id work).moves = s.moves ++ [⟨id, run.state, .working work.position.stage⟩] := by
  change (s.transition work.desk id (.working work.position.stage)).moves = _
  rw [transition_of_findAt? hseen]

theorem find?_entered_of_ne (s : Session σ) {id other : RunId} (work : Work) (hother : other ≠ id) :
    (s.entered id work).find? other = s.find? other := by
  rw [← find?_transition_of_ne s work.desk (.working work.position.stage) hother]
  exact find?_update_of_ne _ hother fun _ => rfl

@[simp] theorem ids_entered (s : Session σ) (id : RunId) (work : Work) :
    (s.entered id work).ids = s.ids := by
  rw [← ids_transition s work.desk id (.working work.position.stage)]
  exact ids_update _ id fun _ => rfl

/-! ## A run that has ended -/

theorem finish_store (s : Session σ) (b : Backends σ) (id : RunId) (desk : Nat)
    (position : Position) (result : Except PipelineError Run) :
    (s.finish b id desk position result).2.store = (s.record result).store := by
  rw [finish, release_eq]
  cases result with
  | ok record =>
      change (s.transition desk id _).store.append record = s.store.append record
      rw [transition_store]
  | error e => exact transition_store ..

theorem finish_resources (s : Session σ) (b : Backends σ) (id : RunId) (desk : Nat)
    (position : Position) (result : Except PipelineError Run) :
    (s.finish b id desk position result).2.resources = (s.release b position).resources := by
  have hrelease : ((s.transition desk id (finalState result)).release b position).resources =
      (s.release b position).resources := by
    unfold release
    split
    · simp only [transition_resources]
    · exact transition_resources ..
  cases result <;> exact hrelease

/-- A run that has ended is found no more, and the other runs are as they were. -/
theorem find?_finish (s : Session σ) (b : Backends σ) (id : RunId) (desk : Nat)
    (position : Position) (result : Except PipelineError Run) (other : RunId) :
    (s.finish b id desk position result).2.find? other =
      if other = id then none else s.find? other := by
  have hremove := find?_remove ((s.transition desk id (finalState result)).release b position)
    id other
  have hrecord : (s.finish b id desk position result).2.find? other =
      (((s.transition desk id (finalState result)).release b position).remove id).find? other := by
    cases result <;> rfl
  rw [hrecord, hremove]
  split
  · rfl
  · rename_i hother
    rw [release_eq]
    exact find?_transition_of_ne s desk _ hother

theorem finish_moves (s : Session σ) (b : Backends σ) (id : RunId) (desk : Nat)
    (position : Position) (result : Except PipelineError Run) :
    (s.finish b id desk position result).2.moves =
      (s.transition desk id (finalState result)).moves := by
  rw [finish, release_eq]
  cases result <;> rfl

theorem moves_finish {s : Session σ} {id : RunId} {run : ActiveRun} {desk : Nat}
    (hseen : s.findAt? desk id = some run) (b : Backends σ) (position : Position)
    (result : Except PipelineError Run) :
    (s.finish b id desk position result).2.moves =
      s.moves ++ [⟨id, run.state, finalState result⟩] := by
  rw [finish_moves, transition_of_findAt? hseen]

@[simp] theorem ids_finish (s : Session σ) (b : Backends σ) (id : RunId) (desk : Nat)
    (position : Position) (result : Except PipelineError Run) :
    (s.finish b id desk position result).2.ids = s.ids.filter (· ≠ id) := by
  have hids : (s.finish b id desk position result).2.ids =
      (((s.transition desk id (finalState result)).release b position).remove id).ids := by
    cases result <;> rfl
  rw [hids, ids_remove, release_eq]
  exact congrArg (List.filter _) (ids_transition s desk id (finalState result))

end Session

/-! ## Commands and answers -/

/-- What can be asked of a session. -/
inductive Command where
  | prepare (desk : Nat) (now : Instant)
  | start (desk : Nat) (id : RunId) (fragment : Fragment)
  /-- The call that the run is waiting for returns. -/
  | advance (id : RunId) (now : Instant)
  | cancel (desk : Nat) (id : RunId)
  /-- The ticket of a run is dropped, or the run is abandoned. -/
  | drop (id : RunId)
  | clearHistory
  deriving DecidableEq, Repr

/-- The run that a command moves. -/
def Command.moved? : Command → Option RunId
  | .start _ id _ => some id
  | .advance id _ => some id
  | _ => none

/-- What a session answers. -/
inductive Answer where
  | prepared (id : RunId)
  | moved (reply : Reply)
  /-- Whether there was such a run to cancel. -/
  | cancelled (found : Bool)
  | done

/-- How a run ended, if this is the answer that says so. -/
def Answer.result? : Answer → Option (Except PipelineError Run)
  | .moved reply => reply.result?
  | _ => none

namespace Session

/-- Carry out a command. -/
def obey (s : Session σ) (b : Backends σ) : Command → Answer × Session σ
  | .prepare desk now => (.prepared (s.prepare desk now).1, (s.prepare desk now).2)
  | .start desk id fragment =>
    (.moved (s.start b desk id fragment).1, (s.start b desk id fragment).2)
  | .advance id now => (.moved (s.advance b id now).1, (s.advance b id now).2)
  | .cancel desk id => (.cancelled (s.cancel desk id).1, (s.cancel desk id).2)
  | .drop id => (.done, s.drop b id)
  | .clearHistory => (.done, s.clearHistory)

end Session

end MatchingDecomp
