import MatchingDecomp.Proofs.Session.Tickets

/-!
# What is announced

The events that carry the id of a run, and what each command adds to them.  A command that moves a
run announces one event of it, and no other command announces any (`Effect.length_announced`).  The
event is that of a stage if the run has entered one, and that of its end otherwise.

How many stages were announced can be told from where the run stands (`ActiveRun.announcements`),
and when it ends, from the result (`stagesEntered`).  A run that was asked to stop ends before it
enters a stage, so the stage in its result was not announced.  A run whose call failed ends inside a
stage, which was announced.
-/

namespace MatchingDecomp

variable {σ : Type}

/-! ## Events -/

namespace Stage

/-- The stages in order. -/
def all : List Stage := [.generate, .compile, .verify]

/-- How many stages come before a stage. -/
def index : Stage → Nat
  | .generate => 0
  | .compile => 1
  | .verify => 2

theorem index_lt (stage : Stage) : stage.index < 3 := by
  cases stage <;> decide

theorem take_index_succ (stage : Stage) :
    all.take (stage.index + 1) = all.take stage.index ++ [stage] := by
  cases stage <;> rfl

end Stage

theorem runId_entered (id : RunId) (stage : Stage) : (Event.entered id stage).runId = id := by
  cases stage <;> rfl

theorem runId_ended (id : RunId) (result : Except PipelineError Run) :
    (Event.ended id result).runId = id := by
  cases result <;> rfl

/-- No stage is announced at the end of a run. -/
theorem entered_ne_ended (id other : RunId) (stage : Stage) (result : Except PipelineError Run) :
    Event.entered id stage ≠ Event.ended other result := by
  intro heq
  have hmilestone := congrArg Event.milestone heq
  cases stage <;> cases result <;> cases hmilestone

theorem entered_inj {id other : RunId} {stage next : Stage}
    (heq : Event.entered id stage = Event.entered other next) : id = other ∧ stage = next := by
  have hid := congrArg Event.runId heq
  have hmilestone := congrArg Event.milestone heq
  rw [runId_entered, runId_entered] at hid
  refine ⟨hid, ?_⟩
  cases stage <;> cases next <;> first | rfl | cases hmilestone

/-! ## The events that carry an id -/

namespace Session

/-- The events that carry an id, each with the desk that announced it, oldest first. -/
def announced (s : Session σ) (id : RunId) : List (Nat × Event) :=
  s.events.filter fun e => e.2.runId = id

theorem announced_concat {s t : Session σ} {desk : Nat} {event : Event}
    (hevents : t.events = s.events ++ [(desk, event)]) (id : RunId) :
    t.announced id = s.announced id ++ if event.runId = id then [(desk, event)] else [] := by
  rw [announced, hevents, List.filter_append]
  by_cases hid : event.runId = id
  · simp [announced, hid]
  · simp [announced, hid]

theorem transition_events (s : Session σ) (desk : Nat) (id : RunId) (next : RunState) :
    (s.transition desk id next).events = s.events := by
  unfold transition
  split <;> rfl

theorem entered_events (s : Session σ) (id : RunId) (work : Work) :
    (s.entered id work).events = s.events ++ [(work.desk, .entered id work.position.stage)] := by
  rw [← transition_events s work.desk id (.working work.position.stage)]
  rfl

theorem finish_events (s : Session σ) (b : Backends σ) (id : RunId) (desk : Nat)
    (position : Position) (result : Except PipelineError Run) :
    (s.finish b id desk position result).2.events = s.events ++ [(desk, .ended id result)] := by
  rw [← transition_events s desk id (finalState result), finish, release_eq]
  cases result <;> rfl

end Session

/-- A command announces events of the run that it moves only. -/
theorem Effect.announced_of_not_moved {b : Backends σ} {s after : Session σ} {entry : Entry}
    (heffect : Effect b s entry after) {id : RunId} (hother : entry.command.moved? ≠ some id) :
    after.announced id = s.announced id := by
  cases heffect with
  | @entered run _ _ _ position _ hrun hmoving hcancelled =>
      have hne : (Event.entered run.id position.stage).runId ≠ id := by
        rw [runId_entered]
        exact fun hid => hother (hid ▸ hmoving.moved?_eq)
      rw [Session.announced_concat (Session.entered_events ..), if_neg hne, List.append_nil]
      rfl
  | @ended run _ _ _ _ _ _ result hrun hmoving hending =>
      have hne : (Event.ended run.id result).runId ≠ id := by
        rw [runId_ended]
        exact fun hid => hother (hid ▸ hmoving.moved?_eq)
      rw [Session.announced_concat (Session.finish_events ..), if_neg hne, List.append_nil]
      rfl
  | _ => rfl

/-- The entry says that a run was moved: it was started, or a call of it has returned, and this was
not refused. -/
def Entry.moves (id : RunId) (entry : Entry) : Bool :=
  entry.command.moved? = some id &&
    match entry.answer with
    | .moved .refused => false
    | _ => true

theorem Entry.moves_eq_true_iff {id : RunId} {entry : Entry} :
    entry.moves id = true ↔
      entry.command.moved? = some id ∧ entry.answer ≠ .moved .refused := by
  rw [moves, Bool.and_eq_true, decide_eq_true_iff]
  refine and_congr_right fun _ => ?_
  split
  · rename_i hanswer
    exact iff_of_false Bool.false_ne_true (not_not_intro hanswer)
  · rename_i hanswer
    exact iff_of_true rfl hanswer

/-- Each move of a run is announced by one event. -/
theorem Effect.length_announced {b : Backends σ} {s after : Session σ} {entry : Entry}
    (heffect : Effect b s entry after) (id : RunId) :
    (after.announced id).length =
      (s.announced id).length + if entry.moves id then 1 else 0 := by
  by_cases hmoved : entry.command.moved? = some id
  · cases heffect with
    | refused => simp [Entry.moves]
    | entered hrun hmoving hcancelled =>
        obtain rfl := hmoving.id_eq hmoved
        rw [Session.announced_concat (Session.entered_events ..), runId_entered, if_pos rfl,
          List.length_append, Entry.moves, decide_eq_true hmoved]
        rfl
    | ended hrun hmoving hending =>
        obtain rfl := hmoving.id_eq hmoved
        rw [Session.announced_concat (Session.finish_events ..), runId_ended, if_pos rfl,
          List.length_append, Entry.moves, decide_eq_true hmoved]
        rfl
    | _ => cases hmoved
  · rw [heffect.announced_of_not_moved hmoved, Entry.moves, decide_eq_false hmoved]
    rfl

/-! ## A run on its way -/

/-- How many stages a run has entered, as its result tells: all of them if it came to a verdict,
those before the stage in the result if it was cancelled, and that stage too if its call failed. -/
def stagesEntered : Except PipelineError Run → Nat
  | .ok _ => 3
  | .error e => if e.cause = .cancelled then e.stage.index else e.stage.index + 1

/-- What was announced of a run that is active: the stages up to the one that it is in. -/
def ActiveRun.announcements (run : ActiveRun) : List (Nat × Event) :=
  match run.work with
  | none => []
  | some work =>
    (Stage.all.take (work.position.stage.index + 1)).map fun stage =>
      (work.desk, .entered run.id stage)

/-- A call that leads on leads to the next stage. -/
theorem Work.index_of_onward {b : Backends σ} {id : RunId} {now : Instant} {work : Work}
    {resources : σ} {position : Position}
    (honward : (work.call b id now resources).1 = .onward position) :
    position.stage.index = work.position.stage.index + 1 := by
  obtain ⟨candidate, after, hposition, rfl, -⟩ |
    ⟨candidate, outcome, after, hposition, rfl, -⟩ := Work.call_onward honward
  · rw [hposition]
    rfl
  · rw [hposition]
    rfl

namespace Moving

variable {b : Backends σ} {s : Session σ} {run : ActiveRun} {command : Command}
  {calls : List Call} {work : Work} {returned : Returned} {resources : σ}

/-- When a run comes to a stage, the stages before it have been announced. -/
theorem announcements_of_onward {position : Position}
    (hmoving : Moving b s run command calls work returned resources)
    (honward : returned = .onward position) :
    run.announcements =
      (Stage.all.take position.stage.index).map fun stage =>
        (work.desk, Event.entered run.id stage) := by
  cases hmoving with
  | start desk fragment hidle =>
      cases honward
      simp only [ActiveRun.announcements, hidle]
      rfl
  | advance now hwork =>
      simp only [ActiveRun.announcements, hwork, Work.index_of_onward honward]

/-- When a call fails or completes the run, the stage of the call has been announced too. -/
theorem announcements_of_not_onward (hmoving : Moving b s run command calls work returned resources)
    (hreturned : ∀ position, returned ≠ .onward position) :
    run.announcements =
      (Stage.all.take (work.position.stage.index + 1)).map fun stage =>
        (work.desk, Event.entered run.id stage) := by
  cases hmoving with
  | start desk fragment hidle => exact absurd rfl (hreturned .generating)
  | advance now hwork => simp only [ActiveRun.announcements, hwork]

end Moving

/-- No call fails because of a request to stop. -/
theorem Work.call_failed_ne_cancelled {b : Backends σ} {id : RunId} {now : Instant} {work : Work}
    {resources : σ} {cause : StageFailure}
    (hfailed : (work.call b id now resources).1 = .failed cause) : cause ≠ .cancelled := by
  obtain ⟨desk, fragment, position⟩ := work
  rintro rfl
  cases position with
  | generating =>
      simp only [call] at hfailed
      generalize b.generator.generate fragment resources = answered at hfailed
      obtain ⟨_ | _, _⟩ := answered <;> cases hfailed
  | compiling candidate =>
      simp only [call] at hfailed
      generalize b.compiler.compile candidate.source resources = answered at hfailed
      obtain ⟨_ | _, _⟩ := answered <;> cases hfailed
  | verifying candidate outcome =>
      simp only [call] at hfailed
      generalize b.verifier.verify fragment candidate.source outcome resources = answered
        at hfailed
      obtain ⟨_ | _, _⟩ := answered <;> cases hfailed

/-- When a run ends, as many stages have been announced as its result tells. -/
theorem Ending.announcements_eq {b : Backends σ} {s : Session σ} {run : ActiveRun}
    {command : Command} {calls : List Call} {work : Work} {returned : Returned} {resources : σ}
    {position : Position} {result : Except PipelineError Run}
    (hending : Ending run work returned position result)
    (hmoving : Moving b s run command calls work returned resources) :
    run.announcements =
      (Stage.all.take (stagesEntered result)).map fun stage =>
        (work.desk, Event.entered run.id stage) := by
  cases hending with
  | cancelled position hcancelled => exact hmoving.announcements_of_onward rfl
  | failed cause =>
      have hcause : cause ≠ .cancelled := by
        generalize hreturned : Returned.failed cause = returned at hmoving
        cases hmoving with
        | start desk fragment hidle => cases hreturned
        | advance now hwork => exact Work.call_failed_ne_cancelled hreturned.symm
      rw [hmoving.announcements_of_not_onward (by simp), stagesEntered, if_neg hcause]
  | completed record =>
      have hindex : work.position.stage.index = 2 := by
        generalize hreturned : Returned.complete record = returned at hmoving
        cases hmoving with
        | start desk fragment hidle => cases hreturned
        | advance now hwork =>
            obtain ⟨candidate, outcome, verdict, after, hposition, -⟩ :=
              Work.call_complete hreturned.symm
            rw [hposition]
            rfl
      rw [hmoving.announcements_of_not_onward (by simp), hindex]
      rfl

/-! ## Stages that a run comes to -/

/-- What a command that moves a run comes to, in the one form. -/
theorem Moving.obey_eq {b : Backends σ} {s : Session σ} {run : ActiveRun} {command : Command}
    {calls : List Call} {work : Work} {returned : Returned} {resources : σ}
    (hmoving : Moving b s run command calls work returned resources)
    (hrun : s.find? run.id = some run) :
    (s.obey b command).2 = ({ s with resources }.settle b run.id work returned).2 := by
  cases hmoving with
  | start desk fragment hidle => simp only [Session.obey, Session.start_of_idle hrun hidle]
  | advance now hwork =>
      simp only [Session.obey, Session.advance_eq, hrun, Option.bind_some, hwork]

namespace Session

/-- A command brings a run to a stage: it starts the run, or lets a call return that leads on.
Whether the run was asked to stop is left open. -/
def Reaches (b : Backends σ) (s : Session σ) (command : Command) (id : RunId) (stage : Stage) :
    Prop :=
  ∃ run calls work position resources, s.find? id = some run ∧
    Moving b s run command calls work (.onward position) resources ∧ position.stage = stage

/-- The event of a stage was announced. -/
def HasAnnounced (s : Session σ) (id : RunId) (stage : Stage) : Prop :=
  ∃ desk, (desk, Event.entered id stage) ∈ s.announced id

theorem hasAnnounced_concat_iff {s t : Session σ} {desk : Nat} {event : Event}
    (hevents : t.events = s.events ++ [(desk, event)]) (id : RunId) (stage : Stage) :
    t.HasAnnounced id stage ↔ s.HasAnnounced id stage ∨ event = .entered id stage := by
  simp only [HasAnnounced, announced, hevents, List.mem_filter, List.mem_append,
    List.mem_singleton, runId_entered, decide_true, and_true, Prod.mk.injEq, exists_or,
    exists_and_right, exists_eq, true_and]
  exact or_congr_right eq_comm

end Session

namespace Effect

variable {b : Backends σ} {s after : Session σ} {entry : Entry} {id : RunId} {stage : Stage}

/-- What was announced once stays announced. -/
theorem hasAnnounced (heffect : Effect b s entry after) (hbefore : s.HasAnnounced id stage) :
    after.HasAnnounced id stage := by
  cases heffect with
  | entered hrun hmoving hcancelled =>
      exact (Session.hasAnnounced_concat_iff (Session.entered_events ..) ..).mpr (.inl hbefore)
  | ended hrun hmoving hending =>
      exact (Session.hasAnnounced_concat_iff (Session.finish_events ..) ..).mpr (.inl hbefore)
  | _ => exact hbefore

/-- A stage that was not announced before was reached by a run that was not asked to stop. -/
theorem reaches_of_hasAnnounced (heffect : Effect b s entry after)
    (hafter : after.HasAnnounced id stage) (hbefore : ¬ s.HasAnnounced id stage) :
    s.Reaches b entry.command id stage ∧
      ∃ run, s.find? id = some run ∧ run.cancelled = false := by
  cases heffect with
  | @entered run _ _ work position resources hrun hmoving hcancelled =>
      rw [Session.hasAnnounced_concat_iff (Session.entered_events ..)] at hafter
      obtain ⟨rfl, rfl⟩ := entered_inj (hafter.resolve_left hbefore)
      exact ⟨⟨run, _, work, position, resources, hrun, hmoving, rfl⟩, run, hrun, hcancelled⟩
  | ended hrun hmoving hending =>
      rw [Session.hasAnnounced_concat_iff (Session.finish_events ..)] at hafter
      exact absurd (hafter.resolve_left hbefore).symm (entered_ne_ended _ _ _ _)
  | _ => exact absurd hafter hbefore

/-- The end of a run is announced last: by then the run is not active, and is recorded. -/
theorem exists_announce_ended (heffect : Effect b s entry after)
    {result : Except PipelineError Run} (hresult : entry.resultOf? id = some result) :
    ∃ (t : Session σ) (desk : Nat), after = t.announce desk (.ended id result) ∧
      id ∉ t.ids ∧ t.store = (s.record result).store := by
  have hgone := (heffect.mem_ids_of_result hresult).2
  obtain ⟨hmoved, hanswer⟩ := Entry.resultOf?_eq_some_iff.mp hresult
  cases heffect with
  | @ended run _ _ work _ resources position ended hrun hmoving hending =>
      obtain rfl := hmoving.id_eq hmoved
      obtain rfl : ended = result := Option.some.inj hanswer
      have hstore := Session.finish_store { s with resources } b run.id work.desk position ended
      refine ⟨_, work.desk, rfl, hgone, ?_⟩
      cases ended <;> exact hstore
  | _ => cases hanswer

end Effect

namespace Session

/-- A stage that a run comes to is announced, unless the run was asked to stop. -/
theorem Reaches.hasAnnounced {b : Backends σ} {s : Session σ} {command : Command} {id : RunId}
    {stage : Stage} {run : ActiveRun} (hreaches : s.Reaches b command id stage)
    (hrun : s.find? id = some run) (hcancelled : run.cancelled = false) :
    (s.obey b command).2.HasAnnounced id stage := by
  obtain ⟨found, calls, work, position, resources, hfound, hmoving, rfl⟩ := hreaches
  obtain rfl : run = found := Option.some.inj (hrun.symm.trans hfound)
  obtain rfl := id_of_find? hrun
  have hfind : ({ s with resources } : Session σ).find? run.id = some run := hrun
  rw [hmoving.obey_eq hrun]
  simp only [settle, enter_eq, hfind, Option.any_some, hcancelled, Bool.false_eq_true, if_false]
  exact (hasAnnounced_concat_iff (entered_events ..) ..).mpr (.inr rfl)

end Session

end MatchingDecomp
