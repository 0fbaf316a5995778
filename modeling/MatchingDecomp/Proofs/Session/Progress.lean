import MatchingDecomp.Proofs.Session.Completion
import MatchingDecomp.Proofs.Session.History
import MatchingDecomp.Proofs.Session.Lifecycle

/-!
# What is heard of a run

Whoever follows a run hears of each stage that it enters, and at the end hears once how it ended.
The stages come in order, with 0, 30 and 60 percent; the end is at 100 percent if the run came to a
verdict, and at 0 percent if it failed.  `Protocol` lists the sequences that can be heard.

The invariant is `Session.Reports`, for one id at a time, and the id has to be that of one run only.
While the run is active, what was announced of it is what its work says (`ActiveRun.announcements`);
when it ends, the last event is added (`Ending.reports_finish`).  That a run which is carried out
does end, and so is not underway for ever, was shown in `Completion.lean`.
-/

namespace MatchingDecomp

open Minutes

variable {σ : Type}

/-! ## The protocol -/

/-- How far a run is, as an event has it. -/
def Event.checkpoint (e : Event) : Milestone × Nat := (e.milestone, e.percent)

/-- The checkpoints of the three stages. -/
def checkpoints : List (Milestone × Nat) := [(.generate, 0), (.compile, 30), (.verify, 60)]

/-- The checkpoint at the end of a run. -/
def lastCheckpoint : Except PipelineError Run → Milestone × Nat
  | .ok _ => (.complete, 100)
  | .error _ => (.failed, 0)

/-- What is heard of a run, with the results that it came to so far. -/
inductive Protocol : List (Except PipelineError Run) → List (Milestone × Nat) → Prop where
  | underway (n : Nat) : Protocol [] (checkpoints.take n)
  | over (result : Except PipelineError Run) :
      Protocol [result] (checkpoints.take (stagesEntered result) ++ [lastCheckpoint result])

/-- No more than one result is heard of a run. -/
theorem Protocol.exists_eq_singleton {results : List (Except PipelineError Run)}
    {events : List (Milestone × Nat)} (hprotocol : Protocol results events)
    (hresults : results ≠ []) : ∃ result, results = [result] := by
  rcases hprotocol with _ | result
  · exact absurd rfl hresults
  · exact ⟨result, rfl⟩

theorem checkpoint_entered (id : RunId) (n : Nat) :
    ((Stage.all.take n).map (Event.entered id)).map Event.checkpoint = checkpoints.take n := by
  rw [List.map_map, List.map_take]
  rfl

theorem checkpoint_ended (id : RunId) (result : Except PipelineError Run) :
    (Event.ended id result).checkpoint = lastCheckpoint result := by
  cases result <;> rfl

/-! ## Requests to stop -/

/-- The entry says that a run was asked to stop. -/
def Entry.Stops (id : RunId) (entry : Entry) : Prop :=
  ∃ desk, entry.command = .cancel desk id ∧ entry.answer = .cancelled true

/-- A run was asked to stop. -/
def Minutes.StopRequested (id : RunId) (minutes : List Entry) : Prop :=
  ∃ entry ∈ minutes, entry.Stops id

theorem Minutes.stopRequested_concat_iff (id : RunId) (minutes : List Entry) (entry : Entry) :
    StopRequested id (minutes ++ [entry]) ↔ StopRequested id minutes ∨ entry.Stops id := by
  simp only [StopRequested, List.mem_append, List.mem_singleton, or_and_right, exists_or,
    exists_eq_left]

theorem Entry.Stops.moved?_eq {id : RunId} {entry : Entry} (hstops : entry.Stops id) :
    entry.command.moved? = none := by
  obtain ⟨desk, hcommand, -⟩ := hstops
  rw [hcommand]
  rfl

/-- A run that a command does not move is asked to stop if it was before, or if the command does. -/
theorem Effect.cancelled_iff_of_not_moved {b : Backends σ} {s after : Session σ} {entry : Entry}
    (heffect : Effect b s entry after) {id : RunId} {run next : ActiveRun}
    (hother : entry.command.moved? ≠ some id) (hrun : s.find? id = some run)
    (hnext : after.find? id = some next) :
    next.cancelled = true ↔ run.cancelled = true ∨ entry.Stops id := by
  have hkept : s.find? id = some next → ¬ entry.Stops id →
      (next.cancelled = true ↔ run.cancelled = true ∨ entry.Stops id) := by
    intro hfound hstops
    rw [hrun] at hfound
    obtain rfl := Option.some.inj hfound
    exact (or_iff_left hstops).symm
  cases heffect with
  | prepared desk now =>
      rw [Session.find?_prepare, hrun, Option.some_or] at hnext
      exact hkept (hrun.trans hnext) (by simp [Entry.Stops])
  | refused hmoved hrefused =>
      refine hkept hnext fun hstops => ?_
      rw [hstops.moved?_eq] at hmoved
      cases hmoved
  | entered hfound hmoving hcancelled =>
      have hne : id ≠ _ := fun hid => hother (hid ▸ hmoving.moved?_eq)
      rw [Session.find?_entered_of_ne _ _ hne] at hnext
      refine hkept hnext fun hstops => ?_
      have hmoved := hstops.moved?_eq.symm.trans hmoving.moved?_eq
      cases hmoved
  | ended hfound hmoving hending =>
      rw [Session.find?_finish] at hnext
      split at hnext
      · cases hnext
      refine hkept hnext fun hstops => ?_
      have hmoved := hstops.moved?_eq.symm.trans hmoving.moved?_eq
      cases hmoved
  | cancelled desk stopped hfound =>
      have hupdate := Session.find?_update s stopped id
        (f := fun run => { run with cancelled := true }) fun _ => rfl
      rw [hupdate] at hnext
      split at hnext
      · rename_i hid
        subst hid
        rw [hrun] at hnext
        obtain rfl := Option.some.inj hnext
        exact iff_of_true rfl (.inr ⟨desk, rfl, rfl⟩)
      · rename_i hid
        exact hkept hnext (by simp [Entry.Stops, Ne.symm hid])
  | unknown desk stopped hfound => exact hkept hnext (by simp [Entry.Stops])
  | dropped gone resources =>
      rw [Session.find?_remove] at hnext
      split at hnext
      · cases hnext
      · exact hkept hnext (by simp [Entry.Stops])
  | cleared => exact hkept hnext (by simp [Entry.Stops])

/-- Only a run that is active can be asked to stop. -/
theorem Effect.not_stops_of_find? {b : Backends σ} {s after : Session σ} {entry : Entry}
    (heffect : Effect b s entry after) {id : RunId} (hover : s.find? id = none) :
    ¬ entry.Stops id := by
  rintro ⟨desk, hcommand, hanswer⟩
  cases heffect with
  | cancelled _ stopped hrun =>
      cases hcommand
      rw [Session.findAt?_eq_none_of_find? hover] at hrun
      cases hrun
  | _ => cases hanswer

/-! ## The invariant -/

/-- What is known of a run from the minutes: while it is active, it came to no result, and what was
announced is what its work says; at any time, what was announced follows the protocol. -/
structure Session.Reports (id : RunId) (minutes : List Entry) (s : Session σ) : Prop where
  active : ∀ run, s.find? id = some run →
    s.announced id = run.announcements ∧ results id minutes = [] ∧
      (run.cancelled = true ↔ StopRequested id minutes)
  protocol : ∃ (desk : Nat) (events : List Event), s.announced id = events.map (Prod.mk desk) ∧
    Protocol (results id minutes) (events.map Event.checkpoint)
  unissued : id ∉ issued minutes →
    s.find? id = none ∧ s.announced id = [] ∧ results id minutes = [] ∧ ¬ StopRequested id minutes

theorem Entry.resultOf?_of_not_moved {id : RunId} {entry : Entry}
    (hother : entry.command.moved? ≠ some id) : entry.resultOf? id = none :=
  if_neg hother

theorem Minutes.results_concat_of_none {id : RunId} {entry : Entry}
    (hnone : entry.resultOf? id = none) (minutes : List Entry) :
    results id (minutes ++ [entry]) = results id minutes := by
  simp [results, hnone]

namespace Session.Reports

variable {s : Session σ} {id : RunId} {minutes : List Entry}

theorem mem_issued {run : ActiveRun} (hreports : s.Reports id minutes)
    (hrun : s.find? id = some run) : id ∈ issued minutes := by
  by_contra hnot
  rw [(hreports.unissued hnot).1] at hrun
  cases hrun

end Session.Reports

/-- A run that enters a stage is heard of once more, and came to no result. -/
theorem Moving.reports_entered {b : Backends σ} {s : Session σ} {run : ActiveRun}
    {command : Command} {calls : List Call} {work : Work} {position : Position} {resources : σ}
    {minutes : List Entry}
    (hmoving : Moving b s run command calls work (.onward position) resources)
    (hrun : s.find? run.id = some run) (hreports : s.Reports run.id minutes)
    (hstopped : StopRequested run.id (minutes ++ [⟨command, .moved .working, calls⟩]) ↔
      StopRequested run.id minutes) :
    Session.Reports run.id (minutes ++ [⟨command, .moved .working, calls⟩])
      ({ s with resources }.entered run.id { work with position }) := by
  obtain ⟨hannounced, hnone, hflag⟩ := hreports.active run hrun
  have hresults : results run.id (minutes ++ [⟨command, .moved .working, calls⟩]) = [] := by
    rw [results_concat_of_none _ minutes, hnone]
    rw [Entry.resultOf?, if_pos hmoving.moved?_eq]
    rfl
  have hevents : ({ s with resources }.entered run.id { work with position }).announced run.id =
      (Stage.all.take (position.stage.index + 1)).map fun stage =>
        (work.desk, Event.entered run.id stage) := by
    have hbefore : ({ s with resources } : Session σ).announced run.id =
        (Stage.all.take position.stage.index).map fun stage =>
          (work.desk, Event.entered run.id stage) :=
      hannounced.trans (hmoving.announcements_of_onward rfl)
    rw [Session.announced_concat (Session.entered_events ..), hbefore, runId_entered, if_pos rfl,
      Stage.take_index_succ, List.map_append]
    rfl
  refine ⟨?_, ?_, ?_⟩
  · intro next hnext
    obtain ⟨state, hentered⟩ := Session.exists_find?_entered
      (s := { s with resources }) hrun { work with position }
    rw [hentered] at hnext
    obtain rfl := Option.some.inj hnext
    exact ⟨hevents, hresults, hflag.trans hstopped.symm⟩
  · refine ⟨work.desk, (Stage.all.take (position.stage.index + 1)).map (Event.entered run.id),
      ?_, ?_⟩
    · rw [hevents, List.map_map]
      rfl
    · rw [hresults, checkpoint_entered]
      exact .underway _
  · intro hissued
    rw [mem_issued_concat_iff, not_or] at hissued
    exact absurd (hreports.mem_issued hrun) hissued.1

/-- A run that ends is heard of once more, and comes to the one result. -/
theorem Ending.reports_finish {b : Backends σ} {s : Session σ} {run : ActiveRun}
    {command : Command} {calls : List Call} {work : Work} {returned : Returned} {resources : σ}
    {position : Position} {result : Except PipelineError Run} {minutes : List Entry}
    (hending : Ending run work returned position result)
    (hmoving : Moving b s run command calls work returned resources)
    (hrun : s.find? run.id = some run) (hreports : s.Reports run.id minutes) :
    Session.Reports run.id (minutes ++ [⟨command, .moved (.finished result), calls⟩])
      ({ s with resources }.finish b run.id work.desk position result).2 := by
  obtain ⟨hannounced, hnone, -⟩ := hreports.active run hrun
  have hresults : results run.id (minutes ++ [⟨command, .moved (.finished result), calls⟩]) =
      [result] := by
    have hresult : (⟨command, .moved (.finished result), calls⟩ : Entry).resultOf? run.id =
        some result := by
      rw [Entry.resultOf?, if_pos hmoving.moved?_eq]
      rfl
    rw [results_append, hnone]
    simp [results, hresult]
  refine ⟨?_, ?_, ?_⟩
  · intro next hnext
    rw [Session.find?_finish, if_pos rfl] at hnext
    cases hnext
  · refine ⟨work.desk, (Stage.all.take (stagesEntered result)).map (Event.entered run.id) ++
      [.ended run.id result], ?_, ?_⟩
    · have hbefore : ({ s with resources } : Session σ).announced run.id =
          (Stage.all.take (stagesEntered result)).map fun stage =>
            (work.desk, Event.entered run.id stage) :=
        hannounced.trans (hending.announcements_eq hmoving)
      rw [Session.announced_concat (Session.finish_events ..), hbefore, runId_ended, if_pos rfl,
        List.map_append, List.map_map]
      rfl
    · rw [hresults, List.map_append, checkpoint_entered, List.map_singleton, checkpoint_ended]
      exact .over result
  · intro hissued
    rw [mem_issued_concat_iff, not_or] at hissued
    exact absurd (hreports.mem_issued hrun) hissued.1

namespace Effect

variable {b : Backends σ} {s after : Session σ} {entry : Entry} {id : RunId}
  {minutes : List Entry}

theorem reports_of_not_moved (heffect : Effect b s entry after)
    (hfresh : entry.issued? = some id → id ∉ issued minutes)
    (hother : entry.command.moved? ≠ some id) (hreports : s.Reports id minutes) :
    after.Reports id (minutes ++ [entry]) := by
  have hannounced := heffect.announced_of_not_moved hother
  have hresults : results id (minutes ++ [entry]) = results id minutes :=
    results_concat_of_none (Entry.resultOf?_of_not_moved hother) minutes
  refine ⟨?_, ?_, ?_⟩
  · intro next hnext
    rw [hannounced, hresults, stopRequested_concat_iff]
    obtain ⟨run, cancelled, hrun, rfl⟩ | ⟨-, hissued, home, now, hcommand, rfl⟩ :=
      heffect.find?_of_not_moved hother hnext
    · obtain ⟨hannouncements, hnone, hstopped⟩ := hreports.active run hrun
      refine ⟨hannouncements, hnone, ?_⟩
      rw [heffect.cancelled_iff_of_not_moved hother hrun hnext, hstopped]
    · -- nobody has heard of a new id
      obtain ⟨-, hnothing, hnone, hnot⟩ := hreports.unissued (hfresh hissued)
      have hstops : ¬ entry.Stops id := by
        rintro ⟨_, hstops, -⟩
        rw [hcommand] at hstops
        cases hstops
      exact ⟨hnothing, hnone, iff_of_false Bool.false_ne_true (not_or_intro hnot hstops)⟩
  · rw [hannounced, hresults]
    exact hreports.protocol
  · intro hissued
    rw [mem_issued_concat_iff, not_or] at hissued
    obtain ⟨hover, hnothing, hnone, hnot⟩ := hreports.unissued hissued.1
    rw [hannounced, hresults, stopRequested_concat_iff]
    refine ⟨?_, hnothing, hnone, not_or_intro hnot ?_⟩
    · cases hnext : after.find? id with
      | none => rfl
      | some next =>
          obtain ⟨run, cancelled, hrun, -⟩ | ⟨-, hnew, -⟩ :=
            heffect.find?_of_not_moved hother hnext
          · rw [hover] at hrun
            cases hrun
          · exact absurd hnew hissued.2
    · exact heffect.not_stops_of_find? hover

theorem reports_of_moved (heffect : Effect b s entry after)
    (hmoved : entry.command.moved? = some id) (hreports : s.Reports id minutes) :
    after.Reports id (minutes ++ [entry]) := by
  have hstops : ¬ entry.Stops id := by
    intro hstops
    rw [hstops.moved?_eq] at hmoved
    cases hmoved
  have hstopped : StopRequested id (minutes ++ [entry]) ↔ StopRequested id minutes := by
    rw [stopRequested_concat_iff]
    exact or_iff_left hstops
  cases heffect with
  | @refused command _ _ _ =>
      have hresults : results id (minutes ++ [⟨command, .moved .refused, []⟩]) =
          results id minutes := by
        refine results_concat_of_none ?_ minutes
        rw [Entry.resultOf?, if_pos hmoved]
        rfl
      refine ⟨?_, ?_, ?_⟩
      · rw [hresults, hstopped]
        exact hreports.active
      · rw [hresults]
        exact hreports.protocol
      · intro hissued
        rw [mem_issued_concat_iff, not_or] at hissued
        rw [hresults, hstopped]
        exact hreports.unissued hissued.1
  | entered hrun hmoving hcancelled =>
      obtain rfl := hmoving.id_eq hmoved
      exact hmoving.reports_entered hrun hreports hstopped
  | ended hrun hmoving hending =>
      obtain rfl := hmoving.id_eq hmoved
      exact hending.reports_finish hmoving hrun hreports
  | _ => cases hmoved

end Effect

namespace Session

/-- A command announces a stage of a run exactly if it brings the run there, and nobody has asked
the run to stop. -/
theorem Reports.hasAnnounced_obey_iff {s : Session σ} {id : RunId} {minutes : List Entry}
    (hreports : s.Reports id minutes) (b : Backends σ) (command : Command) (stage : Stage) :
    (s.obey b command).2.HasAnnounced id stage ↔
      s.HasAnnounced id stage ∨ s.Reaches b command id stage ∧ ¬ StopRequested id minutes := by
  have heffect := obey_effect b s command
  have hflag : ∀ run, s.find? id = some run →
      (run.cancelled = false ↔ ¬ StopRequested id minutes) := by
    intro run hrun
    rw [← (hreports.active run hrun).2.2, Bool.not_eq_true]
  constructor
  · intro hafter
    by_cases hbefore : s.HasAnnounced id stage
    · exact .inl hbefore
    · obtain ⟨hreaches, run, hrun, hcancelled⟩ := heffect.reaches_of_hasAnnounced hafter hbefore
      exact .inr ⟨hreaches, (hflag run hrun).mp hcancelled⟩
  · rintro (hbefore | ⟨hreaches, hstopped⟩)
    · exact heffect.hasAnnounced hbefore
    · have ⟨run, _, _, _, _, hrun, _⟩ := hreaches
      exact hreaches.hasAnnounced hrun ((hflag run hrun).mpr hstopped)

/-! ## All commands -/

variable (b : Backends σ) (resources : σ) (limit : Nat) (sequence : UInt64)

/-- What is heard of an id that was given to one run follows the protocol. -/
theorem reports (commands : List Command) (id : RunId)
    (hown : (issued ((opened resources limit sequence).play b commands).1).count id ≤ 1) :
    ((opened resources limit sequence).play b commands).2.Reports id
      ((opened resources limit sequence).play b commands).1 := by
  -- the assumption speaks of all minutes so far, so it goes into the induction
  revert hown
  refine play_induction (P := fun minutes s =>
    (issued minutes).count id ≤ 1 → s.Reports id minutes) ?_ ?_ commands
  · intro _
    have hstopped : ¬ StopRequested id [] := by
      rintro ⟨entry, hentry, -⟩
      cases hentry
    refine ⟨fun run hrun => ?_, ⟨0, [], rfl, .underway 0⟩, fun _ => ⟨rfl, rfl, rfl, hstopped⟩⟩
    cases hrun
  · intro minutes s command ih hown
    have heffect := obey_effect b s command
    rw [issued_append, List.count_append] at hown
    have hreports := ih (Nat.le_of_add_right_le hown)
    by_cases hmoved : (s.entry b command).command.moved? = some id
    · exact heffect.reports_of_moved hmoved hreports
    · refine heffect.reports_of_not_moved (fun hissued hold => ?_) hmoved hreports
      have hnew : issued [s.entry b command] = [id] := by simp [issued, hissued]
      have hpos := List.count_pos_iff.mpr hold
      rw [hnew, List.count_singleton_self] at hown
      omega

/-- The stages that were announced are those that the run came to without having been asked to
stop. -/
theorem hasAnnounced_iff (commands : List Command) (id : RunId) (stage : Stage)
    (hown : (issued ((opened resources limit sequence).play b commands).1).count id ≤ 1) :
    ((opened resources limit sequence).play b commands).2.HasAnnounced id stage ↔
      ∃ before command, before ++ [command] <+: commands ∧
        ((opened resources limit sequence).play b before).2.Reaches b command id stage ∧
        ¬ StopRequested id ((opened resources limit sequence).play b before).1 := by
  induction commands using List.reverseRecOn with
  | nil =>
      refine iff_of_false ?_ ?_
      · rintro ⟨desk, hmem⟩
        cases hmem
      · rintro ⟨before, command, hbefore, -⟩
        simp at hbefore
  | append_singleton commands last ih =>
      rw [play_concat] at hown ⊢
      rw [issued_append, List.count_append] at hown
      have hone := Nat.le_of_add_right_le hown
      rw [(reports b resources limit sequence commands id hone).hasAnnounced_obey_iff, ih hone]
      constructor
      · rintro (⟨before, command, hbefore, hreaches⟩ | hreaches)
        · exact ⟨before, command, hbefore.trans (List.prefix_append ..), hreaches⟩
        · exact ⟨commands, last, List.prefix_rfl, hreaches⟩
      · rintro ⟨before, command, hbefore, hreaches⟩
        rcases List.prefix_concat_iff.mp hbefore with hwhole | hbefore
        · obtain ⟨rfl, hcommand⟩ := List.append_inj' hwhole rfl
          obtain rfl := List.singleton_inj.mp hcommand
          exact .inr hreaches
        · exact .inl ⟨before, command, hbefore, hreaches⟩

/-- Everything that a run does is heard of, and nothing else. -/
theorem length_announced (commands : List Command) (id : RunId) :
    (((opened resources limit sequence).play b commands).2.announced id).length =
      ((opened resources limit sequence).play b commands).1.countP (Entry.moves id) := by
  refine play_induction (P := fun minutes s =>
    (s.announced id).length = minutes.countP (Entry.moves id)) rfl ?_ commands
  intro minutes s command hlength
  rw [(obey_effect b s command).length_announced, hlength, List.countP_append,
    List.countP_singleton]

/-- **What is heard of a run.**  Whatever else goes on in a session, and as long as no other run has
the same id: one desk announces everything about the run, and what it announces follows the
protocol.  There is an event each time the run is moved, so it is over with the fourth at the
latest.  It is moved by each command that it waits for, and a run that is carried out comes to its
one result, and so its end is heard of.  A stage is announced exactly if the run came to it without
having been asked to stop.  And when the end is announced, the run is not active any more, and if it
came to a verdict, it is the newest of the history. -/
theorem progress_protocol (commands : List Command) (id : RunId)
    (hown : (issued ((opened resources limit sequence).play b commands).1).count id ≤ 1) :
    let minutes := ((opened resources limit sequence).play b commands).1
    let s := ((opened resources limit sequence).play b commands).2
    (∃ (desk : Nat) (events : List Event), s.announced id = events.map (Prod.mk desk) ∧
        Protocol (results id minutes) (events.map Event.checkpoint)) ∧
      (s.announced id).length = minutes.countP (Entry.moves id) ∧
      (∀ command, (s.entry b command).moves id = true ↔
        ∃ run, s.find? id = some run ∧ run.Awaits command) ∧
      ((opened resources limit sequence).CarriedOut b id commands →
        ∃ result, results id minutes = [result]) ∧
      (∀ stage, (∃ desk, (desk, Event.entered id stage) ∈ s.announced id) ↔
        ∃ before command, before ++ [command] <+: commands ∧
          ((opened resources limit sequence).play b before).2.Reaches b command id stage ∧
          ¬ StopRequested id ((opened resources limit sequence).play b before).1) ∧
      ∀ command result, (s.entry b command).resultOf? id = some result →
        ∃ (t : Session σ) (desk : Nat),
          (s.obey b command).2 = t.announce desk (.ended id result) ∧ id ∉ t.ids ∧
            ∀ run, result = .ok run → t.store.runs.head? = some run := by
  have hreports := reports b resources limit sequence commands id hown
  refine ⟨hreports.protocol, length_announced b resources limit sequence commands id,
    fun command => (obey_effect b _ command).moves_iff_awaits id, fun hcarried => ?_,
    fun stage => hasAnnounced_iff b resources limit sequence commands id stage hown, ?_⟩
  · obtain ⟨desk, events, -, hprotocol⟩ := hreports.protocol
    exact hprotocol.exists_eq_singleton hcarried.results_ne_nil
  intro command result hresult
  obtain ⟨t, desk, hannounce, hgone, hstore⟩ :=
    (obey_effect b _ command).exists_announce_ended hresult
  refine ⟨t, desk, hannounce, hgone, ?_⟩
  rintro run rfl
  have hlimit := store_eq_completed b resources limit sequence commands
  have hlast : t.store.runs =
      (run :: completed ((opened resources limit sequence).play b commands).1).take
        (max limit 1) := by
    rw [hstore, record, hlimit, Store.append_of_take]
  have hroom : max limit 1 ≠ 0 := by omega
  rw [hlast, List.head?_take, if_neg hroom, List.head?_cons]

/-- Two runs side by side, and the first one is asked to stop while it is being compiled: two stages
are heard of it, and then its end.  The other one is carried out: all three are heard of it, and
that it is complete. -/
theorem progress_of_two_runs :
    let b := Backends.answering (.ok ⟨"f()", ⟨0⟩⟩) (.ok { success := true }) (.ok .identical)
    let first := RunId.next ⟨0, 0⟩ 0
    let second := RunId.next ⟨0, 0⟩ 1
    let commands := [.prepare 0 ⟨0, 0⟩, .prepare 0 ⟨0, 0⟩, .start 0 first (.ofText "jr $ra"),
      .start 0 second (.ofText "jr $ra"), .advance first ⟨1, 0⟩, .advance second ⟨1, 0⟩,
      .cancel 0 first, .advance first ⟨2, 0⟩, .advance second ⟨2, 0⟩, .advance second ⟨3, 0⟩]
    let played := (opened () 1 0).play b commands
    let heard := fun id => (played.2.announced id).map fun e => e.2.checkpoint
    ((issued played.1).count first ≤ 1 ∧ (issued played.1).count second ≤ 1 ∧
        (opened () 1 0).CarriedOut b second commands) ∧
      heard first = [(.generate, 0), (.compile, 30), (.failed, 0)] ∧
      heard second = [(.generate, 0), (.compile, 30), (.verify, 60), (.complete, 100)] ∧
      (∃ (desk : Nat) (events : List Event), played.2.announced first = events.map (Prod.mk desk) ∧
        Protocol (results first played.1) (events.map Event.checkpoint)) ∧
      ∃ result, results second played.1 = [result] := by
  intro b first second commands played heard
  have hfirst : (issued played.1).count first ≤ 1 := by decide +kernel
  have hsecond : (issued played.1).count second ≤ 1 := by decide +kernel
  have hcarried : (opened () 1 0).CarriedOut b second commands := by
    refine ⟨commands.take 3, 0, .ofText "jr $ra", commands.drop 4, rfl, ?_, by decide, by decide⟩
    have hidle : (((opened () 1 0).play b (commands.take 3)).2.find? second).map ActiveRun.work =
        some none := by
      decide +kernel
    exact Option.map_eq_some_iff.mp hidle
  have hstopped : heard first = [(.generate, 0), (.compile, 30), (.failed, 0)] := by
    decide +kernel
  have hcomplete : heard second =
      [(.generate, 0), (.compile, 30), (.verify, 60), (.complete, 100)] := by
    decide +kernel
  exact ⟨⟨hfirst, hsecond, hcarried⟩, hstopped, hcomplete,
    (progress_protocol b () 1 0 commands first hfirst).1,
    (progress_protocol b () 1 0 commands second hsecond).2.2.2.1 hcarried⟩

end Session

end MatchingDecomp
