import MatchingDecomp.Proofs.Session.Course
import MatchingDecomp.Proofs.Session.Tickets

/-!
# The life of a run

One desk, any commands, and ids that are new when they are given out.  Then the desk knows exactly
the runs with open tickets; it can cancel these and tell their states, and no others.  A run is
idle until it is started.  And every change of state that the desk writes down is permitted: put in
order, the changes of one run are the steps of a course.

The invariant is `Session.Tracks`, for one id at a time.  A command that does not move the run
keeps it because it touches neither the run nor its changes of state
(`Effect.tracks_of_not_moved`).  For a command that moves the run everything was said in
`Course.lean` (`Effect.tracks_of_moved`).
-/

namespace MatchingDecomp

open Minutes RunState

variable {σ : Type}

/-! ## One desk -/

/-- The command is given at a desk, if it is given at any. -/
def Command.AtDesk (desk : Nat) : Command → Prop
  | .prepare home _ => home = desk
  | .start carrier _ _ => carrier = desk
  | .cancel home _ => home = desk
  | _ => True

/-- The entry says that a run entered its first stage. -/
def Entry.Starts (id : RunId) (entry : Entry) : Prop :=
  ∃ desk fragment, entry.command = .start desk id fragment ∧ entry.answer = .moved .working

/-- A run has entered its first stage. -/
def Minutes.Started (id : RunId) (minutes : List Entry) : Prop :=
  ∃ entry ∈ minutes, entry.Starts id

theorem Entry.Starts.moved?_eq {id : RunId} {entry : Entry} (hstarts : entry.Starts id) :
    entry.command.moved? = some id := by
  obtain ⟨desk, fragment, hcommand, -⟩ := hstarts
  rw [hcommand]
  rfl

theorem Minutes.started_concat_iff (id : RunId) (minutes : List Entry) (entry : Entry) :
    Started id (minutes ++ [entry]) ↔ Started id minutes ∨ entry.Starts id := by
  simp only [Started, List.mem_append, List.mem_singleton]
  constructor
  · rintro ⟨other, hother | rfl, hstarts⟩
    · exact .inl ⟨other, hother, hstarts⟩
    · exact .inr hstarts
  · rintro (⟨other, hother, hstarts⟩ | hstarts)
    · exact ⟨other, .inl hother, hstarts⟩
    · exact ⟨entry, .inr rfl, hstarts⟩

theorem Minutes.mem_issued_concat_iff (id : RunId) (minutes : List Entry) (entry : Entry) :
    id ∈ issued (minutes ++ [entry]) ↔ id ∈ issued minutes ∨ entry.issued? = some id := by
  simp [issued]

/-! ## The changes of state of a run -/

namespace Session

/-- The changes of state of a run, in order. -/
def movesOf (s : Session σ) (id : RunId) : List (RunState × RunState) :=
  (s.moves.filter fun move => move.id = id).map fun move => (move.before, move.after)

theorem movesOf_concat {s t : Session σ} {move : Move} (hmoves : t.moves = s.moves ++ [move])
    (id : RunId) :
    t.movesOf id =
      s.movesOf id ++ if move.id = id then [(move.before, move.after)] else [] := by
  rw [movesOf, hmoves, List.filter_append, List.map_append]
  by_cases hid : move.id = id
  · simp [movesOf, hid]
  · simp [movesOf, hid]

theorem movesOf_transition_of_ne (s : Session σ) (desk : Nat) {id other : RunId}
    (next : RunState) (hother : other ≠ id) :
    (s.transition desk id next).movesOf other = s.movesOf other := by
  cases hseen : s.findAt? desk id with
  | none => simp only [transition, hseen]
  | some run =>
      rw [transition_of_findAt? hseen, movesOf_concat rfl, if_neg (Ne.symm hother),
        List.append_nil]

end Session

/-- A command writes down changes of state of the run that it moves only. -/
theorem Effect.movesOf_of_not_moved {b : Backends σ} {s after : Session σ} {entry : Entry}
    (heffect : Effect b s entry after) {id : RunId} (hother : entry.command.moved? ≠ some id) :
    after.movesOf id = s.movesOf id := by
  cases heffect with
  | entered hrun hmoving hcancelled =>
      have hne : id ≠ _ := fun hid => hother (hid ▸ hmoving.moved?_eq)
      exact Session.movesOf_transition_of_ne _ _ _ hne
  | ended hrun hmoving hending =>
      have hne : id ≠ _ := fun hid => hother (hid ▸ hmoving.moved?_eq)
      rw [Session.movesOf, Session.finish_moves]
      exact Session.movesOf_transition_of_ne _ _ _ hne
  | _ => rfl

namespace Moving

variable {b : Backends σ} {s : Session σ} {run : ActiveRun} {command : Command}
  {calls : List Call} {work : Work} {returned : Returned} {resources : σ} {desk : Nat}

/-- The desk that carries out a run sees it. -/
theorem findAt?_eq (hmoving : Moving b s run command calls work returned resources)
    (hdesk : command.AtDesk desk) (horderly : run.Orderly desk)
    (hrun : s.find? run.id = some run) :
    work.desk = desk ∧ s.findAt? work.desk run.id = some run := by
  have hcarrier : work.desk = desk := by
    cases hmoving with
    | start carrier fragment hidle => exact hdesk
    | advance now hwork => exact (horderly.working work hwork).1
  refine ⟨hcarrier, ?_⟩
  rw [hcarrier, ← horderly.home]
  exact Session.findAt?_eq_some_of_find? hrun

/-- A run that enters a stage was started, now or before. -/
theorem started (hmoving : Moving b s run command calls work returned resources)
    {minutes : List Entry} (hstarted : run.work = none ↔ ¬ Started run.id minutes) :
    Started run.id (minutes ++ [⟨command, .moved .working, calls⟩]) := by
  rw [started_concat_iff]
  cases hmoving with
  | start carrier fragment hidle => exact .inr ⟨carrier, fragment, rfl, rfl⟩
  | advance now hwork =>
      left
      by_contra hnot
      rw [hstarted.mpr hnot] at hwork
      cases hwork

end Moving

/-! ## The invariant -/

/-- What is known about a run from the minutes: the desk sees it as long as it is active, it is in
the state where its changes of state have led, and these are the steps of a course. -/
structure Session.Tracks (desk : Nat) (id : RunId) (minutes : List Entry) (s : Session σ) :
    Prop where
  active : ∀ run, s.find? id = some run →
    run.Orderly desk ∧ s.movesOf id = steps (wayTo run.state) ∧
      (run.work = none ↔ ¬ Started id minutes)
  course : ∃ path, Course path ∧ s.movesOf id = steps path
  unissued : id ∉ issued minutes →
    s.find? id = none ∧ s.movesOf id = [] ∧ ¬ Started id minutes

/-- Only an id that was given out can be that of an active run. -/
theorem Session.Tracks.mem_issued {s : Session σ} {desk : Nat} {id : RunId}
    {minutes : List Entry} {run : ActiveRun} (htracks : s.Tracks desk id minutes)
    (hrun : s.find? id = some run) : id ∈ issued minutes := by
  by_contra hnot
  rw [(htracks.unissued hnot).1] at hrun
  cases hrun

/-- A command that is refused leaves everything as it is. -/
theorem Session.Tracks.of_refused {s : Session σ} {desk : Nat} {id : RunId}
    {minutes : List Entry} (htracks : s.Tracks desk id minutes) (command : Command) :
    s.Tracks desk id (minutes ++ [⟨command, .moved .refused, []⟩]) := by
  have hstarted : Started id (minutes ++ [⟨command, .moved .refused, []⟩]) ↔
      Started id minutes := by
    rw [started_concat_iff]
    refine or_iff_left ?_
    rintro ⟨carrier, fragment, -, hanswer⟩
    cases hanswer
  refine ⟨fun run hrun => ?_, htracks.course, fun hnot => ?_⟩
  · rw [hstarted]
    exact htracks.active run hrun
  · rw [mem_issued_concat_iff, not_or] at hnot
    rw [hstarted]
    exact htracks.unissued hnot.1

/-- A run that enters a stage goes one step further on its way. -/
theorem Moving.tracks_entered {b : Backends σ} {s : Session σ} {run : ActiveRun}
    {command : Command} {calls : List Call} {work : Work} {position : Position} {resources : σ}
    {desk : Nat} {minutes : List Entry}
    (hmoving : Moving b s run command calls work (.onward position) resources)
    (hdesk : command.AtDesk desk) (hrun : s.find? run.id = some run)
    (htracks : s.Tracks desk run.id minutes) :
    Session.Tracks desk run.id (minutes ++ [⟨command, .moved .working, calls⟩])
      ({ s with resources }.entered run.id { work with position }) := by
  obtain ⟨horderly, hsteps, hstarted⟩ := htracks.active run hrun
  obtain ⟨hcarrier, hsees⟩ := hmoving.findAt?_eq hdesk horderly hrun
  have hfind : ({ s with resources } : Session σ).find? run.id = some run := hrun
  have hseen : ({ s with resources } : Session σ).findAt?
      ({ work with position } : Work).desk run.id = some run := hsees
  have hnext := hmoving.nextStage?_eq horderly rfl
  have hmoves : ({ s with resources }.entered run.id { work with position }).movesOf run.id =
      steps (wayTo (.working position.stage)) := by
    rw [Session.movesOf_concat (Session.moves_entered hseen), if_pos rfl, wayTo_working hnext,
      steps_wayTo_concat horderly.state_mem_way, ← hsteps]
    rfl
  refine ⟨fun next hfound => ?_, ⟨_, .onWay (working_mem_way _), hmoves⟩, fun hnot => ?_⟩
  · rw [Session.find?_entered hfind hseen] at hfound
    obtain rfl := Option.some.inj hfound
    refine ⟨⟨horderly.home, fun hidle => ?_, fun new hnew => ?_⟩, hmoves, ?_⟩
    · cases hidle
    · obtain rfl := Option.some.inj hnew
      exact ⟨hcarrier, rfl⟩
    · exact iff_of_false (Option.some_ne_none _) (not_not_intro (hmoving.started hstarted))
  · rw [mem_issued_concat_iff, not_or] at hnot
    exact absurd (htracks.mem_issued hrun) hnot.1

/-- Of a run that has ended nothing is left to be tracked but its course, which is at its end. -/
theorem Ending.tracks_finish {b : Backends σ} {s : Session σ} {run : ActiveRun}
    {command : Command} {calls : List Call} {work : Work} {returned : Returned} {resources : σ}
    {position : Position} {result : Except PipelineError Run} {desk : Nat}
    {minutes : List Entry} (hending : Ending run work returned position result)
    (hmoving : Moving b s run command calls work returned resources)
    (hdesk : command.AtDesk desk) (hrun : s.find? run.id = some run)
    (htracks : s.Tracks desk run.id minutes) :
    Session.Tracks desk run.id (minutes ++ [⟨command, .moved (.finished result), calls⟩])
      ({ s with resources }.finish b run.id work.desk position result).2 := by
  obtain ⟨horderly, hsteps, -⟩ := htracks.active run hrun
  have hseen : ({ s with resources } : Session σ).findAt? work.desk run.id = some run :=
    (hmoving.findAt?_eq hdesk horderly hrun).2
  refine ⟨fun next hfound => ?_, ⟨_, hending.course horderly hmoving, ?_⟩, fun hnot => ?_⟩
  · rw [Session.find?_finish, if_pos rfl] at hfound
    cases hfound
  · rw [Session.movesOf_concat (Session.moves_finish hseen b position result), if_pos rfl,
      steps_wayTo_concat horderly.state_mem_way, ← hsteps]
    rfl
  · rw [mem_issued_concat_iff, not_or] at hnot
    exact absurd (htracks.mem_issued hrun) hnot.1

namespace Effect

variable {b : Backends σ} {s after : Session σ} {entry : Entry} {desk : Nat} {id : RunId}
  {minutes : List Entry}

theorem tracks_of_not_moved (heffect : Effect b s entry after)
    (hdesk : entry.command.AtDesk desk)
    (hfresh : entry.issued? = some id → id ∉ issued minutes)
    (hother : entry.command.moved? ≠ some id) (htracks : s.Tracks desk id minutes) :
    after.Tracks desk id (minutes ++ [entry]) := by
  have hmoves := heffect.movesOf_of_not_moved hother
  have hstarted : Started id (minutes ++ [entry]) ↔ Started id minutes := by
    rw [started_concat_iff]
    exact or_iff_left fun hstarts => hother hstarts.moved?_eq
  refine ⟨?_, ?_, ?_⟩
  · intro next hnext
    rw [hmoves, hstarted]
    obtain ⟨run, cancelled, hrun, rfl⟩ | ⟨-, hissued, home, now, hcommand, rfl⟩ :=
      heffect.find?_of_not_moved hother hnext
    · obtain ⟨horderly, hsteps⟩ := htracks.active run hrun
      exact ⟨⟨horderly.home, horderly.idle, horderly.working⟩, hsteps⟩
    · -- a new id has no past
      obtain ⟨-, hnone, hnot⟩ := htracks.unissued (hfresh hissued)
      rw [hcommand] at hdesk
      refine ⟨⟨hdesk, fun _ => rfl, fun work hwork => ?_⟩, hnone, iff_of_true rfl hnot⟩
      cases hwork
  · rw [hmoves]
    exact htracks.course
  · intro hissued
    rw [mem_issued_concat_iff, not_or] at hissued
    obtain ⟨hnone, hnothing, hnot⟩ := htracks.unissued hissued.1
    rw [hmoves, hstarted]
    refine ⟨?_, hnothing, hnot⟩
    cases hnext : after.find? id with
    | none => rfl
    | some next =>
        obtain ⟨run, cancelled, hrun, -⟩ | ⟨-, hnew, -⟩ :=
          heffect.find?_of_not_moved hother hnext
        · rw [hnone] at hrun
          cases hrun
        · exact absurd hnew hissued.2

theorem tracks_of_moved (heffect : Effect b s entry after) (hdesk : entry.command.AtDesk desk)
    (hmoved : entry.command.moved? = some id) (htracks : s.Tracks desk id minutes) :
    after.Tracks desk id (minutes ++ [entry]) := by
  cases heffect with
  | @refused command _ _ _ => exact htracks.of_refused command
  | entered hrun hmoving hcancelled =>
      obtain rfl := hmoving.id_eq hmoved
      exact hmoving.tracks_entered hdesk hrun htracks
  | ended hrun hmoving hending =>
      obtain rfl := hmoving.id_eq hmoved
      exact hending.tracks_finish hmoving hdesk hrun htracks
  | _ => cases hmoved

end Effect

/-! ## What a desk can tell of a run -/

namespace Session.Tracks

variable {s : Session σ} {desk : Nat} {id : RunId} {minutes : List Entry}

theorem findAt?_eq (htracks : s.Tracks desk id minutes) : s.findAt? desk id = s.find? id :=
  findAt?_eq_find? fun run hrun => (htracks.active run hrun).1.home

theorem isSome_findAt?_iff (htracks : s.Tracks desk id minutes) :
    (s.findAt? desk id).isSome ↔ id ∈ s.ids := by
  rw [htracks.findAt?_eq]
  exact isSome_find?_iff s id

theorem stateOf?_eq_idle_iff (htracks : s.Tracks desk id minutes) (hactive : id ∈ s.ids) :
    s.stateOf? desk id = some .idle ↔ ¬ Started id minutes := by
  obtain ⟨run, hrun⟩ := mem_ids_iff_exists.mp hactive
  obtain ⟨horderly, -, hstarted⟩ := htracks.active run hrun
  rw [stateOf?, htracks.findAt?_eq, hrun, Option.map_some, Option.some_inj,
    horderly.state_eq_idle_iff]
  exact hstarted

/-- The course of a run has led to its present state. -/
theorem exists_course (htracks : s.Tracks desk id minutes) :
    ∃ path, Course path ∧ s.movesOf id = steps path ∧
      ∀ state, s.stateOf? desk id = some state → path.getLast? = some state := by
  cases hrun : s.find? id with
  | none =>
      obtain ⟨path, hcourse, hsteps⟩ := htracks.course
      refine ⟨path, hcourse, hsteps, fun state hstate => ?_⟩
      rw [stateOf?, htracks.findAt?_eq, hrun] at hstate
      cases hstate
  | some run =>
      obtain ⟨horderly, hsteps, -⟩ := htracks.active run hrun
      have hway := horderly.state_mem_way
      refine ⟨wayTo run.state, .onWay hway, hsteps, fun state hstate => ?_⟩
      rw [stateOf?, htracks.findAt?_eq, hrun] at hstate
      obtain rfl := Option.some.inj hstate
      exact getLast?_wayTo run.state hway

end Session.Tracks

/-! ## All commands -/

namespace Session

/-- At one desk, and with ids that are new, every run is tracked. -/
theorem tracks (b : Backends σ) (resources : σ) (limit : Nat) (sequence : UInt64) {desk : Nat}
    {commands : List Command} (hdesk : ∀ command ∈ commands, command.AtDesk desk)
    (hfresh : (issued ((opened resources limit sequence).play b commands).1).Nodup) (id : RunId) :
    ((opened resources limit sequence).play b commands).2.Tracks desk id
      ((opened resources limit sequence).play b commands).1 := by
  have hminutes : ∀ entry ∈ ((opened resources limit sequence).play b commands).1,
      entry.command.AtDesk desk := by
    intro entry hentry
    refine hdesk entry.command ?_
    rw [← play_commands (opened resources limit sequence) b commands]
    exact List.mem_map_of_mem hentry
  -- both assumptions speak of all minutes so far, so they go into the induction
  revert hminutes hfresh
  refine play_induction (P := fun minutes s => (issued minutes).Nodup →
    (∀ entry ∈ minutes, entry.command.AtDesk desk) → s.Tracks desk id minutes) ?_ ?_ commands
  · intro _ _
    refine ⟨fun run hrun => ?_, ⟨_, .onWay (List.mem_cons_self : .idle ∈ way), rfl⟩,
      fun _ => ⟨rfl, rfl, ?_⟩⟩
    · cases hrun
    · rintro ⟨entry, hentry, -⟩
      cases hentry
  · intro minutes s command ih hfresh hminutes
    have heffect := obey_effect b s command
    rw [issued_append, List.nodup_append] at hfresh
    have hat := hminutes _ (List.mem_append_right _ List.mem_cons_self)
    have htracks := ih hfresh.1 fun entry hentry => hminutes entry (List.mem_append_left _ hentry)
    by_cases hmoved : (s.entry b command).command.moved? = some id
    · exact heffect.tracks_of_moved hat hmoved htracks
    · refine heffect.tracks_of_not_moved hat (fun hissued hold => ?_) hmoved htracks
      exact hfresh.2.2 id hold id (by simp [issued, hissued]) rfl

end Session

end MatchingDecomp
