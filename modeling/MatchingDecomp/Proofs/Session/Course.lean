import MatchingDecomp.Proofs.Session.Effect

/-!
# The course of a run

A run goes the way from idle through the three stages, one after the other, and is completed at the
end.  It can leave the way once, by failing in the stage that it is in or before the stage that
comes next.  `Course` lists the sequences of states that this allows.

That a run keeps to a course is decided where it is moved.  A run is orderly if its state is the one
that belongs to the call it waits for; then the state into which it is moved continues the way
(`Moving.nextStage?_eq`), or ends it properly (`Ending.course`).
-/

namespace MatchingDecomp

variable {σ : Type}

/-! ## Courses -/

namespace RunState

/-- The states of a run that is not over, in order. -/
def way : List RunState := [.idle, .generating, .compiling, .verifying]

/-- The way up to a state. -/
def wayTo (state : RunState) : List RunState :=
  way.take (way.idxOf state + 1)

/-- The changes of state along a path. -/
def steps (path : List RunState) : List (RunState × RunState) :=
  path.zip path.tail

/-- The sequences of states that a run can go through, from the first to the present one. -/
inductive Course : List RunState → Prop where
  | onWay {state : RunState} (hstate : state ∈ way) : Course (wayTo state)
  | completed (status : RunStatus) : Course (way ++ [.completed status])
  | failed {state : RunState} {stage : Stage} (hstate : state ∈ way)
      (hstage : state.stage? = some stage ∨ state.nextStage? = some stage) :
      Course (wayTo state ++ [.failed stage])

theorem getLast?_wayTo : ∀ state ∈ way, (wayTo state).getLast? = some state := by
  decide

theorem working_mem_way (stage : Stage) : working stage ∈ way := by
  cases stage <;> decide

/-- The way to a stage goes through the state before it. -/
theorem wayTo_working {state : RunState} {stage : Stage} (hnext : state.nextStage? = some stage) :
    wayTo (working stage) = wayTo state ++ [working stage] := by
  cases state <;> cases hnext <;> rfl

theorem steps_concat (path : List RunState) (next : RunState) :
    steps (path ++ [next]) = steps path ++ (path.getLast?.map (·, next)).toList := by
  induction path with
  | nil => rfl
  | cons first rest ih =>
      cases rest with
      | nil => rfl
      | cons second rest =>
          simp only [steps, List.cons_append, List.tail_cons, List.zip_cons_cons,
            List.getLast?_cons_cons] at ih ⊢
          rw [ih]

theorem steps_wayTo_concat {state : RunState} (hstate : state ∈ way) (next : RunState) :
    steps (wayTo state ++ [next]) = steps (wayTo state) ++ [(state, next)] := by
  rw [steps_concat, getLast?_wayTo state hstate]
  rfl

theorem canBecome_failed (state : RunState) (stage : Stage) :
    state.canBecome (.failed stage) =
      (state.stage? == some stage || state.nextStage? == some stage) := by
  cases state <;> rfl

/-- Along a course every change of state is permitted. -/
theorem Course.canBecome {path : List RunState} (hcourse : Course path) :
    ∀ step ∈ steps path, step.1.canBecome step.2 = true := by
  have hway : ∀ state ∈ way, ∀ step ∈ steps (wayTo state), step.1.canBecome step.2 = true := by
    decide
  cases hcourse with
  | @onWay state hstate => exact hway state hstate
  | completed status => cases status <;> decide
  | @failed state stage hstate hstage =>
      rw [steps_wayTo_concat hstate]
      intro step hstep
      rcases List.mem_append.mp hstep with hstep | hstep
      · exact hway state hstate step hstep
      · obtain rfl := List.mem_singleton.mp hstep
        rw [canBecome_failed]
        simpa using hstage

end RunState

/-! ## Orderly runs -/

/-- A run of a desk whose state is the one that belongs to the call it waits for. -/
structure ActiveRun.Orderly (desk : Nat) (run : ActiveRun) : Prop where
  home : run.home = desk
  idle : run.work = none → run.state = .idle
  working : ∀ work, run.work = some work →
    work.desk = desk ∧ run.state = .working work.position.stage

theorem ActiveRun.Orderly.state_mem_way {desk : Nat} {run : ActiveRun}
    (horderly : run.Orderly desk) : run.state ∈ RunState.way := by
  cases hwork : run.work with
  | none =>
      rw [horderly.idle hwork]
      decide
  | some work =>
      rw [(horderly.working work hwork).2]
      exact RunState.working_mem_way _

/-- An orderly run is idle exactly as long as it waits for no call. -/
theorem ActiveRun.Orderly.state_eq_idle_iff {desk : Nat} {run : ActiveRun}
    (horderly : run.Orderly desk) : run.state = .idle ↔ run.work = none := by
  refine ⟨fun hstate => ?_, horderly.idle⟩
  cases hwork : run.work with
  | none => rfl
  | some work =>
      rw [(horderly.working work hwork).2] at hstate
      cases hstage : work.position.stage <;> rw [hstage] at hstate <;> cases hstate

namespace Moving

variable {b : Backends σ} {s : Session σ} {run : ActiveRun} {command : Command}
  {calls : List Call} {work : Work} {returned : Returned} {resources : σ} {desk : Nat}

/-- A run that comes to a stage comes to the next one. -/
theorem nextStage?_eq (hmoving : Moving b s run command calls work returned resources)
    (horderly : run.Orderly desk) {position : Position} (honward : returned = .onward position) :
    run.state.nextStage? = some position.stage := by
  cases hmoving with
  | start _ fragment hidle =>
      cases honward
      rw [horderly.idle hidle]
      rfl
  | advance now hwork =>
      rw [(horderly.working work hwork).2]
      -- generating leads to compiling, and compiling to verifying
      obtain ⟨candidate, after, hposition, rfl, -⟩ |
        ⟨candidate, outcome, after, hposition, rfl, -⟩ := Work.call_onward honward
      · rw [hposition]
        rfl
      · rw [hposition]
        rfl

/-- A run whose call failed is in the stage of that call. -/
theorem stage?_eq (hmoving : Moving b s run command calls work returned resources)
    (horderly : run.Orderly desk) {cause : StageFailure} (hfailed : returned = .failed cause) :
    run.state.stage? = some work.position.stage := by
  cases hmoving with
  | start _ fragment hidle => cases hfailed
  | advance now hwork =>
      rw [(horderly.working work hwork).2]
      cases work.position.stage <;> rfl

/-- A run that is complete was in the last stage. -/
theorem state_eq_verifying (hmoving : Moving b s run command calls work returned resources)
    (horderly : run.Orderly desk) {record : Run} (hcomplete : returned = .complete record) :
    run.state = .verifying := by
  cases hmoving with
  | start _ fragment hidle => cases hcomplete
  | advance now hwork =>
      obtain ⟨candidate, outcome, verdict, after, hposition, -⟩ := Work.call_complete hcomplete
      rw [(horderly.working work hwork).2, hposition]
      rfl

end Moving

/-- A run that ends has followed a course to its last state. -/
theorem Ending.course {b : Backends σ} {s : Session σ} {run : ActiveRun} {command : Command}
    {calls : List Call} {work : Work} {returned : Returned} {resources : σ} {desk : Nat}
    {position : Position} {result : Except PipelineError Run}
    (hending : Ending run work returned position result) (horderly : run.Orderly desk)
    (hmoving : Moving b s run command calls work returned resources) :
    RunState.Course (run.state.wayTo ++ [Session.finalState result]) := by
  have hway := horderly.state_mem_way
  cases hending with
  | cancelled position hcancelled =>
      exact .failed hway (.inr (hmoving.nextStage?_eq horderly rfl))
  | failed cause => exact .failed hway (.inl (hmoving.stage?_eq horderly rfl))
  | completed record =>
      rw [hmoving.state_eq_verifying horderly rfl]
      exact .completed record.status

end MatchingDecomp
