import MatchingDecomp.Proofs.Session.Command

/-!
# Which backend calls a command makes

A backend is a function, and a function keeps no record of being called.  So the calls are noted
from outside: `Backends.noting` turns backends that work on a state `σ` into backends that work on
`σ` and a list of calls.  They answer as before and write each call down with its answer.  The
calls of a command, `Session.callsOf`, are those that stand in the list when the command was
carried out with backends that take notes.

The contract of a stage may settle its answer without asking the backend.  `callsOf_advance` says
exactly when it does: a command that lets a call return makes at most one call of a backend, the
one of the position the run stands at, and none for a blank fragment, for brackets that are not
balanced, or for an outcome without success.
-/

namespace MatchingDecomp

variable {σ : Type}

/-! ## The contracts, spelled out -/

theorem stateM_bind_apply {α β : Type} (action : StateM σ α) (next : α → StateM σ β)
    (resources : σ) :
    (action >>= next) resources = next (action resources).1 (action resources).2 := rfl

theorem Generator.generate_eq (g : Generator σ) (fragment : Fragment) (resources : σ) :
    g.generate fragment resources =
      if fragment.isBlank then (.error .emptyFragment, resources)
      else
        match g.produce fragment resources with
        | (.error e, after) => (.error e, after)
        | (.ok candidate, after) =>
          if Text.isBlankText candidate.source then (.error .emptyOutput, after)
          else (.ok candidate.clamped, after) := by
  unfold generate
  by_cases hblank : fragment.isBlank
  · simp only [hblank, if_true]
    rfl
  · simp only [hblank, Bool.false_eq_true, if_false]
    rw [stateM_bind_apply]
    obtain ⟨answer, after⟩ := g.produce fragment resources
    cases answer with
    | error e => rfl
    | ok candidate =>
        dsimp only
        split <;> rfl

theorem Verifier.verify_eq (v : Verifier σ) (fragment : Fragment) (source : String)
    (outcome : Outcome) (resources : σ) :
    v.verify fragment source outcome resources =
      if outcome.success then
        match v.compare fragment source outcome.artifact resources with
        | (.error e, after) => (.error e, after)
        | (.ok comparison, after) => (.ok (.ofComparison comparison), after)
      else (.ok .compilationFailed, resources) := by
  unfold verify
  cases hsuccess : outcome.success with
  | false => rfl
  | true =>
      simp only [Bool.not_true, Bool.false_eq_true, if_false, if_true]
      rw [stateM_bind_apply]
      obtain ⟨answer, after⟩ := v.compare fragment source outcome.artifact resources
      cases answer <;> rfl

/-- A candidate is what the backend produced for a fragment that is not blank; its source is not
blank, and only its confidence may have been moved. -/
theorem Generator.generate_ok {g : Generator σ} {fragment : Fragment} {resources after : σ}
    {candidate : Candidate} (hok : g.generate fragment resources = (.ok candidate, after)) :
    ∃ raw, g.produce fragment resources = (.ok raw, after) ∧ fragment.isBlank = false ∧
      Text.isBlankText raw.source = false ∧ candidate = raw.clamped := by
  rw [generate_eq] at hok
  cases hblank : fragment.isBlank with
  | true =>
      rw [hblank, if_pos rfl] at hok
      cases hok
  | false =>
      rw [hblank, if_neg Bool.false_ne_true] at hok
      generalize g.produce fragment resources = produced at hok ⊢
      obtain ⟨answer, left⟩ := produced
      cases answer with
      | error e => cases hok
      | ok raw =>
          cases hsource : Text.isBlankText raw.source with
          | true =>
              simp only [hsource, if_true] at hok
              cases hok
          | false =>
              simp only [hsource, Bool.false_eq_true, if_false] at hok
              cases hok
              exact ⟨raw, rfl, rfl, hsource, rfl⟩

/-- An outcome is the answer of the backend, or the one of the bracket gate. -/
theorem Compiler.compile_ok {c : Compiler σ} {source : String} {resources after : σ}
    {outcome : Outcome} (hok : c.compile source resources = (.ok outcome, after)) :
    (Source.isBalanced source = true ∧ c.compileChecked source resources = (.ok outcome, after)) ∨
      (Source.isBalanced source = false ∧ outcome = .invalidStructure) := by
  unfold compile at hok
  cases hbalanced : Source.isBalanced source with
  | true =>
      rw [hbalanced, if_pos rfl] at hok
      exact .inl ⟨rfl, hok⟩
  | false =>
      rw [hbalanced, if_neg Bool.false_ne_true] at hok
      cases hok
      exact .inr ⟨rfl, rfl⟩

/-- A verdict is drawn from the comparison, or it is the one on a candidate that did not compile. -/
theorem Verifier.verify_ok {v : Verifier σ} {fragment : Fragment} {source : String}
    {outcome : Outcome} {resources after : σ} {verdict : Verdict}
    (hok : v.verify fragment source outcome resources = (.ok verdict, after)) :
    (outcome.success = true ∧ ∃ comparison,
        v.compare fragment source outcome.artifact resources = (.ok comparison, after) ∧
          verdict = .ofComparison comparison) ∨
      (outcome.success = false ∧ verdict = .compilationFailed) := by
  rw [verify_eq] at hok
  cases hsuccess : outcome.success with
  | false =>
      rw [hsuccess, if_neg Bool.false_ne_true] at hok
      cases hok
      exact .inr ⟨rfl, rfl⟩
  | true =>
      rw [hsuccess, if_pos rfl] at hok
      generalize v.compare fragment source outcome.artifact resources = compared at hok ⊢
      obtain ⟨answer, left⟩ := compared
      cases answer with
      | error e => cases hok
      | ok comparison =>
          cases hok
          exact .inl ⟨rfl, comparison, rfl, rfl⟩

/-! ## Taking notes -/

/-- A call of a backend, with its answer. -/
inductive Call where
  | produce (fragment : Fragment) (answer : Except GenerationError Candidate)
  | compileChecked (source : String) (answer : Except CompilerError Outcome)
  | compare (fragment : Fragment) (source : String) (artifact : Option Artifact)
      (answer : Except VerificationError Comparison)

/-- The stage that makes a call. -/
def Call.stage : Call → Stage
  | .produce .. => .generate
  | .compileChecked .. => .compile
  | .compare .. => .verify

/-- An action that is noted, with its answer, at the end of a list of calls. -/
def noting {α : Type} (note : α → Call) (action : StateM σ α) : StateM (σ × List Call) α :=
  fun (resources, calls) =>
    let (answer, resources) := action resources
    (answer, resources, calls ++ [note answer])

/-- The same backends, with each call noted. -/
def Backends.noting (b : Backends σ) : Backends (σ × List Call) where
  generator := {
    name := b.generator.name
    produce := fun fragment =>
      MatchingDecomp.noting (.produce fragment) (b.generator.produce fragment)
    refine := b.generator.refine }
  compiler := {
    describe := fun r => b.compiler.describe r.1
    compileChecked := fun source =>
      MatchingDecomp.noting (.compileChecked source) (b.compiler.compileChecked source)
    release := fun outcome r => (b.compiler.release outcome r.1, r.2) }
  verifier := {
    name := b.verifier.name
    compare := fun fragment source artifact =>
      MatchingDecomp.noting (.compare fragment source artifact)
        (b.verifier.compare fragment source artifact) }

/-- The same session, with no call noted so far. -/
def Session.noting (s : Session σ) : Session (σ × List Call) :=
  { s with resources := (s.resources, []) }

/-- The calls of backends that are made while a command is carried out. -/
def Session.callsOf (s : Session σ) (b : Backends σ) (command : Command) : List Call :=
  (s.noting.obey b.noting command).2.resources.2

/-! ## The calls of a position -/

/-- The calls that are made at a position: one, or none if the contract of the stage settles the
answer. -/
def Position.calls (b : Backends σ) (fragment : Fragment) (position : Position) (resources : σ) :
    List Call :=
  match position with
  | .generating =>
    if fragment.isBlank then []
    else [.produce fragment (b.generator.produce fragment resources).1]
  | .compiling candidate =>
    if Source.isBalanced candidate.source then
      [.compileChecked candidate.source (b.compiler.compileChecked candidate.source resources).1]
    else []
  | .verifying candidate outcome =>
    if outcome.success then
      [.compare fragment candidate.source outcome.artifact
        (b.verifier.compare fragment candidate.source outcome.artifact resources).1]
    else []

/-- A call answers the same and leaves the same behind, and its notes are the calls of the
position. -/
theorem Work.call_noting (b : Backends σ) (id : RunId) (now : Instant) (work : Work)
    (resources : σ) (calls : List Call) :
    work.call b.noting id now (resources, calls) =
      ((work.call b id now resources).1, (work.call b id now resources).2,
        calls ++ work.position.calls b work.fragment resources) := by
  obtain ⟨desk, fragment, position⟩ := work
  cases position with
  | generating =>
      by_cases hblank : fragment.isBlank
      · simp [call, Position.calls, Generator.generate_eq, hblank]
      · simp only [call, Position.calls, Generator.generate_eq, hblank, Bool.false_eq_true,
          if_false, Backends.noting, MatchingDecomp.noting]
        obtain ⟨answer, after⟩ := b.generator.produce fragment resources
        cases answer with
        | error e => rfl
        | ok candidate => by_cases hsource : Text.isBlankText candidate.source <;> simp [hsource]
  | compiling candidate =>
      by_cases hbalanced : Source.isBalanced candidate.source
      · simp only [call, Position.calls, Compiler.compile, hbalanced, if_true, Backends.noting,
          MatchingDecomp.noting]
        obtain ⟨answer, after⟩ := b.compiler.compileChecked candidate.source resources
        cases answer <;> rfl
      · simp only [call, Position.calls, Compiler.compile, hbalanced, Bool.false_eq_true, if_false,
          List.append_nil]
        rfl
  | verifying candidate outcome =>
      cases hsuccess : outcome.success with
      | false => simp [call, Position.calls, Verifier.verify_eq, hsuccess]
      | true =>
          simp only [call, Position.calls, Verifier.verify_eq, hsuccess, if_true, Backends.noting,
            MatchingDecomp.noting]
          obtain ⟨answer, after⟩ :=
            b.verifier.compare fragment candidate.source outcome.artifact resources
          cases answer <;> rfl

namespace Session

/-! ## Taking notes changes nothing

`Session.plain` forgets the notes.  Every operation commutes with it, so a command has the same
answer and the same effect with notes as without. -/

/-- The session without its notes. -/
def plain (s : Session (σ × List Call)) : Session σ :=
  { s with resources := s.resources.1 }

theorem plain_transition (s : Session (σ × List Call)) (desk : Nat) (id : RunId)
    (next : RunState) : (s.transition desk id next).plain = s.plain.transition desk id next := by
  have hfind : s.plain.findAt? desk id = s.findAt? desk id := rfl
  simp only [transition, hfind]
  cases s.findAt? desk id <;> rfl

theorem plain_release (s : Session (σ × List Call)) (b : Backends σ) (position : Position) :
    (s.release b.noting position).plain = s.plain.release b position := by
  unfold release
  cases position.outcome? <;> rfl

theorem plain_finish (s : Session (σ × List Call)) (b : Backends σ) (id : RunId) (desk : Nat)
    (position : Position) (result : Except PipelineError Run) :
    (s.finish b.noting id desk position result).2.plain =
      (s.plain.finish b id desk position result).2 := by
  simp only [finish, ← plain_transition, ← plain_release]
  cases result <;> rfl

theorem settle_noting (s : Session (σ × List Call)) (b : Backends σ) (id : RunId) (work : Work)
    (returned : Returned) :
    (s.settle b.noting id work returned).1 = (s.plain.settle b id work returned).1 ∧
      (s.settle b.noting id work returned).2.plain = (s.plain.settle b id work returned).2 := by
  cases returned with
  | failed cause => exact ⟨rfl, plain_finish ..⟩
  | complete record => exact ⟨rfl, plain_finish ..⟩
  | onward position =>
      have hfind : s.plain.find? id = s.find? id := rfl
      rw [settle, settle, enter_eq, enter_eq, hfind]
      split
      · exact ⟨rfl, plain_finish ..⟩
      · refine ⟨rfl, ?_⟩
        simp only [entered, ← plain_transition]
        rfl

theorem obey_noting (s : Session (σ × List Call)) (b : Backends σ) (command : Command) :
    (s.obey b.noting command).1 = (s.plain.obey b command).1 ∧
      (s.obey b.noting command).2.plain = (s.plain.obey b command).2 := by
  cases command with
  | prepare desk now => exact ⟨rfl, rfl⟩
  | start desk id fragment =>
      simp only [obey]
      by_cases hidle : ∃ run, s.find? id = some run ∧ run.work = none
      · obtain ⟨run, hrun, hwork⟩ := hidle
        have hplain : s.plain.find? id = some run := hrun
        rw [start_of_idle hrun hwork, start_of_idle hplain hwork]
        obtain ⟨hreply, hafter⟩ :=
          settle_noting s b id ⟨desk, fragment, .generating⟩ (.onward .generating)
        exact ⟨congrArg Answer.moved hreply, hafter⟩
      · have hbusy : ∀ run, s.find? id = some run → run.work ≠ none :=
          fun run hrun hwork => hidle ⟨run, hrun, hwork⟩
        have hplain : ∀ run, s.plain.find? id = some run → run.work ≠ none := hbusy
        rw [start_of_not_idle hbusy, start_of_not_idle hplain]
        exact ⟨rfl, rfl⟩
  | advance id now =>
      have hfind : s.plain.find? id = s.find? id := rfl
      simp only [obey, advance_eq, hfind]
      cases (s.find? id).bind ActiveRun.work with
      | none => exact ⟨rfl, rfl⟩
      | some work =>
          -- the call is noted, and what follows from it does not read the notes
          have hcall := work.call_noting b id now s.resources.1 s.resources.2
          dsimp only
          rw [hcall]
          obtain ⟨hreply, hafter⟩ := settle_noting
            { s with resources := ((work.call b id now s.resources.1).2,
                s.resources.2 ++ work.position.calls b work.fragment s.resources.1) } b id work
            (work.call b id now s.resources.1).1
          exact ⟨congrArg Answer.moved hreply, hafter⟩
  | cancel desk id =>
      have hfind : s.plain.findAt? desk id = s.findAt? desk id := rfl
      simp only [obey, cancel, hfind]
      cases s.findAt? desk id <;> exact ⟨rfl, rfl⟩
  | drop id =>
      have hfind : s.plain.find? id = s.find? id := rfl
      refine ⟨rfl, ?_⟩
      simp only [obey, drop, hfind]
      cases (s.find? id).bind ActiveRun.work with
      | none => rfl
      | some work =>
          dsimp only
          rw [← plain_release]
          rfl
  | clearHistory => exact ⟨rfl, rfl⟩

/-! ## The calls of a command -/

theorem release_notes (b : Backends σ) (s : Session (σ × List Call)) (position : Position) :
    (s.release b.noting position).resources.2 = s.resources.2 := by
  unfold release
  split <;> rfl

/-- Nothing is called any more when the conclusion is drawn. -/
theorem settle_notes (b : Backends σ) (s : Session (σ × List Call)) (id : RunId) (work : Work)
    (returned : Returned) :
    (s.settle b.noting id work returned).2.resources.2 = s.resources.2 := by
  cases returned with
  | failed cause => rw [settle, finish_resources, release_notes]
  | complete record => rw [settle, finish_resources, release_notes]
  | onward position =>
      rw [settle, enter_eq]
      split
      · rw [finish_resources, release_notes]
      · rw [entered_resources]

theorem find?_noting (s : Session σ) (id : RunId) : s.noting.find? id = s.find? id := rfl

/-- A call that returns is one call of a backend, or none. -/
theorem callsOf_advance (s : Session σ) (b : Backends σ) (id : RunId) (now : Instant) :
    s.callsOf b (.advance id now) =
      match (s.find? id).bind ActiveRun.work with
      | none => []
      | some work => work.position.calls b work.fragment s.resources := by
  simp only [callsOf, obey, advance_eq, find?_noting]
  cases (s.find? id).bind ActiveRun.work with
  | none => rfl
  | some work =>
      rw [settle_notes]
      simp only [noting, work.call_noting, List.nil_append]

theorem callsOf_start (s : Session σ) (b : Backends σ) (desk : Nat) (id : RunId)
    (fragment : Fragment) : s.callsOf b (.start desk id fragment) = [] := by
  simp only [callsOf, obey]
  by_cases hidle : ∃ run, s.noting.find? id = some run ∧ run.work = none
  · obtain ⟨run, hrun, hwork⟩ := hidle
    rw [start_of_idle hrun hwork, settle_notes]
    rfl
  · rw [start_of_not_idle fun run hrun hwork => hidle ⟨run, hrun, hwork⟩]
    rfl

theorem callsOf_cancel (s : Session σ) (b : Backends σ) (desk : Nat) (id : RunId) :
    s.callsOf b (.cancel desk id) = [] := by
  simp only [callsOf, obey, cancel]
  split <;> rfl

theorem callsOf_drop (s : Session σ) (b : Backends σ) (id : RunId) :
    s.callsOf b (.drop id) = [] := by
  simp only [callsOf, obey, drop]
  split
  · exact release_notes ..
  · rfl

end Session

end MatchingDecomp
