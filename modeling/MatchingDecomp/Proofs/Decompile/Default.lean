import MatchingDecomp.Proofs.Decompile.Basic
import MatchingDecomp.Proofs.Generation.Skeleton

/-!
# What the default configuration makes of a fragment

By default every stage is carried out by a stand-in: the skeleton generator, the compiler that runs
nothing, and the heuristic verifier.  Nothing outside is touched, and what comes of a fragment can
be written down in full (`skeletonRun`).  It is always a warning: a skeleton compiles, and it never
matches.
-/

namespace MatchingDecomp

open Text

/-- The record of a fragment that has text and a name for a function, under the default
configuration. -/
def skeletonRun (fragment : Fragment) (now : Instant) : Run where
  id := RunId.next now 0
  fragmentIdentifier := fragment.identifier
  sourceFragmentRef := fragment.origin
  candidateSource := Template.render fragment
  confidence := Template.confidence
  status := .warning
  matchPercentage := some (if fragment.identifier = Fragment.placeholder then 60 else 85)
  createdAt := now
  discrepancies :=
    some [Category.stackFrame, Category.registerAllocation, Category.instructionOrdering]
  compileErrors := []
  compileWarnings :=
    if "main".toList.isPrefixOf fragment.identifier.toList then []
    else ["No main function found"]
  detailedDiff := some (Heuristic.sampleDiff fragment.identifier)

theorem Template.clampUnit_confidence : Template.confidence.clampUnit = Template.confidence := by
  decide

theorem Config.backends_default (tempDirectory : String) :
    ({} : Config).backends tempDirectory =
      .ok {
        generator := Template.generator Workbench
        compiler := StandIn.compiler Workbench tempDirectory
        verifier := Heuristic.verifier Workbench {} } := by
  rfl

namespace Walk

/-- The walk with the stand-ins. -/
theorem generate_standIns {σ : Type} (tempDirectory : String) (now : Instant)
    (fragment : Fragment) (resources : σ) :
    generate
        { generator := Template.generator σ
          compiler := StandIn.compiler σ tempDirectory
          verifier := Heuristic.verifier σ {} }
        (RunId.next now 0) now fragment (fun _ => false) resources =
      (if fragment.isBlank then .error ⟨.generate, .generation .emptyFragment⟩
        else if isIdentifier fragment.identifier.toList then .ok (skeletonRun fragment now)
        else .error ⟨.generate, .generation (Template.invalidName fragment.identifier)⟩,
        resources) := by
  rw [generate, if_neg Bool.false_ne_true, Template.generate_eq]
  cases hblank : fragment.isBlank with
  | true => rfl
  | false =>
      cases hname : isIdentifier fragment.identifier.toList with
      | false => rfl
      | true =>
          have hclamped : Candidate.clamped ⟨Template.render fragment, Template.confidence⟩ =
              ⟨Template.render fragment, Template.confidence⟩ := by
            rw [Candidate.clamped, Template.clampUnit_confidence]
          simp only [Bool.false_eq_true, if_false, if_true, hclamped, compile,
            Template.compile_render hname, verify]
          rw [Template.verify_render fragment rfl]
          simp only [Run.assemble, skeletonRun, Fragment.isNamed, bne_iff_ne, ite_not]
          rfl

end Walk

/-- **The default configuration.**  A blank fragment and a fragment whose name is no identifier fail
in the first stage; every other fragment comes to the same kind of record, a warning.  Nothing on
the machine changes.  In particular every skeleton with a name for a function is balanced and
compiles. -/
theorem decompile_default (fragment : Fragment) (m : Machine) :
    decompile {} fragment none m =
        (if fragment.isBlank then
            .error (.pipeline ⟨.generate, .generation .emptyFragment⟩)
          else if isIdentifier fragment.identifier.toList then
            .ok (skeletonRun fragment m.clock)
          else
            .error (.pipeline
              ⟨.generate, .generation (Template.invalidName fragment.identifier)⟩), m) ∧
      (isIdentifier fragment.identifier.toList = true →
        Source.isBalanced (Template.render fragment) = true ∧
          ∃ outcome, outcome.success = true ∧
            (StandIn.compiler Unit m.tempDirectory).compile (Template.render fragment) () =
              (.ok outcome, ())) := by
  refine ⟨?_, fun hname => ⟨Template.isBalanced_render hname, _, ?_,
    Template.compile_render hname m.tempDirectory ()⟩⟩
  · rw [decompile_eq_walk (Config.backends_default m.tempDirectory), Walk.generate_standIns]
    cases fragment.isBlank <;> cases isIdentifier fragment.identifier.toList <;> rfl
  · rfl

/-- A name that only begins with `main` is enough for the compiler not to miss the main function. -/
theorem decompile_default_of_mainframe :
    let fragment : Fragment := { text := "jr $ra", identifier := "mainframe" }
    isIdentifier fragment.identifier.toList = true ∧
      decompile {} fragment none {} = (.ok (skeletonRun fragment ⟨0, 0⟩), {}) ∧
      (skeletonRun fragment ⟨0, 0⟩).compileWarnings = [] ∧
      (skeletonRun fragment ⟨0, 0⟩).matchPercentage = some 85 ∧
      Source.isBalanced (Template.render fragment) = true := by
  intro fragment
  have hname : isIdentifier fragment.identifier.toList = true := by decide
  have hblank : fragment.isBlank = false := by decide
  obtain ⟨hrun, hbalanced⟩ := decompile_default fragment {}
  rw [hblank, hname] at hrun
  exact ⟨hname, hrun, by decide, by decide, (hbalanced hname).1⟩

end MatchingDecomp
