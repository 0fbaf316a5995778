import MatchingDecomp.Proofs.Session.Calls

/-!
# Walking through the stages

`Walk.generate` carries a fragment through the stages in order.  It is a plain program that knows
nothing of sessions: at the entry of each stage it looks whether the run was asked to stop by then,
and after that it only looks at the answer of the call.  It serves as the measure for what a
session does (`Execution.lean`).

Next to the walk stand the backend calls that it makes.  They come in the order of the stages, each
at most once (`generateCalls_stages`), and each one is permitted by the contract of its stage
(`generateCalls_permitted`).
-/

namespace MatchingDecomp

variable {σ : Type}

/-! ## The walk -/

namespace Walk

variable (b : Backends σ) (id : RunId) (now : Instant) (fragment : Fragment)
  (cancelled : Stage → Bool)

/-- The walk from the entry of the last stage.  The outcome is given up in any case. -/
def verify (candidate : Candidate) (outcome : Outcome) (resources : σ) :
    Except PipelineError Run × σ :=
  if cancelled .verify then
    (.error ⟨.verify, .cancelled⟩, b.compiler.release outcome resources)
  else
    match b.verifier.verify fragment candidate.source outcome resources with
    | (.error e, resources) =>
      (.error ⟨.verify, .verification e⟩, b.compiler.release outcome resources)
    | (.ok verdict, resources) =>
      (.ok (.assemble id now fragment candidate outcome verdict),
        b.compiler.release outcome resources)

/-- The walk from the entry of the compile stage. -/
def compile (candidate : Candidate) (resources : σ) : Except PipelineError Run × σ :=
  if cancelled .compile then (.error ⟨.compile, .cancelled⟩, resources)
  else
    match b.compiler.compile candidate.source resources with
    | (.error e, resources) => (.error ⟨.compile, .compiler e⟩, resources)
    | (.ok outcome, resources) => verify b id now fragment cancelled candidate outcome resources

/-- The walk from the beginning: what the run comes to, and what it leaves behind. -/
def generate (resources : σ) : Except PipelineError Run × σ :=
  if cancelled .generate then (.error ⟨.generate, .cancelled⟩, resources)
  else
    match b.generator.generate fragment resources with
    | (.error e, resources) => (.error ⟨.generate, .generation e⟩, resources)
    | (.ok candidate, resources) => compile b id now fragment cancelled candidate resources

/-! The calls of the walk, from the entry of each stage. -/

def verifyCalls (candidate : Candidate) (outcome : Outcome) (resources : σ) : List Call :=
  if cancelled .verify then []
  else Position.calls b fragment (.verifying candidate outcome) resources

def compileCalls (candidate : Candidate) (resources : σ) : List Call :=
  if cancelled .compile then []
  else
    Position.calls b fragment (.compiling candidate) resources ++
      match b.compiler.compile candidate.source resources with
      | (.error _, _) => []
      | (.ok outcome, resources) => verifyCalls b fragment cancelled candidate outcome resources

def generateCalls (resources : σ) : List Call :=
  if cancelled .generate then []
  else
    Position.calls b fragment .generating resources ++
      match b.generator.generate fragment resources with
      | (.error _, _) => []
      | (.ok candidate, resources) => compileCalls b fragment cancelled candidate resources

/-! ## The order of the calls -/

/-- Each position makes at most the one call of its stage. -/
theorem positionCalls_stages (position : Position) (resources : σ) :
    ((position.calls b fragment resources).map Call.stage).Sublist [position.stage] := by
  -- the contract settles the answer, or there is the one call
  cases position <;> simp only [Position.calls] <;> split <;> simp [Call.stage, Position.stage]

theorem verifyCalls_stages (candidate : Candidate) (outcome : Outcome) (resources : σ) :
    ((verifyCalls b fragment cancelled candidate outcome resources).map Call.stage).Sublist
      [.verify] := by
  unfold verifyCalls
  split
  · simp
  · exact positionCalls_stages b fragment (.verifying candidate outcome) resources

theorem compileCalls_stages (candidate : Candidate) (resources : σ) :
    ((compileCalls b fragment cancelled candidate resources).map Call.stage).Sublist
      [.compile, .verify] := by
  unfold compileCalls
  split
  · simp
  · rw [List.map_append]
    refine (positionCalls_stages b fragment (.compiling candidate) resources).append ?_
    split
    · simp
    · exact verifyCalls_stages ..

/-- The calls come in the order of the stages, each at most once. -/
theorem generateCalls_stages (resources : σ) :
    ((generateCalls b fragment cancelled resources).map Call.stage).Sublist
      [.generate, .compile, .verify] := by
  unfold generateCalls
  split
  · simp
  · rw [List.map_append]
    refine (positionCalls_stages b fragment .generating resources).append ?_
    split
    · simp
    · exact compileCalls_stages ..

end Walk

/-! ## What the contracts permit -/

/-- A call that is permitted among others.  A candidate is produced only for a fragment that is not
blank.  Only the source that was produced is compiled, and only if it is balanced.  Only that source
is compared, with the object of an outcome that has success. -/
inductive Call.Permitted (fragment : Fragment) (calls : List Call) : Call → Prop where
  | produce (answer : Except GenerationError Candidate) (hblank : fragment.isBlank = false) :
      Permitted fragment calls (.produce fragment answer)
  | compileChecked {raw : Candidate} (answer : Except CompilerError Outcome)
      (hproduced : .produce fragment (.ok raw) ∈ calls)
      (hbalanced : Source.isBalanced raw.source = true) :
      Permitted fragment calls (.compileChecked raw.source answer)
  | compare {source : String} {outcome : Outcome} (answer : Except VerificationError Comparison)
      (hcompiled : .compileChecked source (.ok outcome) ∈ calls)
      (hsuccess : outcome.success = true) :
      Permitted fragment calls (.compare fragment source outcome.artifact answer)

namespace Walk

variable (b : Backends σ) (fragment : Fragment) (cancelled : Stage → Bool)

/-- A call that gave an outcome with success is noted with it. -/
theorem mem_calls_of_compile {candidate : Candidate} {resources after : σ} {outcome : Outcome}
    (hok : b.compiler.compile candidate.source resources = (.ok outcome, after))
    (hsuccess : outcome.success = true) :
    .compileChecked candidate.source (.ok outcome) ∈
      Position.calls b fragment (.compiling candidate) resources := by
  obtain ⟨hbalanced, hcompiled⟩ | ⟨-, rfl⟩ := Compiler.compile_ok hok
  · simp [Position.calls, hbalanced, hcompiled]
  · cases hsuccess

/-- A call that gave a candidate is noted with what was produced. -/
theorem mem_calls_of_generate {resources after : σ} {candidate : Candidate}
    (hok : b.generator.generate fragment resources = (.ok candidate, after)) :
    ∃ raw, .produce fragment (.ok raw) ∈ Position.calls b fragment .generating resources ∧
      candidate.source = raw.source := by
  obtain ⟨raw, hproduced, hblank, -, rfl⟩ := Generator.generate_ok hok
  exact ⟨raw, by simp [Position.calls, hblank, hproduced], rfl⟩

theorem verifyCalls_permitted {candidate : Candidate} {outcome : Outcome} (resources : σ)
    {calls : List Call}
    (hcompiled : outcome.success = true →
      .compileChecked candidate.source (.ok outcome) ∈ calls) :
    ∀ call ∈ verifyCalls b fragment cancelled candidate outcome resources,
      call.Permitted fragment calls := by
  intro call hcall
  unfold verifyCalls at hcall
  cases hsuccess : outcome.success with
  | false => simp [Position.calls, hsuccess] at hcall
  | true =>
      have hcall : call = .compare fragment candidate.source outcome.artifact
          (b.verifier.compare fragment candidate.source outcome.artifact resources).1 := by
        simp only [Position.calls, hsuccess, if_true] at hcall
        split at hcall
        · cases hcall
        · exact List.mem_singleton.mp hcall
      subst hcall
      exact .compare _ (hcompiled hsuccess) hsuccess

theorem compileCalls_permitted {raw candidate : Candidate} (resources : σ) {calls : List Call}
    (hproduced : .produce fragment (.ok raw) ∈ calls) (hsource : candidate.source = raw.source)
    (hcalls : compileCalls b fragment cancelled candidate resources ⊆ calls) :
    ∀ call ∈ compileCalls b fragment cancelled candidate resources,
      call.Permitted fragment calls := by
  intro call hcall
  unfold compileCalls at hcall hcalls
  split at hcall
  · cases hcall
  · rename_i hstopped
    rw [if_neg hstopped, List.append_subset] at hcalls
    obtain hcall | hcall := List.mem_append.mp hcall
    · simp only [Position.calls] at hcall
      split at hcall
      · rename_i hbalanced
        obtain rfl := List.mem_singleton.mp hcall
        rw [hsource] at hbalanced ⊢
        exact .compileChecked _ hproduced hbalanced
      · cases hcall
    · split at hcall
      · cases hcall
      · rename_i outcome after hok
        refine verifyCalls_permitted b fragment cancelled after ?_ call hcall
        intro hsuccess
        exact hcalls.1 (mem_calls_of_compile b fragment hok hsuccess)

/-- Every call of the walk is permitted among the calls of the walk. -/
theorem generateCalls_permitted (resources : σ) :
    ∀ call ∈ generateCalls b fragment cancelled resources,
      call.Permitted fragment (generateCalls b fragment cancelled resources) := by
  intro call hcall
  unfold generateCalls at hcall ⊢
  split at hcall
  · cases hcall
  · rename_i hstopped
    rw [if_neg hstopped]
    obtain hcall | hcall := List.mem_append.mp hcall
    · simp only [Position.calls] at hcall
      split at hcall
      · cases hcall
      · rename_i hblank
        obtain rfl := List.mem_singleton.mp hcall
        exact .produce _ (Bool.eq_false_iff.mpr hblank)
    · generalize hok : b.generator.generate fragment resources = answer at hcall ⊢
      obtain ⟨answer, after⟩ := answer
      cases answer with
      | error e => cases hcall
      | ok candidate =>
          -- what was produced is among the calls, and so are those of the stages after it
          obtain ⟨raw, hproduced, hsource⟩ := mem_calls_of_generate b fragment hok
          refine compileCalls_permitted b fragment cancelled after
            (List.mem_append_left _ hproduced) hsource ?_ call hcall
          exact List.subset_append_right ..

end Walk

end MatchingDecomp
