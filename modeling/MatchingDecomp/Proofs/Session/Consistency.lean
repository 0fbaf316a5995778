import MatchingDecomp.Proofs.Session.Minutes

/-!
# Records are consistent

A record brings together what four parties said: the generator, the bracket gate, the compiler and
the verifier.  They may contradict each other, and the record may not: its status, its percentage
and its discrepancies always tell the same story (`Run.Consistent`).

The argument has two parts.

* Verdicts: whatever a verifier measures, the verdict on it is a match exactly above the threshold,
  and has discrepancies exactly if it is no match.
* Provenance: where a run stands is justified by the calls that were made for it since it was
  started (`Position.Justified`).  Each call that returns keeps that up (`Work.call_justified`), so
  does every other command, and when the run is complete the calls are exactly those that the
  record speaks of.
-/

namespace MatchingDecomp

open Minutes

variable {σ : Type}

/-! ## Verdicts -/

namespace Verdict

theorem scoreOf_eq (c : Comparison) :
    scoreOf c =
      if c.discrepancies ≠ [] ∧ matchThreshold ≤ min c.score 100 then matchThreshold - 1
      else min c.score 100 := by
  simp [scoreOf]

theorem scoreOf_le (c : Comparison) : scoreOf c ≤ 100 := by
  rw [scoreOf_eq]
  split
  · decide
  · exact Nat.min_le_right ..

/-- Discrepancies keep the score below the threshold. -/
theorem scoreOf_lt_of_discrepancies {c : Comparison} (hdiffers : c.discrepancies ≠ []) :
    scoreOf c < matchThreshold := by
  rw [scoreOf_eq]
  split
  · decide
  · rename_i hbelow
    exact Nat.lt_of_not_le fun hle => hbelow ⟨hdiffers, hle⟩

theorem ofComparison_success_iff (c : Comparison) :
    (ofComparison c).success = true ↔ matchThreshold < (ofComparison c).matchPercentage := by
  simp [ofComparison, isMatch]

/-- A verdict has discrepancies exactly if it is no match. -/
theorem ofComparison_discrepancies_iff (c : Comparison) :
    (ofComparison c).discrepancies = [] ↔ (ofComparison c).success = true := by
  by_cases hdiffers : c.discrepancies = []
  · simp only [ofComparison, hdiffers]
    cases isMatch (scoreOf c) <;> simp
  · have hbelow := scoreOf_lt_of_discrepancies hdiffers
    have hempty : c.discrepancies.isEmpty = false := by simpa using hdiffers
    have hmiss : isMatch (scoreOf c) = false := by
      simp only [isMatch, decide_eq_false_iff_not]
      omega
    simp [ofComparison, hempty, hmiss, hdiffers]

end Verdict

/-! ## What a status says -/

namespace RunStatus

variable (outcome : Outcome) (verdict : Verdict)

theorem derive_eq_error_iff : derive outcome verdict = .error ↔ outcome.success = false := by
  cases hcompiled : outcome.success <;> cases hmatches : verdict.success <;>
    simp [derive, hcompiled, hmatches]

theorem derive_eq_warning_iff :
    derive outcome verdict = .warning ↔ outcome.success = true ∧ verdict.success = false := by
  cases hcompiled : outcome.success <;> cases hmatches : verdict.success <;>
    simp [derive, hcompiled, hmatches]

theorem derive_eq_success_iff :
    derive outcome verdict = .success ↔ outcome.success = true ∧ verdict.success = true := by
  cases hcompiled : outcome.success <;> cases hmatches : verdict.success <;>
    simp [derive, hcompiled, hmatches]

end RunStatus

/-! ## Consistent records -/

/-- A record tells one story about an outcome: with its status, a percentage and discrepancies. -/
structure Run.Consistent (run : Run) (outcome : Outcome) (percentage : Nat)
    (discrepancies : List String) : Prop where
  percentage_eq : run.matchPercentage = some percentage
  discrepancies_eq : run.discrepancies = some discrepancies
  percentage_le : percentage ≤ 100
  gated : Source.isBalanced run.candidateSource = false → outcome = .invalidStructure
  source_not_blank : ∃ c ∈ run.candidateSource.toList, Text.isBlank c = false
  unbalanced : Source.isBalanced run.candidateSource = false →
    run.compileErrors = ["invalid structure"] ∧ run.status = .error
  error_iff : run.status = .error ↔ outcome.success = false
  error : run.status = .error → percentage = 0 ∧ discrepancies = ["compilation failed"]
  success_iff : run.status = .success ↔ outcome.success = true ∧ 90 < percentage
  success : run.status = .success → discrepancies = []
  warning : run.status = .warning → percentage ≤ 90
  discrepant : run.status ≠ .success → discrepancies ≠ []

/-- What the verdict on an outcome can be, whatever the verifier measures. -/
inductive Verdict.Fits (outcome : Outcome) : Verdict → Prop where
  | compared (comparison : Comparison) (hsuccess : outcome.success = true) :
      Fits outcome (.ofComparison comparison)
  | failed (hfailed : outcome.success = false) : Fits outcome .compilationFailed

/-- A candidate that is not blank, an outcome that heeds the bracket gate and a verdict that fits
the outcome make a consistent record. -/
theorem Run.assemble_consistent (id : RunId) (now : Instant) (fragment : Fragment)
    {candidate : Candidate} {outcome : Outcome} {verdict : Verdict}
    (hblank : Text.isBlankText candidate.source = false)
    (hgate : Source.isBalanced candidate.source = false → outcome = .invalidStructure)
    (hfits : verdict.Fits outcome) :
    (assemble id now fragment candidate outcome verdict).Consistent outcome
      verdict.matchPercentage verdict.discrepancies := by
  have hsource : ∃ c ∈ candidate.source.toList, Text.isBlank c = false := by
    simpa [Text.isBlankText, Text.allBlank] using hblank
  have hunbalanced : Source.isBalanced candidate.source = false →
      outcome.errors = ["invalid structure"] ∧ RunStatus.derive outcome verdict = .error := by
    intro hbalanced
    obtain rfl := hgate hbalanced
    exact ⟨rfl, rfl⟩
  have herror := RunStatus.derive_eq_error_iff outcome verdict
  have hwarning := RunStatus.derive_eq_warning_iff outcome verdict
  have hmatching := RunStatus.derive_eq_success_iff outcome verdict
  cases hfits with
  | compared comparison hsuccess =>
      -- the percentage and the discrepancies both say whether it is a match
      have hscore := Verdict.ofComparison_success_iff comparison
      have hdiffers := Verdict.ofComparison_discrepancies_iff comparison
      have hbelow : (Verdict.ofComparison comparison).success = false →
          (Verdict.ofComparison comparison).matchPercentage ≤ matchThreshold := by
        intro hmiss
        rw [← Nat.not_lt, ← hscore, hmiss]
        exact Bool.false_ne_true
      rw [hscore] at hmatching
      exact {
        percentage_eq := rfl
        discrepancies_eq := rfl
        percentage_le := Verdict.scoreOf_le comparison
        gated := hgate
        source_not_blank := hsource
        unbalanced := hunbalanced
        error_iff := herror
        error := fun hstatus => absurd (herror.mp hstatus) (by simp [hsuccess])
        success_iff := hmatching
        success := fun hstatus => hdiffers.mpr (hscore.mpr (hmatching.mp hstatus).2)
        warning := fun hstatus => hbelow (hwarning.mp hstatus).2
        discrepant := fun hstatus hnone =>
          hstatus (hmatching.mpr ⟨hsuccess, hscore.mp (hdiffers.mp hnone)⟩) }
  | failed hfailed =>
      -- there is nothing to reconcile, the verdict is fixed
      exact {
        percentage_eq := rfl
        discrepancies_eq := rfl
        percentage_le := by decide
        gated := hgate
        source_not_blank := hsource
        unbalanced := hunbalanced
        error_iff := herror
        error := fun _ => ⟨rfl, rfl⟩
        success_iff := by simp [hmatching, assemble, hfailed]
        success := fun hstatus => absurd (hmatching.mp hstatus).1 (by simp [hfailed])
        warning := fun _ => by decide
        discrepant := fun _ => by decide }

/-! ## Where a run stands, and why -/

/-- The calls that lead from the start of a run to an outcome. -/
def Call.uptoOutcome (fragment : Fragment) (raw : Candidate) (outcome : Outcome) : List Call :=
  .produce fragment (.ok raw) ::
    if Source.isBalanced raw.source then [.compileChecked raw.source (.ok outcome)] else []

/-- The position of a run is justified by the calls that were made since its start. -/
inductive Position.Justified (fragment : Fragment) : Position → List Call → Prop where
  | generating : Justified fragment .generating []
  | compiling {raw : Candidate} (hblank : Text.isBlankText raw.source = false) :
      Justified fragment (.compiling raw.clamped) [.produce fragment (.ok raw)]
  | verifying {raw : Candidate} {outcome : Outcome}
      (hblank : Text.isBlankText raw.source = false)
      (hgate : Source.isBalanced raw.source = false → outcome = .invalidStructure) :
      Justified fragment (.verifying raw.clamped outcome)
        (Call.uptoOutcome fragment raw outcome)

/-- The record of a run is consistent, and it speaks of the calls that were made since the start of
the run: one source was produced, compiled and compared, and it is the one in the record. -/
def Run.Traced (run : Run) (calls : List Call) : Prop :=
  ∃ fragment raw outcome percentage discrepancies,
    run.Consistent outcome percentage discrepancies ∧ raw.source = run.candidateSource ∧
      if outcome.success then
        ∃ answer, calls = Call.uptoOutcome fragment raw outcome ++
          [.compare fragment raw.source outcome.artifact (.ok answer)]
      else calls = Call.uptoOutcome fragment raw outcome

namespace Work

variable {b : Backends σ} {id : RunId} {now : Instant} {work : Work} {resources : σ}
  {calls : List Call}

/-- A call that brings a run to its next stage justifies the position there. -/
theorem call_justified {position : Position}
    (hjustified : work.position.Justified work.fragment calls)
    (honward : (work.call b id now resources).1 = .onward position) :
    position.Justified work.fragment
      (calls ++ work.position.calls b work.fragment resources) := by
  obtain ⟨candidate, after, hposition, rfl, hanswer⟩ |
    ⟨candidate, outcome, after, hposition, rfl, hanswer⟩ := call_onward honward
  · rw [hposition] at hjustified ⊢
    cases hjustified
    obtain ⟨raw, hproduced, hfragment, hblank, rfl⟩ := Generator.generate_ok hanswer
    simp only [Position.calls, hfragment, hproduced, Bool.false_eq_true, if_false,
      List.nil_append]
    exact .compiling hblank
  · rw [hposition] at hjustified ⊢
    cases hjustified with
    | @compiling raw hblank =>
        have hsource : raw.clamped.source = raw.source := rfl
        rw [hsource] at hanswer
        obtain ⟨hbalanced, hcompiled⟩ | ⟨hbalanced, rfl⟩ := Compiler.compile_ok hanswer
        · have hverifying : Position.Justified work.fragment (.verifying raw.clamped outcome)
              (Call.uptoOutcome work.fragment raw outcome) :=
            .verifying hblank (by simp [hbalanced])
          simpa [Call.uptoOutcome, Position.calls, hsource, hbalanced, hcompiled] using hverifying
        · have hverifying : Position.Justified work.fragment
              (.verifying raw.clamped .invalidStructure)
              (Call.uptoOutcome work.fragment raw .invalidStructure) :=
            .verifying hblank fun _ => rfl
          simpa [Call.uptoOutcome, Position.calls, hsource, hbalanced] using hverifying

/-- A run that is complete has a record that is traced. -/
theorem call_traced {record : Run} (hjustified : work.position.Justified work.fragment calls)
    (hcomplete : (work.call b id now resources).1 = .complete record) :
    record.Traced (calls ++ work.position.calls b work.fragment resources) := by
  obtain ⟨candidate, outcome, verdict, after, hposition, rfl, hanswer⟩ := call_complete hcomplete
  rw [hposition] at hjustified ⊢
  cases hjustified with
  | @verifying raw _ hblank hgate =>
      have hsource : raw.clamped.source = raw.source := rfl
      rw [hsource] at hanswer
      obtain ⟨hsuccess, comparison, hcompared, rfl⟩ | ⟨hfailed, rfl⟩ := Verifier.verify_ok hanswer
      · refine ⟨work.fragment, raw, outcome, _, _, Run.assemble_consistent id now work.fragment
          hblank hgate (.compared comparison hsuccess), rfl, ?_⟩
        rw [if_pos hsuccess]
        refine ⟨comparison, ?_⟩
        simp only [Position.calls, hsuccess, if_true, hsource, hcompared]
      · refine ⟨work.fragment, raw, outcome, _, _, Run.assemble_consistent id now work.fragment
          hblank hgate (.failed hfailed), rfl, ?_⟩
        simp [Position.calls, hfailed]

end Work

/-! ## All commands -/

/-- The calls for a run after an entry, from those before it.  They begin anew when it is started.
-/
def Entry.prolong (id : RunId) (calls : List Call) (entry : Entry) : List Call :=
  if entry.command.moved? = some id then
    match entry.command, entry.answer with
    | .start .., .moved .working => []
    | _, _ => calls ++ entry.calls
  else calls

theorem Entry.prolong_start (id : RunId) (calls made : List Call) (desk : Nat)
    (fragment : Fragment) :
    Entry.prolong id calls ⟨.start desk id fragment, .moved .working, made⟩ = [] := by
  simp [prolong, Command.moved?]

theorem Entry.prolong_advance (id : RunId) (calls made : List Call) (now : Instant)
    (answer : Answer) :
    Entry.prolong id calls ⟨.advance id now, answer, made⟩ = calls ++ made := by
  simp [prolong, Command.moved?]

theorem Entry.prolong_refused (id : RunId) (calls : List Call) (command : Command) :
    Entry.prolong id calls ⟨command, .moved .refused, []⟩ = calls := by
  simp [prolong]

theorem Entry.prolong_of_ne {id : RunId} {entry : Entry}
    (hother : entry.command.moved? ≠ some id) (calls : List Call) :
    entry.prolong id calls = calls :=
  if_neg hother

namespace Minutes

/-- The calls that were made in moving a run since it was started last. -/
def lastCalls (id : RunId) (minutes : List Entry) : List Call :=
  minutes.foldl (Entry.prolong id) []

theorem lastCalls_concat (id : RunId) (minutes : List Entry) (entry : Entry) :
    lastCalls id (minutes ++ [entry]) = entry.prolong id (lastCalls id minutes) :=
  List.foldl_append

end Minutes

/-- Every run that is waiting for a call stands where it does for a reason. -/
def Session.Justified (calls : RunId → List Call) (s : Session σ) : Prop :=
  ∀ id run work, s.find? id = some run → run.work = some work →
    work.position.Justified work.fragment (calls id)

/-- A run that enters a stage has a reason to: it was just started, or its call has returned. -/
theorem Moving.justified {b : Backends σ} {s : Session σ} {run : ActiveRun} {command : Command}
    {made calls : List Call} {work : Work} {returned : Returned} {resources : σ}
    {position : Position} (hmoving : Moving b s run command made work returned resources)
    (hjustified : ∀ work, run.work = some work → work.position.Justified work.fragment calls)
    (honward : returned = .onward position) :
    position.Justified work.fragment
      (Entry.prolong run.id calls ⟨command, .moved .working, made⟩) := by
  cases hmoving with
  | start desk fragment hidle =>
      cases honward
      rw [Entry.prolong_start]
      exact .generating
  | advance now hwork =>
      rw [Entry.prolong_advance]
      exact Work.call_justified (hjustified work hwork) honward

/-- A run that is complete has a record that is traced. -/
theorem Moving.traced {b : Backends σ} {s : Session σ} {run : ActiveRun} {command : Command}
    {made calls : List Call} {work : Work} {returned : Returned} {resources : σ} {record : Run}
    (hmoving : Moving b s run command made work returned resources)
    (hjustified : ∀ work, run.work = some work → work.position.Justified work.fragment calls)
    (hcomplete : returned = .complete record) (answer : Answer) :
    record.Traced (Entry.prolong run.id calls ⟨command, answer, made⟩) := by
  cases hmoving with
  | start desk fragment hidle => cases hcomplete
  | advance now hwork =>
      rw [Entry.prolong_advance]
      exact Work.call_traced (hjustified work hwork) hcomplete

namespace Effect

variable {b : Backends σ} {s after : Session σ} {entry : Entry}

/-- One command keeps the reasons. -/
theorem justified (heffect : Effect b s entry after) {calls : RunId → List Call}
    (hjustified : s.Justified calls) :
    after.Justified fun id => entry.prolong id (calls id) := by
  intro id next work hnext hwork
  -- a run that is not moved has its old reasons, and the calls for it are the same
  by_cases hmoved : entry.command.moved? = some id
  · cases heffect with
    | refused =>
        have hkept := hjustified id next work hnext hwork
        rwa [← Entry.prolong_refused id (calls id)] at hkept
    | @entered run command made past position resources hrun hmoving hcancelled =>
        obtain rfl := hmoving.id_eq hmoved
        have hfound : ({ s with resources } : Session σ).find? run.id = some run := hrun
        obtain ⟨state, hentered⟩ := Session.exists_find?_entered hfound { past with position }
        obtain rfl := Option.some.inj (hentered.symm.trans hnext)
        obtain rfl := Option.some.inj hwork
        exact hmoving.justified (fun work hwork => hjustified run.id run work hrun hwork) rfl
    | ended hrun hmoving hending =>
        rw [Session.find?_finish, if_pos (hmoving.id_eq hmoved).symm] at hnext
        cases hnext
    | _ => cases hmoved
  · have hcalls : entry.prolong id (calls id) = calls id := Entry.prolong_of_ne hmoved _
    simp only [hcalls]
    obtain ⟨run, cancelled, hrun, rfl⟩ | ⟨-, -, home, now, -, rfl⟩ :=
      heffect.find?_of_not_moved hmoved hnext
    · exact hjustified id run work hrun hwork
    · cases hwork

/-- A result that is a record is traced. -/
theorem traced (heffect : Effect b s entry after) {calls : RunId → List Call}
    (hjustified : s.Justified calls) {id : RunId} {record : Run}
    (hresult : entry.resultOf? id = some (.ok record)) :
    record.Traced (entry.prolong id (calls id)) := by
  obtain ⟨hmoved, hanswer⟩ := Entry.resultOf?_eq_some_iff.mp hresult
  cases heffect with
  | @ended run command made work returned resources position result hrun hmoving hending =>
      obtain rfl := hmoving.id_eq hmoved
      obtain rfl := Option.some.inj hanswer
      cases hending with
      | completed =>
          exact hmoving.traced (fun work hwork => hjustified run.id run work hrun hwork) rfl _
  | _ => cases hanswer

end Effect

namespace Session

/-- The reasons are found in the minutes. -/
theorem justified_lastCalls (b : Backends σ) (resources : σ) (limit : Nat) (sequence : UInt64)
    (commands : List Command) :
    ((opened resources limit sequence).play b commands).2.Justified fun id =>
      lastCalls id ((opened resources limit sequence).play b commands).1 := by
  refine play_induction (P := fun minutes s => s.Justified fun id => lastCalls id minutes) ?_ ?_
    commands
  · intro id run work hrun
    cases hrun
  · intro minutes s command hjustified
    simp only [lastCalls_concat]
    exact (obey_effect b s command).justified hjustified

/-- **Every record is consistent.**  Whatever the backends answer, after any commands: when a run
comes to a verdict, its record tells one story, and the calls that were made since the run was
started are exactly those of which the record speaks. -/
theorem record_consistent (b : Backends σ) (resources : σ) (limit : Nat) (sequence : UInt64)
    (commands : List Command) (command : Command) (id : RunId) (record : Run)
    (hresult :
      (((opened resources limit sequence).play b commands).2.entry b command).resultOf? id =
        some (.ok record)) :
    record.Traced
      (lastCalls id ((opened resources limit sequence).play b (commands ++ [command])).1) := by
  rw [play_concat, lastCalls_concat]
  have hjustified := justified_lastCalls b resources limit sequence commands
  exact (obey_effect b _ command).traced hjustified hresult

/-- A verifier that reports a perfect score and a discrepancy at once does not get both into the
record. -/
theorem record_of_contradiction :
    let b := Backends.answering (.ok ⟨"f()", ⟨0⟩⟩) (.ok { success := true })
      (.ok { score := 250, discrepancies := ["register"] })
    let id := RunId.next ⟨0, 0⟩ 0
    let commands := [.prepare 0 ⟨0, 0⟩, .start 0 id (.ofText "jr $ra"), .advance id ⟨1, 0⟩,
      .advance id ⟨2, 0⟩]
    let record := Run.assemble id ⟨3, 0⟩ (.ofText "jr $ra") ⟨"f()", ⟨0⟩⟩ { success := true }
      ⟨false, 89, ["register"], none⟩
    (((opened () 1 0).play b commands).2.entry b (.advance id ⟨3, 0⟩)).resultOf? id =
        some (.ok record) ∧
      record.Traced
        (lastCalls id ((opened () 1 0).play b (commands ++ [.advance id ⟨3, 0⟩])).1) := by
  intro b id commands record
  have hresult : (((opened () 1 0).play b commands).2.entry b (.advance id ⟨3, 0⟩)).resultOf? id =
      some (.ok record) := by
    rfl
  exact ⟨hresult, record_consistent b () 1 0 commands (.advance id ⟨3, 0⟩) id record hresult⟩

end Session

end MatchingDecomp
