import MatchingDecomp.Proofs.Session.Consistency
import MatchingDecomp.Verification.ObjectDiff

/-!
# When compared objects match

The object verifier reaches its verdict in several steps: the outcome of the compilation, the
digests, the run of the tool, the percentage in its report, the categories that the report mentions,
and at last the rules that all verdicts obey.  Here the steps are put together into one condition
(`ObjectDiff.Agrees`) that says when the verdict is a match.

Nothing is assumed about the surroundings.  A `Host` answers requests for files and attempts to run
programs in any way it likes, and a machine is one of them (`ObjectDiff.verifierOn_host`).  Whether
the tool is attempted at all cannot be seen from a machine, because it keeps no record of programs
that it refuses to start; so the attempts are noted from outside (`Host.noting`).

All results come from `ObjectDiff.verify_course`, which lists the ways that verifying can go.
-/

namespace MatchingDecomp

open Text

variable {σ : Type}

/-! ## Hosts -/

/-- What comparing objects asks of its surroundings: to read a file, and to run a program. -/
structure Host (σ : Type) where
  read : String → σ → Except OsError Bytes
  run : String → List String → StateM σ ToolRun

/-- Machines as a host. -/
def Machine.host : Host Machine where
  read := fun path m => m.files.read (m.absolute path)
  run := fun command arguments m => m.run command arguments

/-- An attempt to run a program: its command and its arguments. -/
abbrev Attempt := String × List String

/-- The same host, with each attempt to run a program noted, whatever comes of it. -/
def Host.noting (h : Host σ) : Host (σ × List Attempt) where
  read := fun path r => h.read path r.1
  run := fun command arguments r =>
    let (answer, resources) := h.run command arguments r.1
    (answer, resources, r.2 ++ [(command, arguments)])

/-! ## Verdicts -/

/-- The verdict on an outcome with success is drawn from the comparison. -/
theorem Verifier.verify_of_success (v : Verifier σ) (fragment : Fragment) (source : String)
    {outcome : Outcome} (hsuccess : outcome.success = true) (resources : σ) :
    v.verify fragment source outcome resources =
      ((v.compare fragment source outcome.artifact resources).1.map .ofComparison,
        (v.compare fragment source outcome.artifact resources).2) := by
  rw [verify_eq, if_pos hsuccess]
  obtain ⟨answer, after⟩ := v.compare fragment source outcome.artifact resources
  cases answer <;> rfl

theorem Verifier.verify_fits {v : Verifier σ} {fragment : Fragment} {source : String}
    {outcome : Outcome} {resources after : σ} {verdict : Verdict}
    (hok : v.verify fragment source outcome resources = (.ok verdict, after)) :
    Verdict.Fits outcome verdict := by
  rcases verify_ok hok with ⟨hsuccess, comparison, -, rfl⟩ | ⟨hfailed, rfl⟩
  · exact .compared comparison hsuccess
  · exact .failed hfailed

/-- A verdict without discrepancies has the score of the comparison. -/
theorem Verdict.ofComparison_clean_iff {least : Nat} (hmatch : matchThreshold < least)
    (hle : least ≤ 100) (c : Comparison) :
    (ofComparison c).discrepancies = [] ∧ least ≤ (ofComparison c).matchPercentage ↔
      c.discrepancies = [] ∧ least ≤ c.score := by
  rw [ofComparison_discrepancies_iff, ofComparison_success_iff]
  show matchThreshold < scoreOf c ∧ least ≤ scoreOf c ↔ _
  by_cases hclean : c.discrepancies = []
  · have hscore : scoreOf c = min c.score 100 := by simp [scoreOf_eq, hclean]
    rw [hscore]
    simp only [hclean, true_and]
    omega
  · have hbelow := scoreOf_lt_of_discrepancies hclean
    simp only [hclean, false_and, iff_false]
    omega

namespace Verdict.Fits

variable {outcome : Outcome} {verdict : Verdict}

theorem success_iff (hfits : Fits outcome verdict) :
    verdict.success = true ↔
      verdict.discrepancies = [] ∧ matchThreshold + 1 ≤ verdict.matchPercentage := by
  cases hfits with
  | compared comparison =>
      rw [ofComparison_discrepancies_iff, ofComparison_success_iff]
      exact (and_self_iff).symm
  | failed => simp [compilationFailed]

theorem isExact_iff (hfits : Fits outcome verdict) :
    verdict.isExact = true ↔ verdict.discrepancies = [] ∧ 100 ≤ verdict.matchPercentage := by
  have hle : verdict.matchPercentage ≤ 100 := by
    cases hfits with
    | compared comparison => exact scoreOf_le comparison
    | failed => exact Nat.zero_le 100
  have hfull : verdict.matchPercentage = 100 ↔ 100 ≤ verdict.matchPercentage := by omega
  rw [isExact, Bool.and_eq_true, beq_iff_eq, List.isEmpty_iff, hfull, and_comm]

end Verdict.Fits

/-! ## Reports that vouch for a match -/

namespace DiffReport

/-- A report vouches for a match: it mentions no discrepancy, and it gives a percentage that is high
enough or else calls the objects identical. -/
def Vouches (least : Nat) (report : String) : Prop :=
  classify report = [] ∧
    ((∃ p, Percentage.parse? report = some p ∧ least ≤ p) ∨
      Percentage.parse? report = none ∧ saysIdentical report = true)

end DiffReport

namespace ObjectDiff

open DiffReport

theorem vouches_iff {least : Nat} (hpos : 0 < least) (hle : least ≤ 100) (report : String) :
    Vouches least report ↔ classify report = [] ∧ least ≤ score report := by
  refine and_congr_right fun _ => ?_
  rw [score]
  cases Percentage.parse? report with
  | some p => simp
  | none =>
      cases saysIdentical report with
      | true => simp [hle]
      | false => simp [Nat.pos_iff_ne_zero.mp hpos]

theorem comparison_discrepancies_iff (report : String) :
    (comparison report).discrepancies = [] ↔
      classify report = [] ∧ matchThreshold < score report := by
  unfold comparison
  by_cases hclean : classify report = []
  · by_cases hlow : score report ≤ matchThreshold
    · simp [hclean, hlow, Nat.not_lt.mpr hlow]
    · simp [hclean, hlow, Nat.not_le.mp hlow]
  · simp [hclean]

theorem ofComparison_comparison_iff {least : Nat} (hmatch : matchThreshold < least)
    (hle : least ≤ 100) (report : String) :
    (Verdict.ofComparison (comparison report)).discrepancies = [] ∧
        least ≤ (Verdict.ofComparison (comparison report)).matchPercentage ↔
      Vouches least report := by
  rw [Verdict.ofComparison_clean_iff hmatch hle, comparison_discrepancies_iff,
    vouches_iff (Nat.zero_lt_of_lt hmatch) hle]
  show (_ ∧ _) ∧ least ≤ score report ↔ _
  rw [and_assoc, and_iff_right_of_imp (Nat.lt_of_lt_of_le hmatch)]

/-! ## The verifier on any host -/

/-- Why there is no comparison when the reference cannot be read. -/
def unreadable (fragment : Fragment) : OsError → VerificationError
  | .notFound => .missingReference fragment.identifier
  | e => .io e

/-- The object verifier on a host. -/
def verifierOn (d : ObjectDiff) (h : Host σ) : Verifier σ where
  name := "objdiff"
  compare := fun fragment _ artifact resources =>
    match artifact with
    | none => (.error .missingArtifact, resources)
    | some artifact =>
      match h.read (d.referenceFor fragment) resources with
      | .error e => (.error (unreadable fragment e), resources)
      | .ok data =>
        if Sha256.hex data = artifact.digest then (.ok .identical, resources)
        else
          let (answer, resources) :=
            h.run d.path [d.referenceFor fragment, artifact.path] resources
          ((d.interpret answer).map comparison, resources)

theorem readReference_eq (d : ObjectDiff) (fragment : Fragment) (m : Machine) :
    d.readReference fragment m =
      (Machine.host.read (d.referenceFor fragment) m).mapError (unreadable fragment) := by
  unfold readReference Machine.host
  dsimp only
  cases m.files.read (m.absolute (d.referenceFor fragment)) with
  | ok data => rfl
  | error e => cases e <;> rfl

/-- On machines it is the object verifier. -/
theorem verifierOn_host (d : ObjectDiff) : d.verifierOn Machine.host = d.verifier := by
  unfold verifierOn verifier
  congr 1
  funext fragment source artifact m
  cases artifact with
  | none => rfl
  | some artifact =>
      dsimp only [compareObject]
      rw [readReference_eq]
      cases Machine.host.read (d.referenceFor fragment) m <;> rfl

/-! ## The ways that verifying can go -/

/-- There is something to compare: the outcome has an object, and the reference can be read. -/
structure Comparable (d : ObjectDiff) (h : Host σ) (fragment : Fragment) (outcome : Outcome)
    (resources : σ) (artifact : Artifact) (data : Bytes) : Prop where
  compiled : outcome.success = true
  object : outcome.artifact = some artifact
  reference : h.read (d.referenceFor fragment) resources = .ok data

/-- The attempt to run the tool on an object. -/
def attempt (d : ObjectDiff) (fragment : Fragment) (artifact : Artifact) : Attempt :=
  (d.path, [d.referenceFor fragment, artifact.path])

/-- The ways that verifying an outcome can go: the answer, what becomes of the resources, and the
attempts that are made. -/
inductive Course (d : ObjectDiff) (h : Host σ) (fragment : Fragment) (outcome : Outcome)
    (resources : σ) : Except VerificationError Verdict × σ → List Attempt → Prop where
  | failed (hfailed : outcome.success = false) :
      Course d h fragment outcome resources (.ok .compilationFailed, resources) []
  | incomparable (hnone : ∀ artifact data,
        ¬ d.Comparable h fragment outcome resources artifact data) (e : VerificationError) :
      Course d h fragment outcome resources (.error e, resources) []
  | identical {artifact : Artifact} {data : Bytes}
      (hcomparable : d.Comparable h fragment outcome resources artifact data)
      (hequal : Sha256.hex data = artifact.digest) :
      Course d h fragment outcome resources (.ok (.ofComparison .identical), resources) []
  | compared {artifact : Artifact} {data : Bytes} {answer : ToolRun} {after : σ}
      (hcomparable : d.Comparable h fragment outcome resources artifact data)
      (hdiffer : Sha256.hex data ≠ artifact.digest)
      (hrun : h.run d.path [d.referenceFor fragment, artifact.path] resources = (answer, after)) :
      Course d h fragment outcome resources
        ((d.interpret answer).map (.ofComparison ∘ comparison), after)
        [d.attempt fragment artifact]

variable {d : ObjectDiff} {h : Host σ} {fragment : Fragment} {outcome : Outcome} {resources : σ}
  {artifact : Artifact} {data : Bytes}

/-- Something to compare is still there when notes are taken. -/
theorem Comparable.noting (hcomparable : d.Comparable h fragment outcome resources artifact data)
    (noted : List Attempt) :
    d.Comparable h.noting fragment outcome (resources, noted) artifact data :=
  ⟨hcomparable.compiled, hcomparable.object, hcomparable.reference⟩

theorem verify_of_missing (hcompiled : outcome.success = true) (hobject : outcome.artifact = none)
    (source : String) :
    (d.verifierOn h).verify fragment source outcome resources =
      (.error .missingArtifact, resources) := by
  rw [Verifier.verify_of_success _ _ _ hcompiled, hobject]
  rfl

theorem verify_of_unreadable (hcompiled : outcome.success = true)
    (hobject : outcome.artifact = some artifact) {e : OsError}
    (hread : h.read (d.referenceFor fragment) resources = .error e) (source : String) :
    (d.verifierOn h).verify fragment source outcome resources =
      (.error (unreadable fragment e), resources) := by
  rw [Verifier.verify_of_success _ _ _ hcompiled]
  simp only [verifierOn, hobject, hread]
  rfl

theorem verify_of_equal (hcomparable : d.Comparable h fragment outcome resources artifact data)
    (hequal : Sha256.hex data = artifact.digest) (source : String) :
    (d.verifierOn h).verify fragment source outcome resources =
      (.ok (.ofComparison .identical), resources) := by
  rw [Verifier.verify_of_success _ _ _ hcomparable.compiled]
  simp only [verifierOn, hcomparable.object, hcomparable.reference, hequal, if_true]
  rfl

theorem verify_of_differ (hcomparable : d.Comparable h fragment outcome resources artifact data)
    (hdiffer : Sha256.hex data ≠ artifact.digest) (source : String) :
    (d.verifierOn h).verify fragment source outcome resources =
      let run := h.run d.path [d.referenceFor fragment, artifact.path] resources
      ((d.interpret run.1).map (.ofComparison ∘ comparison), run.2) := by
  rw [Verifier.verify_of_success _ _ _ hcomparable.compiled]
  simp only [verifierOn, hcomparable.object, hcomparable.reference, hdiffer, if_false]
  obtain ⟨answer, after⟩ := h.run d.path [d.referenceFor fragment, artifact.path] resources
  dsimp only
  cases d.interpret answer <;> rfl

/-- Taking notes changes neither the answer nor what becomes of the resources, and verifying goes
one of the ways that are listed. -/
theorem verify_course (d : ObjectDiff) (h : Host σ) (fragment : Fragment) (source : String)
    (outcome : Outcome) (resources : σ) :
    let run := (d.verifierOn h).verify fragment source outcome resources
    ∃ attempts,
      (d.verifierOn h.noting).verify fragment source outcome (resources, []) =
        (run.1, run.2, attempts) ∧
      d.Course h fragment outcome resources run attempts := by
  cases hcompiled : outcome.success with
  | false =>
      rw [Verifier.verify_eq, Verifier.verify_eq, hcompiled]
      exact ⟨[], rfl, .failed hcompiled⟩
  | true =>
      cases hobject : outcome.artifact with
      | none =>
          rw [verify_of_missing hcompiled hobject, verify_of_missing hcompiled hobject]
          refine ⟨[], rfl, .incomparable ?_ _⟩
          intro artifact data hcomparable
          cases hobject.symm.trans hcomparable.object
      | some artifact =>
          cases hread : h.read (d.referenceFor fragment) resources with
          | error e =>
              have hnoted : h.noting.read (d.referenceFor fragment) (resources, []) = .error e :=
                hread
              rw [verify_of_unreadable hcompiled hobject hread,
                verify_of_unreadable hcompiled hobject hnoted]
              refine ⟨[], rfl, .incomparable ?_ _⟩
              intro artifact data hcomparable
              cases hread.symm.trans hcomparable.reference
          | ok data =>
              have hcomparable : d.Comparable h fragment outcome resources artifact data :=
                ⟨hcompiled, hobject, hread⟩
              by_cases hequal : Sha256.hex data = artifact.digest
              · rw [verify_of_equal hcomparable hequal,
                  verify_of_equal (hcomparable.noting []) hequal]
                exact ⟨[], rfl, .identical hcomparable hequal⟩
              · rw [verify_of_differ hcomparable hequal,
                  verify_of_differ (hcomparable.noting []) hequal]
                exact ⟨[d.attempt fragment artifact], rfl, .compared hcomparable hequal rfl⟩

/-! ## When the verdict is a match -/

/-- The tool ends well and in time when it is run on an object, and prints a report. -/
def Reports (d : ObjectDiff) (h : Host σ) (fragment : Fragment) (resources : σ)
    (artifact : Artifact) (report : String) : Prop :=
  ∃ output,
    (h.run d.path [d.referenceFor fragment, artifact.path] resources).1 = .finished output ∧
      output.status.isSuccess = true ∧ String.ofList (Utf8.lossy output.stdout) = report

/-- The object of an outcome agrees with the reference: their digests are equal, or the tool gives a
report that vouches for it. -/
def Agrees (d : ObjectDiff) (h : Host σ) (fragment : Fragment) (outcome : Outcome) (resources : σ)
    (least : Nat) : Prop :=
  ∃ artifact data, d.Comparable h fragment outcome resources artifact data ∧
    (Sha256.hex data = artifact.digest ∨
      ∃ report, d.Reports h fragment resources artifact report ∧ Vouches least report)

theorem map_eq_ok_iff {ε α β : Type} {f : α → β} {answer : Except ε α} {b : β} :
    answer.map f = .ok b ↔ ∃ a, answer = .ok a ∧ f a = b := by
  cases answer <;> simp [Except.map]

theorem interpret_eq_ok_iff {d : ObjectDiff} {run : ToolRun} {report : String} :
    d.interpret run = .ok report ↔
      ∃ output, run = .finished output ∧ output.status.isSuccess = true ∧
        String.ofList (Utf8.lossy output.stdout) = report := by
  cases run with
  | refused cause =>
      simp only [interpret, reduceCtorEq, false_and, exists_false, iff_false]
      split <;> simp
  | timedOut => simp [interpret]
  | finished output =>
      by_cases hsuccess : output.status.isSuccess = true <;> simp [interpret, hsuccess]

theorem reports_iff {answer : ToolRun} {after : σ} {report : String}
    (hrun : h.run d.path [d.referenceFor fragment, artifact.path] resources = (answer, after)) :
    d.Reports h fragment resources artifact report ↔ d.interpret answer = .ok report := by
  rw [Reports, hrun, interpret_eq_ok_iff]

/-- An outcome has one object, and its fragment one reference. -/
theorem Comparable.unique {artifact' : Artifact} {data' : Bytes}
    (hcomparable : d.Comparable h fragment outcome resources artifact data)
    (hcomparable' : d.Comparable h fragment outcome resources artifact' data') :
    artifact' = artifact ∧ data' = data :=
  ⟨Option.some.inj (hcomparable'.object.symm.trans hcomparable.object),
    Except.ok.inj (hcomparable'.reference.symm.trans hcomparable.reference)⟩

theorem Comparable.agrees_iff
    (hcomparable : d.Comparable h fragment outcome resources artifact data) {least : Nat} :
    d.Agrees h fragment outcome resources least ↔
      Sha256.hex data = artifact.digest ∨
        ∃ report, d.Reports h fragment resources artifact report ∧ Vouches least report := by
  constructor
  · rintro ⟨artifact', data', hcomparable', hagrees⟩
    obtain ⟨rfl, rfl⟩ := hcomparable.unique hcomparable'
    exact hagrees
  · intro hagrees
    exact ⟨artifact, data, hcomparable, hagrees⟩

/-- The verdicts without discrepancies and with a score that is high enough are those on objects
that agree with their reference. -/
theorem clean_iff_agrees {least : Nat} (hmatch : matchThreshold < least) (hle : least ≤ 100)
    (d : ObjectDiff) (h : Host σ) (fragment : Fragment) (source : String) (outcome : Outcome)
    (resources : σ) :
    (∃ verdict, ((d.verifierOn h).verify fragment source outcome resources).1 = .ok verdict ∧
        verdict.discrepancies = [] ∧ least ≤ verdict.matchPercentage) ↔
      d.Agrees h fragment outcome resources least := by
  obtain ⟨attempts, -, hcourse⟩ := d.verify_course h fragment source outcome resources
  generalize (d.verifierOn h).verify fragment source outcome resources = run at hcourse ⊢
  cases hcourse with
  | failed hfailed =>
      refine iff_of_false ?_ ?_
      · rintro ⟨verdict, hverdict, hclean, -⟩
        cases hverdict
        cases hclean
      · rintro ⟨artifact, data, hcomparable, -⟩
        cases hfailed.symm.trans hcomparable.compiled
  | incomparable hnone e =>
      refine iff_of_false ?_ ?_
      · rintro ⟨verdict, hverdict, -⟩
        cases hverdict
      · rintro ⟨artifact, data, hcomparable, -⟩
        exact hnone artifact data hcomparable
  | identical hcomparable hequal =>
      exact iff_of_true ⟨_, rfl, rfl, hle⟩ (hcomparable.agrees_iff.mpr (.inl hequal))
  | compared hcomparable hdiffer hrun =>
      rw [hcomparable.agrees_iff, or_iff_right hdiffer]
      constructor
      · rintro ⟨verdict, hverdict, hclean⟩
        obtain ⟨report, hreport, rfl⟩ := map_eq_ok_iff.mp hverdict
        exact ⟨report, (reports_iff hrun).mpr hreport,
          (ofComparison_comparison_iff hmatch hle report).mp hclean⟩
      · rintro ⟨report, hreport, hvouches⟩
        exact ⟨_, map_eq_ok_iff.mpr ⟨report, (reports_iff hrun).mp hreport, rfl⟩,
          (ofComparison_comparison_iff hmatch hle report).mpr hvouches⟩

theorem attempts_iff {answer : Except VerificationError Verdict × σ} {attempts : List Attempt}
    (hcourse : d.Course h fragment outcome resources answer attempts) :
    (attempts ≠ [] ↔ ∃ artifact data, d.Comparable h fragment outcome resources artifact data ∧
        Sha256.hex data ≠ artifact.digest) ∧
      (attempts = [] ∨ ∃ artifact, outcome.artifact = some artifact ∧
        attempts = [d.attempt fragment artifact]) := by
  cases hcourse with
  | failed hfailed =>
      refine ⟨iff_of_false (absurd rfl) ?_, .inl rfl⟩
      rintro ⟨artifact, data, hcomparable, -⟩
      cases hfailed.symm.trans hcomparable.compiled
  | incomparable hnone e =>
      refine ⟨iff_of_false (absurd rfl) ?_, .inl rfl⟩
      rintro ⟨artifact, data, hcomparable, -⟩
      exact hnone artifact data hcomparable
  | identical hcomparable hequal =>
      refine ⟨iff_of_false (absurd rfl) ?_, .inl rfl⟩
      rintro ⟨artifact', data', hcomparable', hdiffer⟩
      obtain ⟨rfl, rfl⟩ := hcomparable.unique hcomparable'
      exact hdiffer hequal
  | compared hcomparable hdiffer hrun =>
      refine ⟨iff_of_true (List.cons_ne_nil _ _) ⟨_, _, hcomparable, hdiffer⟩, .inr ?_⟩
      exact ⟨_, hcomparable.object, rfl⟩

/-- **When compared objects match.**  On any host, the verdict on an outcome is a match exactly if
the outcome has an object that agrees with a readable reference: the digests are equal, or else the
tool ends well and in time with a report that mentions no category and gives more than the
threshold, or gives no percentage and calls the objects identical.  The verdict is exact under the
same condition with a hundred for the percentage.

The tool is attempted exactly if there is an object, the reference was read and the digests differ,
and then once, on the reference and the object. -/
theorem match_iff_agrees (d : ObjectDiff) (fragment : Fragment) (source : String)
    (outcome : Outcome) :
    d.verifierOn Machine.host = d.verifier ∧
      ∀ {σ : Type} (h : Host σ) (resources : σ),
        let run := (d.verifierOn h).verify fragment source outcome resources
        ((∃ verdict, run.1 = .ok verdict ∧ verdict.success = true) ↔
          d.Agrees h fragment outcome resources (matchThreshold + 1)) ∧
        ((∃ verdict, run.1 = .ok verdict ∧ verdict.isExact = true) ↔
          d.Agrees h fragment outcome resources 100) ∧
        ∃ attempts,
          (d.verifierOn h.noting).verify fragment source outcome (resources, []) =
            (run.1, run.2, attempts) ∧
          (attempts ≠ [] ↔ ∃ artifact data,
            d.Comparable h fragment outcome resources artifact data ∧
              Sha256.hex data ≠ artifact.digest) ∧
          (attempts = [] ∨ ∃ artifact, outcome.artifact = some artifact ∧
            attempts = [d.attempt fragment artifact]) := by
  refine ⟨d.verifierOn_host, ?_⟩
  intro σ h resources run
  have hfits {verdict : Verdict} (hverdict : run.1 = .ok verdict) : Verdict.Fits outcome verdict :=
    Verifier.verify_fits (Prod.ext hverdict rfl : run = (.ok verdict, run.2))
  refine ⟨?_, ?_, ?_⟩
  · rw [← clean_iff_agrees (by decide) (by decide) d h fragment source outcome resources]
    refine exists_congr fun verdict => and_congr_right fun hverdict => ?_
    exact (hfits hverdict).success_iff
  · rw [← clean_iff_agrees (by decide) (by decide) d h fragment source outcome resources]
    refine exists_congr fun verdict => and_congr_right fun hverdict => ?_
    exact (hfits hverdict).isExact_iff
  · obtain ⟨attempts, hnoted, hcourse⟩ := d.verify_course h fragment source outcome resources
    exact ⟨attempts, hnoted, attempts_iff hcourse⟩

end ObjectDiff

end MatchingDecomp
