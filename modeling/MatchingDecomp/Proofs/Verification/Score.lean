import MatchingDecomp.Proofs.Host.Machine
import MatchingDecomp.Proofs.Verification.Match
import MatchingDecomp.Verification.Heuristic

/-!
# Which score is recorded

Both verifiers name a discrepancy of their own when the score they measured is no match, and all
verdicts keep a score below the threshold when there are discrepancies.  So a measured score is
recorded as it is, up to a hundred, with one exception: the threshold itself is no match, gets a
discrepancy for that, and is recorded one lower (`recordedScore`).

The argument is the same for both verifiers.  They flag their misses (`Comparison.FlagsMisses`), and
that settles the score of the verdict (`scoreOf_of_flagsMisses`).
-/

namespace MatchingDecomp

variable {σ : Type}

/-! ## Flagging misses -/

/-- The score that is recorded for one that was measured. -/
def recordedScore (score : Nat) : Nat :=
  if score = matchThreshold then matchThreshold - 1 else min score 100

/-- A score may be cut to a hundred before it is recorded. -/
theorem recordedScore_min (score : Nat) : recordedScore (min score 100) = recordedScore score := by
  unfold recordedScore matchThreshold
  split <;> split <;> omega

/-- A comparison has discrepancies exactly if its score is no match. -/
def Comparison.FlagsMisses (c : Comparison) : Prop :=
  c.discrepancies = [] ↔ matchThreshold < c.score

theorem Verdict.scoreOf_of_flagsMisses {c : Comparison} (hflags : c.FlagsMisses) :
    scoreOf c = recordedScore c.score := by
  have hflagged : c.discrepancies ≠ [] ↔ c.score ≤ matchThreshold := by
    rw [← Nat.not_lt]
    exact not_congr hflags
  rw [scoreOf_eq, recordedScore]
  by_cases hat : c.score = matchThreshold
  · have hcut : matchThreshold ≤ min c.score 100 := by
      rw [hat]
      decide
    rw [if_pos hat, if_pos ⟨hflagged.mpr (Nat.le_of_eq hat), hcut⟩]
  · rw [if_neg hat, if_neg]
    rintro ⟨hdiffers, hcut⟩
    have hmiss := hflagged.mp hdiffers
    omega

/-! ## The object verifier -/

namespace ObjectDiff

theorem flagsMisses_comparison {report : String} (hclean : DiffReport.classify report = []) :
    (comparison report).FlagsMisses := by
  rw [Comparison.FlagsMisses, comparison_discrepancies_iff, and_iff_right hclean]
  rfl

/-- The score that the report of the tool gives is the one that counts. -/
theorem verify_of_report {d : ObjectDiff} {fragment : Fragment} {outcome : Outcome} {m : Machine}
    {artifact : Artifact} {data : Bytes} {report : String} {p : Nat}
    (hcomparable : d.Comparable Machine.host fragment outcome m artifact data)
    (hdiffer : Sha256.hex data ≠ artifact.digest)
    (hreports : d.Reports Machine.host fragment m artifact report)
    (hparse : Percentage.parse? report = some p) (hclean : DiffReport.classify report = [])
    (source : String) :
    ∃ verdict, (d.verifier.verify fragment source outcome m).1 = .ok verdict ∧
      verdict.matchPercentage = recordedScore p := by
  have hanswer : d.interpret
      (Machine.host.run d.path [d.referenceFor fragment, artifact.path] m).1 = .ok report :=
    (reports_iff rfl).mp hreports
  have hscore : (comparison report).score = p := by
    show score report = p
    rw [score, hparse, Option.getD_some]
  refine ⟨.ofComparison (comparison report), ?_, ?_⟩
  · rw [← verifierOn_host, verify_of_differ hcomparable hdiffer]
    dsimp only
    rw [hanswer]
    rfl
  · calc Verdict.scoreOf (comparison report)
        = recordedScore (comparison report).score :=
          Verdict.scoreOf_of_flagsMisses (flagsMisses_comparison hclean)
      _ = recordedScore p := by rw [hscore]

end ObjectDiff

/-! ## The heuristic verifier -/

namespace Heuristic

/-- Pin several scores, one after the other. -/
def withScores (h : Heuristic) (pins : List (String × Nat)) : Heuristic :=
  pins.foldl (fun h pin => h.withScore pin.1 pin.2) h

theorem score_withScore_self (h : Heuristic) (fragment : Fragment) (score : Nat) :
    (h.withScore fragment.identifier score).score fragment = min score 100 := by
  simp [Heuristic.score, withScore]

theorem score_withScore_of_ne (h : Heuristic) {fragment : Fragment} {identifier : String}
    (hother : identifier ≠ fragment.identifier) (score : Nat) :
    (h.withScore identifier score).score fragment = h.score fragment := by
  have hmiss : (fragment.identifier == identifier) = false := beq_false_of_ne hother.symm
  simp [Heuristic.score, withScore, List.lookup_cons, hmiss]

/-- Pins of other names do not change the score of a fragment. -/
theorem score_withScores {fragment : Fragment} {pins : List (String × Nat)}
    (hother : ∀ pin ∈ pins, pin.1 ≠ fragment.identifier) (h : Heuristic) :
    (h.withScores pins).score fragment = h.score fragment := by
  induction pins generalizing h with
  | nil => rfl
  | cons pin pins ih =>
      rw [List.forall_mem_cons] at hother
      calc (h.withScores (pin :: pins)).score fragment
          = ((h.withScore pin.1 pin.2).withScores pins).score fragment := rfl
        _ = (h.withScore pin.1 pin.2).score fragment := ih hother.2 _
        _ = h.score fragment := h.score_withScore_of_ne hother.1 pin.2

theorem comparison_of_body (h : Heuristic) (fragment : Fragment) {source : String}
    (hbody : hasBody source = true) :
    (h.comparison fragment source).score = h.score fragment ∧
      (h.comparison fragment source).FlagsMisses := by
  unfold comparison Comparison.FlagsMisses
  rw [hbody]
  by_cases hmatch : matchThreshold < h.score fragment <;> simp [isMatch, hmatch]

/-- The last score that was pinned to the name of a fragment is the one that counts. -/
theorem recordedScore_of_pin (h : Heuristic) {fragment : Fragment} {later : List (String × Nat)}
    (hlast : ∀ pin ∈ later, pin.1 ≠ fragment.identifier) (score : Nat) :
    recordedScore (((h.withScore fragment.identifier score).withScores later).score fragment) =
      recordedScore score := by
  rw [score_withScores hlast, score_withScore_self, recordedScore_min]

theorem verify_of_body (h : Heuristic) (fragment : Fragment) {source : String}
    (hbody : hasBody source = true) {outcome : Outcome} (hsuccess : outcome.success = true)
    (resources : σ) :
    ∃ verdict, ((h.verifier σ).verify fragment source outcome resources).1 = .ok verdict ∧
      verdict.matchPercentage = recordedScore (h.score fragment) := by
  obtain ⟨hscore, hflags⟩ := h.comparison_of_body fragment hbody
  refine ⟨.ofComparison (h.comparison fragment source), ?_, ?_⟩
  · rw [Verifier.verify_of_success _ fragment source hsuccess]
    rfl
  · calc Verdict.scoreOf (h.comparison fragment source)
        = recordedScore (h.comparison fragment source).score :=
          Verdict.scoreOf_of_flagsMisses hflags
      _ = recordedScore (h.score fragment) := by rw [hscore]

end Heuristic

/-! ## Both verifiers -/

/-- **Which score is recorded.**  The verdict on an outcome with success has the score that was
measured, up to a hundred, but one less for the threshold itself.  That holds

* for the object verifier, if the digests differ and the tool ends well with a report that gives a
  percentage and mentions no category;
* for the heuristic verifier, if a score was pinned to the name of the fragment and no later pin is
  for that name, and the source has an opening and a closing brace. -/
theorem recorded_of_measured (fragment : Fragment) (source : String) (outcome : Outcome)
    (hsuccess : outcome.success = true) :
    (∀ (d : ObjectDiff) (m : Machine) (artifact : Artifact) (data : Bytes) (report : String)
        (p : Nat), d.Comparable Machine.host fragment outcome m artifact data →
      Sha256.hex data ≠ artifact.digest → d.Reports Machine.host fragment m artifact report →
      Percentage.parse? report = some p → DiffReport.classify report = [] →
      ∃ verdict, (d.verifier.verify fragment source outcome m).1 = .ok verdict ∧
        verdict.matchPercentage = if p = 90 then 89 else min p 100) ∧
    (∀ (h : Heuristic) (score : Nat) (later : List (String × Nat)),
      (∀ pin ∈ later, pin.1 ≠ fragment.identifier) →
      '{' ∈ source.toList → '}' ∈ source.toList → ∀ (σ : Type) (resources : σ),
      ∃ verdict,
        ((((h.withScore fragment.identifier score).withScores later).verifier σ).verify fragment
          source outcome resources).1 = .ok verdict ∧
        verdict.matchPercentage = if score = 90 then 89 else min score 100) := by
  constructor
  · intro d m artifact data report p hcomparable hdiffer hreports hparse hclean
    exact ObjectDiff.verify_of_report hcomparable hdiffer hreports hparse hclean source
  · intro h score later hlast hopening hclosing σ resources
    have hbody : Heuristic.hasBody source = true := by simp [Heuristic.hasBody, hopening, hclosing]
    obtain ⟨verdict, hverdict, hrecorded⟩ := Heuristic.verify_of_body
      ((h.withScore fragment.identifier score).withScores later) fragment hbody hsuccess resources
    exact ⟨verdict, hverdict, hrecorded.trans (h.recordedScore_of_pin hlast score)⟩

/-- A tool that prints a text whatever it is given. -/
def printer (text : String) : Program := fun _ files =>
  (some { stdout := Utf8.ofString text }, files)

/-- A machine with that tool and a reference object. -/
def printerHost (text : String) : Machine :=
  { files := ⟨[(["refs"], .directory), (["refs", "f.o"], .file [1, 2])]⟩
    programs := [("objdiff", printer text)] }

/-- The object verifier with that tool. -/
def printerDiff : ObjectDiff :=
  { path := "objdiff", referenceDirectory := "/refs", timeout := ⟨1⟩ }

/-- An object that is not the reference. -/
def otherObject : Artifact :=
  { path := "/tmp/candidate.o", digest := "00" }

theorem printer_reports (text : String)
    (htext : String.ofList (Utf8.lossy (Utf8.ofString text)) = text) :
    printerDiff.Comparable Machine.host ⟨"f:", "f", none⟩ (.succeeded otherObject [])
        (printerHost text) otherObject [1, 2] ∧
      Sha256.hex [1, 2] ≠ otherObject.digest ∧
      printerDiff.Reports Machine.host ⟨"f:", "f", none⟩ (printerHost text) otherObject text := by
  have hstart : (printerHost text).CanStart printerDiff.path
      [printerDiff.referenceFor ⟨"f:", "f", none⟩, otherObject.path] (printer text) :=
    ⟨Machine.find_eq_ok_iff.mpr rfl, by decide, by decide +kernel⟩
  have hdiffer : Sha256.hex [1, 2] ≠ "00" := by decide +kernel
  have hread : FileTree.read ⟨[(["refs"], .directory), (["refs", "f.o"], .file [1, 2])]⟩
      (Path.join "/" (printerDiff.referenceFor ⟨"f:", "f", none⟩)) = .ok [1, 2] := by
    decide +kernel
  have hrun := congrArg Prod.fst (Machine.run_of_canStart hstart)
  exact ⟨⟨rfl, rfl, hread⟩, hdiffer, { stdout := Utf8.ofString text }, hrun, rfl, htext⟩

/-- A report of 97.6 percent is recorded as 97, and a pin of 250 as 100. -/
theorem recorded_of_printer :
    (∃ verdict, (printerDiff.verifier.verify ⟨"f:", "f", none⟩ "int f() {}"
        (.succeeded otherObject []) (printerHost "fuzzy match 97.6%")).1 = .ok verdict ∧
      verdict.matchPercentage = 97) ∧
    ∃ verdict, ((((({} : Heuristic).withScore "f" 90).withScore "f" 250).withScores
        [("g", 90)]).verifier Unit |>.verify ⟨"f:", "f", none⟩ "int f() {}"
          (.succeeded otherObject []) ()).1 = .ok verdict ∧
      verdict.matchPercentage = 100 := by
  obtain ⟨hreport, hpin⟩ :=
    recorded_of_measured ⟨"f:", "f", none⟩ "int f() {}" (.succeeded otherObject []) rfl
  obtain ⟨hcomparable, hdiffer, hreports⟩ :=
    printer_reports "fuzzy match 97.6%" (by decide +kernel)
  constructor
  · exact hreport _ _ _ _ _ 97 hcomparable hdiffer hreports (by decide +kernel) (by decide +kernel)
  · exact hpin _ 250 [("g", 90)] (by decide) (by decide) (by decide) Unit ()

/-- A score at the threshold is not recorded as it was measured, by either verifier. -/
theorem threshold_recorded_lower :
    (Percentage.parse? "90%" = some 90 ∧ DiffReport.classify "90%" = [] ∧
      printerDiff.Reports Machine.host ⟨"f:", "f", none⟩ (printerHost "90%") otherObject "90%" ∧
      ∃ verdict, (printerDiff.verifier.verify ⟨"f:", "f", none⟩ "int f() {}"
          (.succeeded otherObject []) (printerHost "90%")).1 = .ok verdict ∧
        verdict.matchPercentage = 89 ∧ 89 ≠ min 90 100) ∧
    ∃ verdict, ((({} : Heuristic).withScore "f" 90).verifier Unit |>.verify ⟨"f:", "f", none⟩
        "int f() {}" (.succeeded otherObject []) ()).1 = .ok verdict ∧
      verdict.matchPercentage = 89 ∧ 89 ≠ min 90 100 := by
  have hparse : Percentage.parse? "90%" = some 90 := by decide +kernel
  have hclean : DiffReport.classify "90%" = [] := by decide +kernel
  obtain ⟨hcomparable, hdiffer, hreports⟩ := printer_reports "90%" (by decide +kernel)
  obtain ⟨verdict, hverdict, hscore⟩ :=
    ObjectDiff.verify_of_report hcomparable hdiffer hreports hparse hclean "int f() {}"
  refine ⟨⟨hparse, hclean, hreports, verdict, hverdict, hscore, by decide⟩, ?_⟩
  exact ⟨_, rfl, by decide +kernel, by decide⟩

end MatchingDecomp
