import MatchingDecomp.Proofs.Compilation.Toolchain
import MatchingDecomp.Proofs.Session.Execution
import MatchingDecomp.Verification.ObjectDiff

/-!
# Identical objects

When the program of a toolchain leaves the very bytes of the reference behind, the run ends as a
match, and the tool for comparing objects is not started.  The digest is taken by the compiler and
compared by the verifier, so the argument goes through the three stages: what the compiler gives
(`Toolchain.compile_of_builds`), what the verifier makes of it (`ObjectDiff.verify_of_identical`),
and what the run comes to (`Session.execute_of_identical`).
-/

namespace MatchingDecomp

namespace Toolchain

/-- The program makes an object of a source: the source is put into a workspace, the program ends
well, and the object it leaves there can be read. -/
inductive Builds (t : Toolchain) (source : String) (m : Machine) (workspace : String)
    (data : Bytes) (after : Machine) : Prop where
  | intro {staged : Machine} {output : ToolOutput}
      (hstages : m.Stages source workspace staged)
      (hrun : staged.run t.path (t.compileArguments workspace) = (.finished output, after))
      (hsuccess : output.status.isSuccess = true)
      (hobject : after.files.read (Path.join workspace "candidate.o") = .ok data)

theorem Builds.started {t : Toolchain} {source workspace : String} {m after : Machine}
    {data : Bytes} (hbuilds : t.Builds source m workspace data after) :
    after.started = m.started ++ [(t.path, t.compileArguments workspace)] := by
  obtain ⟨hstages, hrun, -, -⟩ := hbuilds
  obtain ⟨-, written, rfl⟩ := hstages.workspace_eq
  obtain ⟨files, rfl⟩ := Machine.run_finished hrun
  rfl

/-- A source from which the program makes an object compiles, whatever the program prints. -/
theorem compile_of_builds {t : Toolchain} {source workspace : String} {w : Workbench}
    {after : Machine} {data : Bytes} (hbalanced : Source.isBalanced source = true)
    (hbuilds : t.Builds source (t.detectVersion w).2.machine workspace data after) :
    ∃ artifact warnings version, artifact.digest = Sha256.hex data ∧
      t.compiler.compile source w =
        (.ok (.succeeded artifact warnings), { machine := after, version }) := by
  obtain ⟨hstages, hrun, hsuccess, hobject⟩ := hbuilds
  have hfresh := compileFresh_of_object hstages hrun hsuccess hobject
  have hchecked := compileChecked_eq t source w
  rw [hfresh] at hchecked
  rw [Compiler.compile, if_pos hbalanced]
  exact ⟨_, _, _, rfl, hchecked⟩

theorem started_detectVersion (t : Toolchain) (w : Workbench) :
    ∃ queries, queries.Sublist [(t.path, t.queryArguments)] ∧
      (t.detectVersion w).2.machine.started = w.machine.started ++ queries := by
  cases hversion : w.version with
  | some version =>
      rw [detectVersion_of_known hversion]
      exact ⟨[], List.nil_sublist _, (List.append_nil _).symm⟩
  | none =>
      rw [detectVersion_of_unknown hversion]
      rcases Machine.run_cases w.machine t.path t.queryArguments with
        ⟨cause, hrefused⟩ | ⟨program, hstart⟩
      · rw [hrefused]
        exact ⟨[], List.nil_sublist _, (List.append_nil _).symm⟩
      · rw [Machine.run_of_canStart hstart]
        exact ⟨_, List.Sublist.refl _, rfl⟩

end Toolchain

theorem ObjectDiff.verify_of_identical {d : ObjectDiff} {fragment : Fragment} {w : Workbench}
    {data : Bytes}
    (hreference : w.machine.files.read (w.machine.absolute (d.referenceFor fragment)) = .ok data)
    (source : String) {artifact : Artifact} (hdigest : artifact.digest = Sha256.hex data)
    (warnings : List String) :
    (d.verifier.lift Workbench.machinePart).verify fragment source
      (.succeeded artifact warnings) w = (.ok (.ofComparison .identical), w) := by
  have hcompared : d.compareObject fragment artifact w.machine = (.ok .identical, w.machine) := by
    unfold compareObject readReference
    rw [hreference]
    simp only [hdigest, if_true]
  have hlifted : (d.verifier.lift Workbench.machinePart).compare fragment source (some artifact) w =
      (.ok .identical, w) := by
    simp only [Verifier.lift, verifier, Workbench.lift_machinePart, hcompared]
  rw [Verifier.verify_eq]
  simp only [Outcome.succeeded, if_true, hlifted]

/-- Giving up an outcome concerns files only. -/
theorem Toolchain.started_release (outcome : Outcome) (w : Workbench) :
    (release outcome w).machine.started = w.machine.started := by
  unfold release
  split
  · rename_i workspace _
    obtain ⟨files, hdropped⟩ := w.machine.dropWorkspace_eq workspace
    rw [hdropped]
  · rfl

/-- The backends with a toolchain for the compiler, and with reference objects to compare with. -/
def Backends.comparing (g : Generator Workbench) (t : Toolchain) (d : ObjectDiff) :
    Backends Workbench where
  generator := g
  compiler := t.compiler
  verifier := d.verifier.lift Workbench.machinePart

/-- The walk through three stages that all give an answer. -/
theorem Walk.generate_of_answers {σ : Type} {b : Backends σ} {fragment : Fragment}
    {cancelled : Stage → Bool} (hnever : ∀ stage, cancelled stage = false) {candidate : Candidate}
    {outcome : Outcome} {verdict : Verdict} {resources generated compiled verified : σ}
    (hgenerated : b.generator.generate fragment resources = (.ok candidate, generated))
    (hcompiled : b.compiler.compile candidate.source generated = (.ok outcome, compiled))
    (hverified : b.verifier.verify fragment candidate.source outcome compiled =
      (.ok verdict, verified)) (id : RunId) (now : Instant) :
    generate b id now fragment cancelled resources =
      (.ok (.assemble id now fragment candidate outcome verdict),
        b.compiler.release outcome verified) := by
  simp only [generate, compile, verify, hnever, Bool.false_eq_true, if_false, hgenerated,
    hcompiled, hverified]

namespace Session

/-- A run that is not asked to stop comes to the result of the walk. -/
theorem execute_of_walk {σ : Type} {b : Backends σ} {s : Session σ} {run : ActiveRun}
    (hactive : s.find? run.id = some run) (hidle : run.work = none) {fragment : Fragment}
    {now : Instant} {result : Except PipelineError Run} {left : σ}
    (hwalk : Walk.generate b run.id now fragment (StopRequests.never.cancels run) s.resources =
      (result, left)) (desk : Nat) :
    (s.execute b desk run.id fragment now).1 = .finished result ∧
      (s.execute b desk run.id fragment now).2.resources = left := by
  obtain ⟨hresult, hsession⟩ := execute_eq_play b hactive hidle desk fragment now
  have haccount := account_script b hactive hidle StopRequests.never desk fragment now
  rw [hwalk] at haccount
  constructor
  · exact eq_finished_of_result? (hresult.trans (congrArg Prod.fst haccount))
  · rw [hsession]
    exact congrArg (fun account => account.2.2) haccount

/-- **Identical objects match.**  A run that is not cancelled is carried out for a fragment that is
not blank; the generator gives a source that is neither blank nor unbalanced, and the toolchain
builds the very bytes of the reference from it.  Then the run ends as a success without any
difference or compile error.  Whatever the programs print and whichever tool for comparing objects
is installed, the only program that is started is the one of the toolchain: perhaps for its version,
and then for the source. -/
theorem execute_of_identical (g : Generator Workbench) (t : Toolchain) (d : ObjectDiff)
    {s : Session Workbench} {run : ActiveRun} (hactive : s.find? run.id = some run)
    (hidle : run.work = none) (hcancelled : run.cancelled = false) (desk : Nat) (now : Instant)
    {fragment : Fragment} (hfragment : fragment.isBlank = false)
    {candidate : Candidate} {w : Workbench}
    (hproduced : g.produce fragment s.resources = (.ok candidate, w))
    (hsource : Text.isBlankText candidate.source = false)
    (hbalanced : Source.isBalanced candidate.source = true)
    {workspace : String} {data : Bytes} {after : Machine}
    (hbuilds : t.Builds candidate.source (t.detectVersion w).2.machine workspace data after)
    (hreference : after.files.read (after.absolute (d.referenceFor fragment)) = .ok data) :
    ∃ record queries,
      (s.execute (.comparing g t d) desk run.id fragment now).1 = .finished (.ok record) ∧
      record.status = .success ∧ record.matchPercentage = some 100 ∧
      record.discrepancies = some [] ∧ record.compileErrors = [] ∧
      queries.Sublist [(t.path, t.queryArguments)] ∧
      (s.execute (.comparing g t d) desk run.id fragment now).2.resources.machine.started =
        w.machine.started ++ queries ++ [(t.path, t.compileArguments workspace)] := by
  obtain ⟨queries, hqueries, hasked⟩ := t.started_detectVersion w
  obtain ⟨artifact, warnings, version, hdigest, hcompiled⟩ := t.compile_of_builds hbalanced hbuilds
  have hgenerated : g.generate fragment s.resources = (.ok candidate.clamped, w) := by
    rw [Generator.generate_eq, hfragment, if_neg Bool.false_ne_true, hproduced]
    simp only [hsource, Bool.false_eq_true, if_false]
  have hverified := d.verify_of_identical (w := ⟨after, version⟩) hreference candidate.source
    hdigest warnings
  have hnever (stage : Stage) : StopRequests.never.cancels run stage = false := by
    cases stage <;> simp [StopRequests.cancels, StopRequests.upTo, StopRequests.never, hcancelled]
  have hwalk := Walk.generate_of_answers (b := .comparing g t d) hnever hgenerated hcompiled
    hverified run.id now
  obtain ⟨hresult, hleft⟩ := execute_of_walk hactive hidle hwalk desk
  refine ⟨_, queries, hresult, rfl, rfl, rfl, rfl, hqueries, ?_⟩
  calc (s.execute (.comparing g t d) desk run.id fragment now).2.resources.machine.started
      = (Toolchain.release (.succeeded artifact warnings) ⟨after, version⟩).machine.started := by
        rw [hleft]
        rfl
    _ = after.started := Toolchain.started_release _ _
    _ = (t.detectVersion w).2.machine.started ++ [(t.path, t.compileArguments workspace)] :=
        hbuilds.started
    _ = w.machine.started ++ queries ++ [(t.path, t.compileArguments workspace)] := by rw [hasked]

/-- The output of a program that complains and ends well all the same. -/
def complaint : ToolOutput :=
  { stderr := Utf8.ofString "fatal error: 0% match" }

/-- A program that complains, and leaves an object where it is told to. -/
def grumbler : Program := fun arguments files =>
  match arguments with
  | ["-c", _, "-o", object] => (some complaint, (files.write object [127, 69]).toOption.getD files)
  | _ => (some complaint, files)

/-- A machine with that program, a reference object, and no tool for comparing objects. -/
def grumblerHost : Machine :=
  { files := ⟨[(["tmp"], .directory), (["refs"], .directory), (["refs", "f.o"], .file [127, 69])]⟩
    programs := [("cc", grumbler)] }

/-- A generator that always proposes the same source. -/
def constantGenerator : Generator Workbench where
  name := "constant"
  produce := fun _ w => (.ok ⟨"int f() {}", ⟨0⟩⟩, w)

/-- A toolchain with that program. -/
def grumblerTools : Toolchain :=
  { path := "cc", arguments := [], timeout := ⟨1⟩ }

theorem grumbler_builds :
    ∃ after, grumblerTools.Builds "int f() {}" grumblerHost "/tmp/decomp-0" [127, 69] after ∧
      after.files.read "/refs/f.o" = .ok [127, 69] ∧ after.workingDirectory = "/" := by
  have hworkspace : grumblerHost.workspacePath grumblerHost.workspaces = "/tmp/decomp-0" := by
    decide +kernel
  have hmade : grumblerHost.files.makeDirectory "/tmp/decomp-0" =
      .ok (grumblerHost.files.set ["tmp", "decomp-0"] .directory) := by
    decide +kernel
  have hwritten : (grumblerHost.files.set ["tmp", "decomp-0"] .directory).write
      (Path.join "/tmp/decomp-0" "candidate.c") (Utf8.ofString "int f() {}") =
        .ok ((grumblerHost.files.set ["tmp", "decomp-0"] .directory).set
          ["tmp", "decomp-0", "candidate.c"] (.file (Utf8.ofString "int f() {}"))) := by
    decide +kernel
  rw [← hworkspace] at hmade hwritten
  have hstages := Machine.Stages.of_files hmade hwritten
  rw [hworkspace] at hstages
  have hstart : grumblerHost.CanStart grumblerTools.path grumblerTools.queryArguments grumbler :=
    ⟨Machine.find_eq_ok_iff.mpr rfl, by decide, by decide⟩
  have hrun := Machine.run_of_canStart (Toolchain.canStart_of_stages hstages hstart)
  refine ⟨_, .intro hstages hrun rfl ?_, ?_, rfl⟩
  · decide +kernel
  · decide +kernel

/-- The candidate matches, although its compiler complains and nothing could compare it. -/
theorem execute_of_grumbler :
    let d : ObjectDiff := { path := "objdiff", referenceDirectory := "/refs", timeout := ⟨1⟩ }
    let run : ActiveRun := { id := ⟨"a"⟩, home := 0 }
    let w : Workbench := { machine := grumblerHost, version := some none }
    let s : Session Workbench := { (Session.opened w 1 0) with active := [run] }
    ∃ record queries,
      (s.execute (.comparing constantGenerator grumblerTools d) 0 run.id ⟨"jr $ra", "f", none⟩
        ⟨0, 0⟩).1 = .finished (.ok record) ∧
      record.status = .success ∧ record.matchPercentage = some 100 ∧
      record.discrepancies = some [] ∧ record.compileErrors = [] ∧
      queries.Sublist [("cc", ["--version"])] ∧
      (s.execute (.comparing constantGenerator grumblerTools d) 0 run.id ⟨"jr $ra", "f", none⟩
        ⟨0, 0⟩).2.resources.machine.started = queries ++
          [("cc", ["-c", "/tmp/decomp-0/candidate.c", "-o", "/tmp/decomp-0/candidate.o"])] := by
  intro d run w s
  have hactive : s.find? run.id = some run := by simp [s, find?]
  obtain ⟨after, hbuilds, hreference, hdirectory⟩ := grumbler_builds
  have hpath : after.absolute (d.referenceFor ⟨"jr $ra", "f", none⟩) = "/refs/f.o" := by
    rw [Machine.absolute, hdirectory]
    decide +kernel
  exact execute_of_identical constantGenerator grumblerTools d hactive rfl rfl 0 ⟨0, 0⟩
    (by decide +kernel) rfl (by decide +kernel) (by decide +kernel) hbuilds (hpath ▸ hreference)

end Session

end MatchingDecomp
