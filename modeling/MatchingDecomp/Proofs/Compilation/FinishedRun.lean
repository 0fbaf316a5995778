import MatchingDecomp.Proofs.Compilation.Toolchain
import MatchingDecomp.Proofs.Text.Search

/-!
# What a finished run of the compiler is turned into

Once the compiler has ended, three things decide what a compilation answers: the status it ended
with, what it printed as diagnostics, and what there is at the path of the object
(`Toolchain.FinishedRun`).  There are only three ways on from there (`FinishedRun.Ending`):

* it ended well and the object cannot be read: the answer is the error of the reading;
* it ended well and the object can be read: the outcome has the object, and no errors;
* anything else: the outcome has no object, and it has errors, if need be the status itself.

In both outcomes the lines of the diagnostics are divided in the same way: a line that mentions a
warning is a warning, and one that does not, but mentions an error, is an error.

Nothing is assumed about the surroundings, where an object may be unreadable for any reason.  A
`BuildHost` has files and programs of any kind, and a machine is one of them
(`Toolchain.compileOn_buildHost`).

Main statement: `Toolchain.outcome_of_finished_run`.
-/

namespace MatchingDecomp

open Text

variable {σ : Type}

theorem ExitStatus.isSuccess_iff {status : ExitStatus} :
    status.isSuccess = true ↔ status = .code 0 := by
  unfold isSuccess
  split
  · exact iff_of_true rfl rfl
  · exact iff_of_false Bool.false_ne_true ‹_›

namespace Toolchain

/-! ## Diagnostics -/

/-- The trimmed lines of the diagnostics that are not empty. -/
def diagnostics (stderr : Bytes) : List (List Char) :=
  ((lines (Utf8.lossy stderr)).map trim).filter (· ≠ [])

/-- A word occurs in the lower-case letters of a line. -/
def Says (word : String) (line : List Char) : Prop :=
  word.toList <:+: lower line

instance (word : String) (line : List Char) : Decidable (Says word line) :=
  inferInstanceAs (Decidable (_ <:+: _))

/-- The diagnostics that mention a warning. -/
def warningLines (stderr : Bytes) : List String :=
  ((diagnostics stderr).filter (Says "warning" ·)).map String.ofList

/-- The other diagnostics that mention an error. -/
def errorLines (stderr : Bytes) : List String :=
  ((diagnostics stderr).filter fun line => ¬ Says "warning" line ∧ Says "error" line).map
    String.ofList

theorem contentLines_lossy (stderr : Bytes) :
    contentLines (Utf8.lossy stderr) = diagnostics stderr := by
  apply List.filter_congr
  intro line _
  rw [Bool.eq_iff_iff]
  simp

theorem mentionsWord_eq (word : String) (line : List Char) :
    mentionsWord word line = decide (Says word line) := by
  rw [mentionsWord, Bool.eq_iff_iff, occursIn_iff_infix, decide_eq_true_iff, Says]

theorem warnings_lossy (stderr : Bytes) :
    warnings (Utf8.lossy stderr) = warningLines stderr := by
  rw [warnings, warningLines, contentLines_lossy]
  congr 1
  apply List.filter_congr
  intro line _
  exact mentionsWord_eq "warning" line

theorem errors_lossy (stderr : Bytes) :
    errors (Utf8.lossy stderr) = errorLines stderr := by
  rw [errors, errorLines, contentLines_lossy]
  congr 1
  apply List.filter_congr
  intro line _
  rw [mentionsWord_eq, mentionsWord_eq, Bool.decide_and, decide_not]

/-- The errors of a compilation without an object: the status stands in for missing ones. -/
def errorsOf (output : ToolOutput) : List String :=
  if errorLines output.stderr = [] then ["compiler exited with " ++ output.status.text]
  else errorLines output.stderr

theorem errorsOf_ne_nil (output : ToolOutput) : errorsOf output ≠ [] := by
  unfold errorsOf
  split
  · exact List.cons_ne_nil _ _
  · assumption

theorem failure_eq (output : ToolOutput) :
    failure output = .failed (errorsOf output) (warningLines output.stderr) := by
  simp only [failure, errors_lossy, warnings_lossy, errorsOf, List.isEmpty_iff]

/-! ## Finished runs -/

/-- What a compiler that has ended leaves to be reported: its workspace, its status and what it
printed, and at the path of the object something or nothing. -/
structure FinishedRun where
  workspace : String
  output : ToolOutput
  found : Bool
  contents : Except OsError Bytes

namespace FinishedRun

/-- The compiler ended well, and left an object. -/
def HasObject (r : FinishedRun) : Prop :=
  r.output.status = .code 0 ∧ r.found = true

instance (r : FinishedRun) : Decidable r.HasObject :=
  inferInstanceAs (Decidable (_ ∧ _))

/-- The object of a run, with its data. -/
def artifact (r : FinishedRun) (data : Bytes) : Artifact :=
  { path := Path.join r.workspace "candidate.o"
    digest := Sha256.hex data
    workspace := some r.workspace }

/-- The answer to a run. -/
def answer (r : FinishedRun) : Except CompilerError Outcome :=
  match r.output.status.isSuccess && r.found, r.contents with
  | true, .error e => .error (.io e)
  | true, .ok data => .ok (.succeeded (r.artifact data) (warnings (Utf8.lossy r.output.stderr)))
  | false, _ => .ok (failure r.output)

/-- The ways from a run to its answer. -/
inductive Ending (r : FinishedRun) : Except CompilerError Outcome → Prop where
  | unreadable {e : OsError} (hobject : r.HasObject) (hcontents : r.contents = .error e) :
      Ending r (.error (.io e))
  | object {data : Bytes} (hobject : r.HasObject) (hcontents : r.contents = .ok data) :
      Ending r (.ok (.succeeded (r.artifact data) (warningLines r.output.stderr)))
  | noObject (hnone : ¬ r.HasObject) :
      Ending r (.ok (.failed (errorsOf r.output) (warningLines r.output.stderr)))

theorem ending_answer (r : FinishedRun) : r.Ending r.answer := by
  have hguard : (r.output.status.isSuccess && r.found) = true ↔ r.HasObject := by
    rw [Bool.and_eq_true, ExitStatus.isSuccess_iff, HasObject]
  unfold answer
  cases hended : r.output.status.isSuccess && r.found with
  | true =>
      have hobject := hguard.mp hended
      cases hcontents : r.contents with
      | error e => exact .unreadable hobject hcontents
      | ok data =>
          dsimp only
          rw [warnings_lossy]
          exact .object hobject hcontents
  | false =>
      dsimp only
      rw [failure_eq]
      exact .noObject (hguard.not.mp (Bool.eq_false_iff.mp hended))

/-! ## What the answers say -/

/-- An outcome tells what a run came to: whether there is an object, with the digest of its data,
and the diagnostics. -/
structure Tells (r : FinishedRun) (outcome : Outcome) : Prop where
  success_iff : outcome.success = true ↔ r.output.status = .code 0 ∧ r.found = true
  object : outcome.success = true → outcome.errors = [] ∧
    ∃ artifact data, outcome.artifact = some artifact ∧ r.contents = .ok data ∧
      artifact.digest = Sha256.hex data
  no_object : outcome.success = false → outcome.artifact = none ∧ outcome.errors ≠ []
  warnings_eq : outcome.warnings = warningLines r.output.stderr
  errors_eq : outcome.success = false → outcome.errors =
    if errorLines r.output.stderr = [] then ["compiler exited with " ++ r.output.status.text]
    else errorLines r.output.stderr

theorem tells_succeeded {r : FinishedRun} (hobject : r.HasObject) {data : Bytes}
    (hcontents : r.contents = .ok data) :
    r.Tells (.succeeded (r.artifact data) (warningLines r.output.stderr)) where
  success_iff := iff_of_true rfl hobject
  object := fun _ => ⟨rfl, r.artifact data, data, rfl, hcontents, rfl⟩
  no_object := nofun
  warnings_eq := rfl
  errors_eq := nofun

theorem tells_failed {r : FinishedRun} (hnone : ¬ r.HasObject) :
    r.Tells (.failed (errorsOf r.output) (warningLines r.output.stderr)) where
  success_iff := iff_of_false Bool.false_ne_true hnone
  object := nofun
  no_object := fun _ => ⟨rfl, errorsOf_ne_nil r.output⟩
  warnings_eq := rfl
  errors_eq := fun _ => rfl

/-- An answer accounts for a run: it is an error exactly if an object is there that cannot be read,
and else an outcome that tells what the run came to. -/
structure Accounts (r : FinishedRun) (answer : Except CompilerError Outcome) : Prop where
  io_iff : ∀ e, answer = .error (.io e) ↔
    r.output.status = .code 0 ∧ r.found = true ∧ r.contents = .error e
  outcome : (∀ e, answer ≠ .error (.io e)) → ∃ outcome, answer = .ok outcome ∧ r.Tells outcome

theorem Ending.accounts {r : FinishedRun} {answer : Except CompilerError Outcome}
    (hending : r.Ending answer) : r.Accounts answer := by
  cases hending with
  | @unreadable cause hobject hcontents =>
      refine ⟨fun e => ?_, fun hno => absurd rfl (hno cause)⟩
      rw [hcontents, and_iff_right hobject.1, and_iff_right hobject.2]
      simp
  | @object data hobject hcontents =>
      refine ⟨fun e => ?_, fun _ => ⟨_, rfl, tells_succeeded hobject hcontents⟩⟩
      rw [hcontents]
      simp
  | noObject hnone =>
      refine ⟨fun e => iff_of_false nofun ?_, fun _ => ⟨_, rfl, tells_failed hnone⟩⟩
      exact fun hunreadable => hnone ⟨hunreadable.1, hunreadable.2.1⟩

end FinishedRun

end Toolchain

/-! ## Compiling on any host -/

/-- What a compilation asks of its surroundings. -/
structure BuildHost (σ : Type) where
  newWorkspace : StateM σ (Except OsError String)
  dropWorkspace : String → σ → σ
  write : String → Bytes → StateM σ (Except OsError Unit)
  run : String → List String → StateM σ ToolRun
  exists? : String → σ → Bool
  read : String → σ → Except OsError Bytes

/-- Machines as a host. -/
def Machine.buildHost : BuildHost Machine where
  newWorkspace := Machine.newWorkspace
  dropWorkspace := fun path m => m.dropWorkspace path
  write := fun path data m =>
    match m.files.write path data with
    | .ok files => (.ok (), { m with files })
    | .error e => (.error e, m)
  run := fun command arguments m => m.run command arguments
  exists? := fun path m => m.files.exists? path
  read := fun path m => m.files.read path

theorem Machine.buildHost_newWorkspace (m : Machine) :
    Machine.buildHost.newWorkspace m = m.newWorkspace := by
  simp only [buildHost]

theorem Machine.buildHost_run (command : String) (arguments : List String) (m : Machine) :
    Machine.buildHost.run command arguments m = m.run command arguments := by
  simp only [buildHost]

namespace BuildHost

/-- A workspace is made on a host and a source is put into it. -/
inductive Stages (h : BuildHost σ) (source : String) (s : σ) : String → σ → Prop where
  | intro {made staged : σ} {workspace : String}
      (hmade : h.newWorkspace s = (.ok workspace, made))
      (hwritten : h.write (Path.join workspace "candidate.c") (Utf8.ofString source) made =
        (.ok (), staged)) :
      Stages h source s workspace staged

/-- What there is to be reported about a compiler that has ended and left the host like this. -/
def finished (h : BuildHost σ) (workspace : String) (output : ToolOutput) (after : σ) :
    Toolchain.FinishedRun where
  workspace := workspace
  output := output
  found := h.exists? (Path.join workspace "candidate.o") after
  contents := h.read (Path.join workspace "candidate.o") after

end BuildHost

theorem Machine.Stages.buildHost {source workspace : String} {m staged : Machine}
    (hstages : m.Stages source workspace staged) :
    Machine.buildHost.Stages source m workspace staged := by
  obtain ⟨hmade, hwritten⟩ := hstages
  refine .intro ((Machine.buildHost_newWorkspace m).trans hmade) ?_
  simp only [Machine.buildHost, hwritten]

namespace Toolchain

/-- Compile a source in a workspace of a host. -/
def compileInOn (t : Toolchain) (h : BuildHost σ) (workspace source : String) :
    StateM σ (Except CompilerError Outcome) := fun s =>
  match h.write (Path.join workspace "candidate.c") (Utf8.ofString source) s with
  | (.error e, s) => (.error (.io e), s)
  | (.ok (), s) =>
    let (answer, s) := h.run t.path (t.compileArguments workspace) s
    match t.interpret answer with
    | .error e => (.error e, s)
    | .ok output => ((h.finished workspace output s).answer, s)

/-- Compile a source on a host. -/
def compileOn (t : Toolchain) (h : BuildHost σ) (source : String) :
    StateM σ (Except CompilerError Outcome) := fun s =>
  match h.newWorkspace s with
  | (.error e, s) => (.error (.io e), s)
  | (.ok workspace, s) =>
    let (answer, s) := t.compileInOn h workspace source s
    (answer, if keepsWorkspace answer then s else h.dropWorkspace workspace s)

theorem compileInOn_buildHost (t : Toolchain) (workspace source : String) (m : Machine) :
    t.compileInOn Machine.buildHost workspace source m = t.compileIn workspace source m := by
  unfold compileInOn compileIn Machine.buildHost compileArguments
  simp only [run_eq]
  cases m.files.write (Path.join workspace "candidate.c") (Utf8.ofString source) with
  | error e => rfl
  | ok files =>
      dsimp only
      generalize Machine.run _ t.path _ = ran
      obtain ⟨answer, after⟩ := ran
      dsimp only
      cases t.interpret answer with
      | error e => rfl
      | ok output =>
          simp only [FinishedRun.answer, BuildHost.finished, FinishedRun.artifact]
          generalize Path.join workspace "candidate.o" = object
          cases output.status.isSuccess && after.files.exists? object with
          | false => rfl
          | true =>
              rw [if_pos rfl]
              cases after.files.read object <;> rfl

/-- On machines it is the toolchain's own way of compiling. -/
theorem compileOn_buildHost (t : Toolchain) (source : String) (m : Machine) :
    t.compileOn Machine.buildHost source m = t.compileFresh source m := by
  unfold compileOn compileFresh
  simp only [compileInOn_buildHost, Machine.buildHost_newWorkspace]
  obtain ⟨answer, made⟩ := m.newWorkspace
  cases answer <;> rfl

theorem compileOn_of_finished {t : Toolchain} {h : BuildHost σ} {source workspace : String}
    {s staged after : σ} {output : ToolOutput} (hstages : h.Stages source s workspace staged)
    (hrun : h.run t.path (t.compileArguments workspace) staged = (.finished output, after)) :
    (t.compileOn h source s).1 = (h.finished workspace output after).answer := by
  obtain ⟨hmade, hwritten⟩ := hstages
  simp only [compileOn, compileInOn, hmade, hwritten, hrun, interpret]

/-- **A finished run of the compiler is accounted for.**  After the version is known, a toolchain
compiles on its machine as it does on any host.  And on any host on which a workspace can be made
and the source be put into it: whatever the compiler then does, if it ends, the answer accounts for
its status, for its diagnostics and for what there is in the place of the object. -/
theorem outcome_of_finished_run (t : Toolchain) (source : String) :
    (∀ w : Workbench, (t.compileChecked source w).1 =
      (t.compileOn Machine.buildHost source (t.detectVersion w).2.machine).1) ∧
    ∀ (σ : Type) (h : BuildHost σ) (s staged after : σ) (workspace : String)
      (output : ToolOutput), h.Stages source s workspace staged →
      h.run t.path (t.compileArguments workspace) staged = (.finished output, after) →
      (h.finished workspace output after).Accounts (t.compileOn h source s).1 := by
  constructor
  · intro w
    rw [compileChecked_eq, compileOn_buildHost]
  · intro σ h s staged after workspace output hstages hrun
    rw [compileOn_of_finished hstages hrun]
    exact (FinishedRun.ending_answer _).accounts

/-- A program that leaves something in the place of the object, and ends. -/
def leaving (object : Node) (output : ToolOutput) : Program := fun _ files =>
  (some output, files.set ["tmp", "decomp-0", "candidate.o"] object)

/-- A machine with such a compiler. -/
def leavingHost (object : Node) (output : ToolOutput) : Machine :=
  { files := ⟨[(["tmp"], .directory)]⟩, programs := [("cc", leaving object output)] }

/-- A toolchain that runs it. -/
def leavingTools : Toolchain :=
  { path := "cc", arguments := [], timeout := ⟨1⟩ }

/-- The files of that machine while the source is compiled. -/
def leavingFiles : FileTree :=
  ⟨[(["tmp", "decomp-0", "candidate.c"], .file (Utf8.ofString "f()")),
    (["tmp", "decomp-0"], .directory), (["tmp"], .directory)]⟩

theorem leavingHost_finishes (object : Node) (output : ToolOutput) :
    ∃ staged after : Machine,
      Machine.buildHost.Stages "f()" (leavingHost object output) "/tmp/decomp-0" staged ∧
      Machine.buildHost.run leavingTools.path (leavingTools.compileArguments "/tmp/decomp-0")
        staged = (.finished output, after) ∧
      after.files = leavingFiles.set ["tmp", "decomp-0", "candidate.o"] object := by
  let m := leavingHost object output
  have hworkspace : m.workspacePath m.workspaces = "/tmp/decomp-0" := by
    unfold Machine.workspacePath
    show Path.join "/tmp" ("decomp-" ++ Decimal.text 0) = _
    decide +kernel
  have hmade : m.files.makeDirectory "/tmp/decomp-0" =
      .ok ⟨[(["tmp", "decomp-0"], .directory), (["tmp"], .directory)]⟩ := by
    show FileTree.makeDirectory ⟨[(["tmp"], .directory)]⟩ _ = _
    decide +kernel
  have hwritten : FileTree.write ⟨[(["tmp", "decomp-0"], .directory), (["tmp"], .directory)]⟩
      (Path.join "/tmp/decomp-0" "candidate.c") (Utf8.ofString "f()") = .ok leavingFiles := by
    decide +kernel
  rw [← hworkspace] at hmade hwritten
  have hstages := Machine.Stages.of_files hmade hwritten
  have hstart : m.CanStart leavingTools.path leavingTools.queryArguments (leaving object output) :=
    ⟨Machine.find_eq_ok_iff.mpr rfl, by decide, by decide⟩
  have hrun := Machine.run_of_canStart (canStart_of_stages hstages hstart)
  rw [hworkspace] at hstages hrun
  exact ⟨_, _, hstages.buildHost, (Machine.buildHost_run ..).trans hrun, rfl⟩

/-- The diagnostics of a compiler that crashes, with a byte that is no text. -/
def lastWords : ToolOutput :=
  { status := .signal 11 true
    stderr := Utf8.ofString "Warning: error?\n\nnote\r\n\tErr" ++
      0xFF :: Utf8.ofString "ERROR \r\n" }

/-- A compiler that crashes although it has left an object, and one that leaves a directory. -/
theorem outcome_of_crash :
    let crashing := leavingHost (.file [127]) lastWords
    let misleading := leavingHost .directory {}
    (∃ outcome,
      (leavingTools.compileChecked "f()" { machine := crashing, version := some none }).1 =
        .ok outcome ∧
      outcome.artifact = none ∧ outcome.errors = ["Err\uFFFDERROR"] ∧
      outcome.warnings = ["Warning: error?"]) ∧
    (leavingTools.compileChecked "f()" { machine := misleading, version := some none }).1 =
      .error (.io .isDirectory) := by
  intro crashing misleading
  obtain ⟨hchecked, haccounts⟩ := outcome_of_finished_run leavingTools "f()"
  constructor
  · obtain ⟨staged, after, hstages, hrun, -⟩ := leavingHost_finishes (.file [127]) lastWords
    have hanswer := haccounts Machine Machine.buildHost crashing staged after _ _ hstages hrun
    obtain ⟨outcome, hok, htells⟩ := hanswer.outcome fun e hio => by
      cases ((hanswer.io_iff e).mp hio).1
    have hfailed : outcome.success = false := by
      rw [← Bool.not_eq_true, htells.success_iff]
      exact fun hended => by cases hended.1
    refine ⟨outcome, (hchecked _).trans hok, (htells.no_object hfailed).1, ?_, ?_⟩
    · have herrors : errorLines lastWords.stderr = ["Err\uFFFDERROR"] := by decide +kernel
      rw [htells.errors_eq hfailed]
      show (if errorLines lastWords.stderr = [] then _ else errorLines lastWords.stderr) = _
      rw [herrors, if_neg (List.cons_ne_nil _ _)]
    · rw [htells.warnings_eq]
      show warningLines lastWords.stderr = _
      decide +kernel
  · obtain ⟨staged, after, hstages, hrun, hfiles⟩ := leavingHost_finishes .directory {}
    have hanswer := haccounts Machine Machine.buildHost misleading staged after _ _ hstages hrun
    have hfound : after.files.exists? (Path.join "/tmp/decomp-0" "candidate.o") = true := by
      rw [hfiles]
      decide +kernel
    have hcontents : after.files.read (Path.join "/tmp/decomp-0" "candidate.o") =
        .error .isDirectory := by
      rw [hfiles]
      decide +kernel
    rw [hchecked]
    exact (hanswer.io_iff .isDirectory).mpr ⟨rfl, hfound, hcontents⟩

end Toolchain

end MatchingDecomp
