import MatchingDecomp.Compilation.Toolchain
import MatchingDecomp.Proofs.Host.Machine

/-!
# What the toolchain does to its workbench

Asking for the version is one run of the program, and what came of it is kept
(`detectVersion_of_known`, `detectVersion_of_unknown`).  Compiling a source is one run, too, once
the source has been put into a workspace of its own (`Machine.Stages`): whatever the program makes
of it, the machine is left as the run leaves it, up to files (`compileFresh_machine`).
-/

namespace MatchingDecomp

/-! ## Workspaces -/

theorem FileTree.exists?_of_read {files : FileTree} {path : String} {data : Bytes}
    (hread : files.read path = .ok data) : files.exists? path = true := by
  unfold exists?
  unfold read at hread
  cases hlook : files.look path with
  | ok node => rfl
  | error e =>
      rw [hlook] at hread
      cases hread

theorem FileTree.hasNul_of_write {t files : FileTree} {path : String} {data : Bytes}
    (hwrite : t.write path data = .ok files) : Machine.hasNul path = false := by
  cases hnul : Machine.hasNul path with
  | false => rfl
  | true =>
      have hnames : names path = .error .nulInPath := by
        unfold Machine.hasNul at hnul
        rw [names, if_pos hnul]
      have hfailed : t.write path data = .error .nulInPath := by
        simp only [write, create, locateLast, hnames, bind, Except.bind]
      rw [hfailed] at hwrite
      cases hwrite

theorem Machine.hasNul_append (first second : String) :
    hasNul (first ++ second) = (hasNul first || hasNul second) := by
  simp only [hasNul, String.toList_append, List.contains_eq_any_beq, List.any_append]

theorem Machine.hasNul_join {directory name : String} (hname : Path.isAbsolute name = false) :
    hasNul (Path.join directory name) = (hasNul directory || hasNul name) := by
  have hslash : hasNul "/" = false := by decide
  unfold Path.join
  rw [hname, if_neg Bool.false_ne_true]
  split
  · exact hasNul_append directory name
  · rw [hasNul_append, hasNul_append, hslash, Bool.or_false]

/-- A workspace is made on a machine and a source is put into it: the workspace, and the machine
after that. -/
inductive Machine.Stages (source : String) (m : Machine) : String → Machine → Prop where
  | intro {made : Machine} {workspace : String} {files : FileTree}
      (hmade : m.newWorkspace = (.ok workspace, made))
      (hwritten : made.files.write (Path.join workspace "candidate.c") (Utf8.ofString source) =
        .ok files) :
      Stages source m workspace { made with files }

namespace Machine.Stages

variable {source workspace : String} {m staged : Machine}

theorem of_files {made written : FileTree}
    (hmade : m.files.makeDirectory (m.workspacePath m.workspaces) = .ok made)
    (hwritten : made.write (Path.join (m.workspacePath m.workspaces) "candidate.c")
      (Utf8.ofString source) = .ok written) :
    m.Stages source (m.workspacePath m.workspaces)
      { m with files := written, workspaces := m.workspaces + 1 } := by
  have hnew := newWorkspace_eq_ok_iff.mpr ⟨made, hmade, rfl, rfl⟩
  exact .intro hnew hwritten

theorem workspace_eq (hstages : m.Stages source workspace staged) :
    workspace = m.workspacePath m.workspaces ∧
      ∃ files, staged = { m with files, workspaces := m.workspaces + 1 } := by
  obtain ⟨hmade, hwritten⟩ := hstages
  obtain ⟨files, -, hpath, rfl⟩ := newWorkspace_eq_ok_iff.mp hmade
  exact ⟨hpath, _, rfl⟩

theorem hasNul_eq (hstages : m.Stages source workspace staged) : hasNul workspace = false := by
  obtain ⟨hmade, hwritten⟩ := hstages
  have hnul := FileTree.hasNul_of_write hwritten
  rw [hasNul_join (by decide), Bool.or_eq_false_iff] at hnul
  exact hnul.1

end Machine.Stages

/-- Whether a source can be put into a new workspace. -/
def Machine.canStage (m : Machine) (source : String) : Bool :=
  match m.files.makeDirectory (m.workspacePath m.workspaces) with
  | .ok made =>
    (made.write (Path.join (m.workspacePath m.workspaces) "candidate.c")
      (Utf8.ofString source)).isOk
  | .error _ => false

theorem Machine.canStage_iff {m : Machine} {source : String} :
    m.canStage source = true ↔ ∃ workspace staged, m.Stages source workspace staged := by
  unfold canStage
  constructor
  · intro hcan
    split at hcan
    · rename_i made hmade
      cases hwritten : made.write (Path.join (m.workspacePath m.workspaces) "candidate.c")
          (Utf8.ofString source) with
      | ok written => exact ⟨_, _, .of_files hmade hwritten⟩
      | error e =>
          rw [hwritten] at hcan
          cases hcan
    · cases hcan
  · rintro ⟨workspace, staged, hnew, hwritten⟩
    obtain ⟨made, hmade, rfl, rfl⟩ := newWorkspace_eq_ok_iff.mp hnew
    rw [hmade]
    dsimp only at hwritten ⊢
    rw [hwritten]
    rfl

theorem Workbench.lift_machinePart {α : Type} (action : StateM Machine α) (w : Workbench) :
    Workbench.machinePart.lift action w =
      ((action w.machine).1, { w with machine := (action w.machine).2 }) := rfl

namespace Toolchain

/-! ## Asking for the version -/

/-- The arguments with which the program is asked for its version. -/
def queryArguments (t : Toolchain) : List String :=
  t.arguments ++ ["--version"]

/-- What a run of the program says about its version. -/
def versionIn (t : Toolchain) (answer : ToolRun) : Option String :=
  match t.interpret answer with
  | .ok output => versionOf output
  | .error _ => none

theorem detectVersion_of_known {t : Toolchain} {w : Workbench} {version : Option String}
    (hknown : w.version = some version) : t.detectVersion w = (version, w) := by
  obtain ⟨m, known⟩ := w
  subst hknown
  rfl

theorem run_eq (t : Toolchain) (arguments : List String) (m : Machine) :
    t.run arguments m =
      (t.interpret (m.run t.path (t.arguments ++ arguments)).1,
        (m.run t.path (t.arguments ++ arguments)).2) := rfl

theorem queryVersion_eq (t : Toolchain) (m : Machine) :
    t.queryVersion m =
      ((t.interpret (m.run t.path t.queryArguments).1).map versionOf,
        (m.run t.path t.queryArguments).2) := by
  unfold queryVersion queryArguments
  simp only [bind, StateT.bind, run_eq]
  cases t.interpret (m.run t.path (t.arguments ++ ["--version"])).1 <;> rfl

theorem detectVersion_of_unknown {t : Toolchain} {w : Workbench} (hunknown : w.version = none) :
    t.detectVersion w =
      (t.versionIn (w.machine.run t.path t.queryArguments).1,
        { machine := (w.machine.run t.path t.queryArguments).2
          version := some (t.versionIn (w.machine.run t.path t.queryArguments).1) }) := by
  obtain ⟨m, known⟩ := w
  subst hunknown
  unfold detectVersion
  simp only [bind, StateT.bind, get, getThe, MonadStateOf.get, StateT.get, pure,
    Workbench.lift_machinePart, queryVersion_eq]
  unfold versionIn
  cases t.interpret (m.run t.path t.queryArguments).1 <;> rfl

/-! ## Compiling -/

/-- The arguments with which the program compiles in a workspace. -/
def compileArguments (t : Toolchain) (workspace : String) : List String :=
  t.arguments ++
    ["-c", Path.join workspace "candidate.c", "-o", Path.join workspace "candidate.o"]

theorem compileChecked_eq (t : Toolchain) (source : String) (w : Workbench) :
    t.compileChecked source w =
      ((t.compileFresh source (t.detectVersion w).2.machine).1,
        { (t.detectVersion w).2 with
          machine := (t.compileFresh source (t.detectVersion w).2.machine).2 }) := by
  unfold compileChecked
  simp only [bind, StateT.bind, Workbench.lift_machinePart]
  generalize t.detectVersion w = detected
  rfl

theorem compileIn_machine {t : Toolchain} {source workspace : String} {m : Machine}
    {files : FileTree}
    (hwritten : m.files.write (Path.join workspace "candidate.c") (Utf8.ofString source) =
      .ok files) :
    (t.compileIn workspace source m).2 =
      (({ m with files } : Machine).run t.path (t.compileArguments workspace)).2 := by
  unfold compileIn compileArguments
  generalize Path.join workspace "candidate.c" = input at hwritten ⊢
  generalize Path.join workspace "candidate.o" = object
  simp only [hwritten, run_eq]
  obtain ⟨answer, after⟩ :=
    ({ m with files } : Machine).run t.path (t.arguments ++ ["-c", input, "-o", object])
  dsimp only
  cases t.interpret answer with
  | error e => rfl
  | ok output =>
      -- the object is only looked at
      dsimp only
      cases output.status.isSuccess && after.files.exists? object with
      | false => rfl
      | true =>
          rw [if_pos rfl]
          cases after.files.read object <;> rfl

theorem hasNul_compileArguments {t : Toolchain} {workspace : String}
    (hextra : ∀ argument ∈ t.arguments, Machine.hasNul argument = false)
    (hworkspace : Machine.hasNul workspace = false) :
    ∀ argument ∈ t.compileArguments workspace, Machine.hasNul argument = false := by
  have hjoin {name : String} (hrelative : Path.isAbsolute name = false)
      (hname : Machine.hasNul name = false) :
      Machine.hasNul (Path.join workspace name) = false := by
    rw [Machine.hasNul_join hrelative, hworkspace, hname, Bool.or_false]
  rw [compileArguments, List.forall_mem_append]
  refine ⟨hextra, ?_⟩
  simp only [List.forall_mem_cons]
  exact ⟨by decide, hjoin (by decide) (by decide), by decide, hjoin (by decide) (by decide),
    List.forall_mem_nil _⟩

/-- A program that can be asked for its version can be given a source in a workspace. -/
theorem canStart_of_stages {t : Toolchain} {source workspace : String} {m staged : Machine}
    {program : Program} (hstages : m.Stages source workspace staged)
    (hstart : m.CanStart t.path t.queryArguments program) :
    staged.CanStart t.path (t.compileArguments workspace) program := by
  obtain ⟨-, files, rfl⟩ := hstages.workspace_eq
  have hfound := Machine.find_eq_ok_iff.mp hstart.found
  refine ⟨Machine.find_eq_ok_iff.mpr hfound, hstart.command_nul, ?_⟩
  apply hasNul_compileArguments _ hstages.hasNul_eq
  intro argument hargument
  exact hstart.arguments_nul argument (List.mem_append_left _ hargument)

/-- A compilation in a workspace runs the program once, and what else it does concerns files. -/
theorem compileFresh_machine {t : Toolchain} {source workspace : String} {m staged : Machine}
    {program : Program} (hstages : m.Stages source workspace staged)
    (hstart : staged.CanStart t.path (t.compileArguments workspace) program) :
    ∃ files, (t.compileFresh source m).2 =
      staged.ran t.path (t.compileArguments workspace) files := by
  have hrun := Machine.run_of_canStart hstart
  obtain ⟨hmade, hwritten⟩ := hstages
  have hcompiled := compileIn_machine (t := t) hwritten
  rw [hrun] at hcompiled
  unfold compileFresh
  simp only [hmade]
  generalize t.compileIn workspace source _ = compiled at hcompiled
  obtain ⟨answer, after⟩ := compiled
  dsimp only at hcompiled ⊢
  subst hcompiled
  split
  · exact ⟨_, rfl⟩
  · obtain ⟨files, hdropped⟩ := Machine.dropWorkspace_eq (Machine.ran _ _ _ _) workspace
    exact ⟨files, hdropped⟩

/-- A program that ends well and leaves an object that can be read makes an outcome with success,
and its workspace is kept. -/
theorem compileFresh_of_object {source workspace : String} {m staged after : Machine}
    (hstages : m.Stages source workspace staged) {t : Toolchain} {output : ToolOutput}
    (hrun : staged.run t.path (t.compileArguments workspace) = (.finished output, after))
    (hsuccess : output.status.isSuccess = true) {data : Bytes}
    (hobject : after.files.read (Path.join workspace "candidate.o") = .ok data) :
    t.compileFresh source m =
      (.ok (.succeeded
          { path := Path.join workspace "candidate.o"
            digest := Sha256.hex data
            workspace := some workspace }
          (warnings (Utf8.lossy output.stderr))), after) := by
  obtain ⟨hmade, hwritten⟩ := hstages
  rw [compileArguments] at hrun
  unfold compileFresh compileIn
  simp only [hmade, hwritten, run_eq, hrun, interpret, hsuccess, FileTree.exists?_of_read hobject,
    Bool.and_self, if_true, hobject]
  rfl

end Toolchain

end MatchingDecomp
