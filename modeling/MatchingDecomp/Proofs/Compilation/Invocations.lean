import Mathlib.Data.List.TakeWhile
import MatchingDecomp.Proofs.Compilation.Toolchain

/-!
# The invocations of a toolchain

A toolchain that is asked for compilations, for its version and for its description in any order
starts its program first of all for the version, and after that once for each source with balanced
brackets.  As long as nothing of that kind was asked for, the program is not started at all.

The workbench of such a toolchain is in one of two conditions: untouched, or at work
(`Toolchain.atWork`), with a version that is settled and a list of sources that were compiled.
`Toolchain.Served` says which one it is after a sequence of requests; one more request keeps it true
(`Toolchain.Served.serve`), and so does a whole sequence (`Toolchain.Served.serveAll`).

Main statement: `Toolchain.invocations_eq`.
-/

namespace MatchingDecomp

theorem Text.trim_eq_nil_iff (cs : List Char) : trim cs = [] ↔ allBlank cs = true := by
  have hleading : ∀ c ∈ cs.takeWhile isBlank, isBlank c = true := fun c hc =>
    List.mem_takeWhile_imp hc
  calc trim cs = []
      ↔ ∀ c ∈ cs.dropWhile isBlank, isBlank c = true := by
        simp only [trim, trimEnd, trimStart, List.reverse_eq_nil_iff, List.dropWhile_eq_nil_iff,
          List.mem_reverse]
    _ ↔ ∀ c ∈ cs.takeWhile isBlank ++ cs.dropWhile isBlank, isBlank c = true := by
        rw [List.forall_mem_append, and_iff_right hleading]
    _ ↔ allBlank cs = true := by
        rw [List.takeWhile_append_dropWhile, allBlank, List.all_eq_true]

namespace Toolchain

/-! ## Requests -/

/-- What a toolchain can be asked for. -/
inductive Request where
  | compile (source : String)
  | describe
  | detectVersion
  deriving DecidableEq, Repr

/-- The source that a request brings to the program. -/
def Request.source? : Request → Option String
  | .compile source => if Source.isBalanced source then some source else none
  | .describe => none
  | .detectVersion => none

/-- Whether a request needs the program. -/
def Request.needsProgram : Request → Bool
  | .compile source => Source.isBalanced source
  | .describe => false
  | .detectVersion => true

/-- The workbench after a request. -/
def serve (t : Toolchain) (w : Workbench) : Request → Workbench
  | .compile source => (t.compiler.compile source w).2
  | .describe => w
  | .detectVersion => (t.detectVersion w).2

/-- The workbench after a sequence of requests. -/
def serveAll (t : Toolchain) (w : Workbench) (requests : List Request) : Workbench :=
  requests.foldl t.serve w

/-- Whether each source that a sequence of requests brings to the program can be put into a
workspace, at the time when it is its turn. -/
def canServe (t : Toolchain) (w : Workbench) : List Request → Bool
  | [] => true
  | request :: rest =>
    request.source?.all (t.detectVersion w).2.machine.canStage &&
      t.canServe (t.serve w request) rest

/-- The version that a program announces: the first line it prints that is not blank, trimmed,
provided that it ends, and ends well. -/
def announced : Option ToolOutput → Option String
  | some output =>
    if output.status.isSuccess then
      ((Text.lines (Utf8.lossy output.stdout)).find? (!Text.allBlank ·)).map
        fun line => String.ofList (Text.trim line)
    else none
  | none => none

theorem versionIn_ofAnswer (t : Toolchain) (answer : Option ToolOutput) :
    t.versionIn (.ofAnswer answer) = announced answer := by
  cases answer with
  | none => rfl
  | some output =>
      have hline : Text.firstContentLine (Utf8.lossy output.stdout) =
          ((Text.lines (Utf8.lossy output.stdout)).find? (!Text.allBlank ·)).map
            fun line => String.ofList (Text.trim line) := by
        have hempty (line : List Char) : (Text.trim line).isEmpty = Text.allBlank line := by
          rw [Bool.eq_iff_iff, List.isEmpty_iff, Text.trim_eq_nil_iff]
        simp only [Text.firstContentLine, Text.contentLines, List.head?_filter, List.find?_map,
          Option.map_map, Function.comp_def, hempty]
      simp only [ToolRun.ofAnswer, versionIn, interpret, versionOf, announced, hline]

/-! ## A workbench at work -/

/-- The invocations for the version and for sources, on a machine that has made no workspace for
them yet. -/
def invocationsFor (t : Toolchain) (m : Machine) (sources : List String) : List (List String) :=
  t.queryArguments ::
    sources.mapIdx fun i _ => t.compileArguments (m.workspacePath (m.workspaces + i))

/-- The invocations that a sequence of requests leads to. -/
def invocations (t : Toolchain) (m : Machine) (requests : List Request) : List (List String) :=
  if requests.any Request.needsProgram then
    t.invocationsFor m (requests.filterMap Request.source?)
  else []

/-- The machine after the program was asked for its version and was given sources. -/
def atWork (t : Toolchain) (m : Machine) (sources : List String) (files : FileTree) : Machine :=
  { m with
    files
    workspaces := m.workspaces + sources.length
    started := m.started ++ (t.invocationsFor m sources).map (t.path, ·) }

section

variable {t : Toolchain} {m : Machine} {program : Program}

theorem detectVersion_of_untouched (hstart : m.CanStart t.path t.queryArguments program) :
    ∃ files, (t.detectVersion { machine := m }).2 =
      { machine := t.atWork m [] files
        version := some (announced (program t.queryArguments m.files).1) } := by
  rw [detectVersion_of_unknown rfl, Machine.run_of_canStart hstart, versionIn_ofAnswer]
  exact ⟨_, rfl⟩

/-- One more source for a machine at work: whatever the program makes of it, it is started once. -/
theorem compileFresh_atWork (hstart : m.CanStart t.path t.queryArguments program)
    {sources : List String} {files : FileTree} {source workspace : String} {staged : Machine}
    (hstages : (t.atWork m sources files).Stages source workspace staged) :
    ∃ after, (t.compileFresh source (t.atWork m sources files)).2 =
      t.atWork m (sources ++ [source]) after := by
  have hwork : (t.atWork m sources files).CanStart t.path t.queryArguments program :=
    ⟨Machine.find_eq_ok_iff.mpr (Machine.find_eq_ok_iff.mp hstart.found :),
      hstart.command_nul, hstart.arguments_nul⟩
  obtain ⟨after, hafter⟩ := compileFresh_machine hstages (canStart_of_stages hstages hwork)
  obtain ⟨hworkspace, written, rfl⟩ := hstages.workspace_eq
  refine ⟨after, hafter.trans ?_⟩
  rw [hworkspace]
  simp only [Machine.ran, atWork, invocationsFor, List.mapIdx_concat, List.length_append,
    List.length_singleton, List.map_cons, List.map_append, List.map_nil, List.append_assoc,
    List.cons_append, Nat.add_assoc]
  rfl

/-! ## Serving requests -/

theorem Request.source?_eq_none {request : Request} (hquiet : request.needsProgram = false) :
    request.source? = none := by
  cases request with
  | compile source => exact if_neg (Bool.eq_false_iff.mp hquiet)
  | describe => rfl
  | detectVersion => cases hquiet

theorem serve_of_quiet (w : Workbench) {request : Request} (hquiet : request.needsProgram = false) :
    t.serve w request = w := by
  cases request with
  | compile source =>
      have hgate : ¬ Source.isBalanced source = true := Bool.eq_false_iff.mp hquiet
      simp only [serve, Compiler.compile, if_neg hgate]
      rfl
  | describe => rfl
  | detectVersion => cases hquiet

variable (t m program) in
/-- The condition of a workbench after requests: at work if one of them needed the program, and else
untouched. -/
def Served (requests : List Request) (w : Workbench) : Prop :=
  if requests.any Request.needsProgram then
    ∃ files, w =
      { machine := t.atWork m (requests.filterMap Request.source?) files
        version := some (announced (program t.queryArguments m.files).1) }
  else w = { machine := m }

theorem Served.detectVersion (hstart : m.CanStart t.path t.queryArguments program)
    {requests : List Request} {w : Workbench} (hserved : Served t m program requests w) :
    ∃ files, (t.detectVersion w).2 =
      { machine := t.atWork m (requests.filterMap Request.source?) files
        version := some (announced (program t.queryArguments m.files).1) } := by
  unfold Served at hserved
  cases hneeds : requests.any Request.needsProgram with
  | true =>
      rw [if_pos hneeds] at hserved
      obtain ⟨files, rfl⟩ := hserved
      exact ⟨files, congrArg Prod.snd (detectVersion_of_known rfl)⟩
  | false =>
      rw [if_neg (Bool.eq_false_iff.mp hneeds)] at hserved
      have hnone : requests.filterMap Request.source? = [] := by
        rw [List.filterMap_eq_nil_iff]
        intro request hrequest
        apply Request.source?_eq_none
        exact Bool.eq_false_iff.mpr (List.any_eq_false.mp hneeds request hrequest)
      rw [hserved, hnone]
      exact detectVersion_of_untouched hstart

theorem Served.serve (hstart : m.CanStart t.path t.queryArguments program)
    {requests : List Request} {w : Workbench} (hserved : Served t m program requests w)
    {request : Request}
    (hstage : request.source?.all (t.detectVersion w).2.machine.canStage = true) :
    Served t m program (requests ++ [request]) (t.serve w request) := by
  cases hneeds : request.needsProgram with
  | false =>
      rw [serve_of_quiet w hneeds]
      simpa only [Served, List.any_append, List.any_cons, List.any_nil, hneeds, Bool.or_false,
        List.filterMap_append, List.filterMap_cons, List.filterMap_nil,
        Request.source?_eq_none hneeds, List.append_nil] using hserved
  | true =>
      obtain ⟨files, hdetected⟩ := hserved.detectVersion hstart
      rw [Served, if_pos (by simp only [List.any_append, List.any_cons, hneeds, Bool.true_or,
        Bool.or_true])]
      cases request with
      | describe => cases hneeds
      | detectVersion =>
          refine ⟨files, hdetected.trans ?_⟩
          rw [List.filterMap_append]
          simp only [List.filterMap_cons, Request.source?, List.filterMap_nil, List.append_nil]
      | compile source =>
          have hgate : Source.isBalanced source = true := hneeds
          rw [hdetected, Request.source?, if_pos hgate, Option.all_some, Machine.canStage_iff]
            at hstage
          obtain ⟨workspace, staged, hstaged⟩ := hstage
          obtain ⟨after, hafter⟩ := compileFresh_atWork hstart hstaged
          refine ⟨after, ?_⟩
          simp only [Toolchain.serve, Compiler.compile, if_pos hgate, compiler, compileChecked_eq,
            hdetected, hafter, List.filterMap_append, List.filterMap_cons, Request.source?,
            List.filterMap_nil]

theorem Served.serveAll (hstart : m.CanStart t.path t.queryArguments program)
    {before : List Request} {w : Workbench} (hserved : Served t m program before w)
    {requests : List Request} (hcan : t.canServe w requests = true) :
    Served t m program (before ++ requests) (t.serveAll w requests) := by
  induction requests generalizing before w with
  | nil => rwa [List.append_nil]
  | cons request rest ih =>
      rw [canServe, Bool.and_eq_true] at hcan
      have hnext := hserved.serve hstart hcan.1
      rw [List.append_cons]
      exact ih hnext hcan.2

end

/-- On a machine where the program can be started, and where each source that is to be compiled can
be put into a workspace, a fresh toolchain starts its program for the requests as `invocations`
lists them: not at all until the program is needed, then once for the version and after that once
for each source with balanced brackets.  The version is unknown until then, and stays what that one
answer announces, whether the program ends well or not or not at all. -/
theorem invocations_eq (t : Toolchain) {m : Machine} {program : Program}
    (hstart : m.CanStart t.path t.queryArguments program) (requests : List Request)
    (hcan : t.canServe { machine := m } requests = true) :
    (t.serveAll { machine := m } requests).machine.started =
        m.started ++ (t.invocations m requests).map (t.path, ·) ∧
      t.compiler.describe (t.serveAll { machine := m } requests) =
        { path := t.path
          version :=
            if requests.any Request.needsProgram then
              announced (program t.queryArguments m.files).1
            else none } := by
  have huntouched : Served t m program [] { machine := m } := rfl
  have hserved : Served t m program requests (t.serveAll { machine := m } requests) :=
    huntouched.serveAll hstart hcan
  unfold Served at hserved
  cases hneeds : requests.any Request.needsProgram with
  | true =>
      rw [if_pos hneeds] at hserved
      obtain ⟨files, hserved⟩ := hserved
      rw [hserved, invocations, if_pos hneeds, if_pos rfl]
      exact ⟨rfl, rfl⟩
  | false =>
      rw [if_neg (Bool.eq_false_iff.mp hneeds)] at hserved
      rw [hserved, invocations, if_neg (Bool.eq_false_iff.mp hneeds), if_neg Bool.false_ne_true]
      exact ⟨(List.append_nil _).symm, rfl⟩

/-- A program that does not end when it is asked for its version, and fails to compile. -/
def stubborn : Program := fun arguments files =>
  if arguments.contains "--version" then (none, files)
  else (some { status := .code 1, stderr := Utf8.ofString "error: no" }, files)

/-- A machine on which it is installed. -/
def stubbornHost : Machine :=
  { files := ⟨[(["tmp"], .directory)]⟩, programs := [("cc", stubborn)] }

/-- A toolchain that runs it. -/
def stubbornTools : Toolchain :=
  { path := "cc", arguments := ["-O2"], timeout := ⟨1⟩ }

/-- Requests of every kind. -/
def errands : List Request :=
  [.compile ")", .describe, .compile "f()", .detectVersion, .compile "[]"]

/-- The program does not answer, and is not asked again. -/
theorem invocations_of_stubborn :
    (stubbornTools.serveAll { machine := stubbornHost } errands).machine.started =
        [("cc", ["-O2", "--version"]),
          ("cc", ["-O2", "-c", "/tmp/decomp-0/candidate.c", "-o", "/tmp/decomp-0/candidate.o"]),
          ("cc", ["-O2", "-c", "/tmp/decomp-1/candidate.c", "-o", "/tmp/decomp-1/candidate.o"])] ∧
      stubbornTools.compiler.describe (stubbornTools.serveAll { machine := stubbornHost } errands) =
        { path := "cc", version := none } := by
  have hstart : stubbornHost.CanStart stubbornTools.path stubbornTools.queryArguments stubborn :=
    ⟨Machine.find_eq_ok_iff.mpr rfl, by decide, by decide⟩
  obtain ⟨hstarted, hdescribed⟩ :=
    stubbornTools.invocations_eq hstart errands (by decide +kernel)
  rw [hstarted, hdescribed]
  decide +kernel

end Toolchain

end MatchingDecomp
