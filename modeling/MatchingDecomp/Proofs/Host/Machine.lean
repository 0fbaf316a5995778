import MatchingDecomp.Host.Machine

/-!
# What running a program changes on a machine

A program that is started is written down, and it may change files; a workspace that is made changes
files and is counted.  Nothing else about the machine changes: neither the installed programs
(`Machine.installed?`) nor the directory for temporary files.
-/

namespace MatchingDecomp

/-- What came of a program that was started. -/
def ToolRun.ofAnswer : Option ToolOutput → ToolRun
  | some output => .finished output
  | none => .timedOut

namespace Machine

/-! ## Starting a program -/

/-- The program that is installed under a command. -/
def installed? (m : Machine) (command : String) : Option Program :=
  m.programs.lookup (if command.toList.contains '/' then m.absolute command else command)

theorem find_eq_ok_iff {m : Machine} {command : String} {program : Program} :
    m.find command = .ok program ↔ m.installed? command = some program := by
  simp only [find, installed?]
  cases m.programs.lookup (if command.toList.contains '/' then m.absolute command else command) with
  | some found => simp
  | none =>
      -- no program is found among the files
      simp only [reduceCtorEq, iff_false]
      intro hfind
      split at hfind
      · split at hfind <;> cases hfind
      · split at hfind
        · cases hfind
        · split at hfind <;> cases hfind

/-- A program that is installed, and to which the arguments can be passed. -/
structure CanStart (m : Machine) (command : String) (arguments : List String) (program : Program) :
    Prop where
  found : m.find command = .ok program
  command_nul : hasNul command = false
  arguments_nul : ∀ argument ∈ arguments, hasNul argument = false

/-- The machine after a program has run and left files behind. -/
def ran (m : Machine) (command : String) (arguments : List String) (files : FileTree) : Machine :=
  { m with files, started := m.started ++ [(command, arguments)] }

theorem run_of_canStart {m : Machine} {command : String} {arguments : List String}
    {program : Program} (hstart : m.CanStart command arguments program) :
    m.run command arguments =
      (.ofAnswer (program arguments m.files).1,
        m.ran command arguments (program arguments m.files).2) := by
  have hnul : (hasNul command || arguments.any hasNul) = false := by
    rw [hstart.command_nul, Bool.false_or, List.any_eq_false]
    intro argument hargument
    rw [hstart.arguments_nul argument hargument]
    exact Bool.false_ne_true
  unfold run
  rw [hnul, if_neg Bool.false_ne_true, hstart.found]
  dsimp only
  obtain ⟨answer, files⟩ := program arguments m.files
  cases answer <;> rfl

/-- A program that does not even start changes nothing. -/
theorem run_cases (m : Machine) (command : String) (arguments : List String) :
    (∃ cause, m.run command arguments = (.refused cause, m)) ∨
      ∃ program, m.CanStart command arguments program := by
  cases hnul : hasNul command || arguments.any hasNul with
  | true =>
      left
      unfold run
      rw [hnul, if_pos rfl]
      exact ⟨_, rfl⟩
  | false =>
      cases hfind : m.find command with
      | error e =>
          left
          unfold run
          rw [hnul, if_neg Bool.false_ne_true, hfind]
          exact ⟨e, rfl⟩
      | ok program =>
          right
          rw [Bool.or_eq_false_iff, List.any_eq_false] at hnul
          refine ⟨program, hfind, hnul.1, ?_⟩
          intro argument hargument
          exact Bool.eq_false_iff.mpr (hnul.2 argument hargument)

/-- A program that ended was started. -/
theorem run_finished {m after : Machine} {command : String} {arguments : List String}
    {output : ToolOutput} (hrun : m.run command arguments = (.finished output, after)) :
    ∃ files, after = m.ran command arguments files := by
  rcases run_cases m command arguments with ⟨cause, hrefused⟩ | ⟨program, hstart⟩
  · rw [hrefused] at hrun
    cases hrun
  · rw [run_of_canStart hstart] at hrun
    exact ⟨_, (congrArg Prod.snd hrun).symm⟩

/-! ## Workspaces -/

/-- The workspace with a number. -/
def workspacePath (m : Machine) (n : Nat) : String :=
  Path.join m.tempDirectory ("decomp-" ++ Decimal.text n)

theorem newWorkspace_eq_ok_iff {m made : Machine} {workspace : String} :
    m.newWorkspace = (.ok workspace, made) ↔
      ∃ files, m.files.makeDirectory (m.workspacePath m.workspaces) = .ok files ∧
        workspace = m.workspacePath m.workspaces ∧
        made = { m with files, workspaces := m.workspaces + 1 } := by
  unfold newWorkspace workspacePath
  dsimp only
  cases m.files.makeDirectory
      (Path.join m.tempDirectory ("decomp-" ++ Decimal.text m.workspaces)) with
  | error e =>
      constructor
      · intro hmade
        cases hmade
      · rintro ⟨files, hfiles, -⟩
        cases hfiles
  | ok files =>
      constructor
      · intro hmade
        obtain ⟨hpath, hmachine⟩ := Prod.mk.inj hmade
        exact ⟨files, rfl, (Except.ok.inj hpath).symm, hmachine.symm⟩
      · rintro ⟨files', hfiles, rfl, rfl⟩
        cases hfiles
        rfl

theorem dropWorkspace_eq (m : Machine) (path : String) :
    ∃ files, m.dropWorkspace path = { m with files } := by
  unfold dropWorkspace
  split
  · exact ⟨_, rfl⟩
  · exact ⟨m.files, rfl⟩

end Machine

end MatchingDecomp
