import MatchingDecomp.CommandLine.Basic
import MatchingDecomp.Proofs.Decompile.Default
import MatchingDecomp.Proofs.Report.Save

/-!
# The command line does what the library does

A command runs the backends, prints the run and saves the report by itself; it does not call
`decompile`.  Both go through the same steps, though, and so they agree on everything but what is
printed: on the machine that is left behind and on what goes wrong (`delivers_decompileFile`).

What a command asks for is a configuration and a fragment (`Asks`).  There is at most one such pair,
and if there is none, the configuration could not be loaded or the input could not be read, and
nothing is done at all (`CarriedOut`).  The name of a function is looked at twice, once as an
option and once as a hint for the fragment, and both times in the same way: an option that is let
through is never passed over (`fragmentOf_eq`).
-/

namespace MatchingDecomp.CommandLine

open Text

/-! ## Options and fragments -/

/-- A function name among the options has been looked at. -/
def Options.Checked (o : Options) : Prop :=
  ∀ name, o.function = some name → isFunctionName name = true

theorem Options.Checked.take {o o' : Options} (hchecked : o.Checked) {name : OptionName}
    {value : String} (htake : o.take name value = .ok o') : o'.Checked := by
  cases name with
  | function =>
      rw [Options.take] at htake
      split at htake
      · rename_i hvalue
        cases htake
        rintro _ ⟨⟩
        exact hvalue
      · cases htake
  | json | report | config =>
      cases htake
      exact hchecked

theorem Options.Checked.read {o : Options} (hchecked : o.Checked) (arguments : List String) :
    (o.read arguments).1.Checked := by
  fun_induction Options.read o arguments with
  | case1 => exact hchecked
  | case2 _ _ _ _ ih | case3 _ _ _ _ ih => exact ih hchecked
  | case4 | case6 => exact hchecked
  | case5 _ _ _ _ _ _ _ _ htake ih => exact ih (hchecked.take htake)

theorem Options.checked_of_read {o : Options} {arguments : List String} {error : Option OptionError}
    (hread : Options.read {} arguments = (o, error)) : o.Checked := by
  have hchecked : (Options.read {} arguments).1.Checked := Checked.read (by rintro _ ⟨⟩) arguments
  rw [hread] at hchecked
  exact hchecked

/-- A function name that was let through is the name of the fragment; without one, the fragment is
named by its text. -/
theorem fragmentOf_eq {o : Options} (hchecked : o.Checked) (path text : String) :
    fragmentOf o path text =
      { text
        identifier := (o.function.map trimmed).getD (Fragment.ofText text).identifier
        origin := Path.fileName? path } := by
  cases hfunction : o.function with
  | none =>
      rw [fragmentOf, hfunction]
      cases Path.fileName? path <;> rfl
  | some name =>
      have hname : isIdentifier (trim name.toList) = true := hchecked name hfunction
      have hnamed : Fragment.withHint text name = { text, identifier := trimmed name } := by
        rw [Fragment.withHint, if_pos hname]
        rfl
      rw [fragmentOf, hfunction]
      dsimp only
      rw [hnamed]
      cases Path.fileName? path <;> rfl

/-! ## What a command asks for -/

/-- What a command asks to be decompiled, and how: the configuration is the one in the file that the
options name, else the one of the environment, and the fragment has the text of the input file. -/
structure Asks (o : Options) (env : Config.Environment) (path : String) (m : Machine)
    (config : Config) (fragment : Fragment) : Prop where
  config_eq : (∃ file, o.config = some file ∧ Config.load m file = .ok config) ∨
    o.config = none ∧ config = Config.ofEnvironment env
  text_eq : m.readText path = some fragment.text
  identifier_eq : fragment.identifier =
    (o.function.map trimmed).getD (Fragment.ofText fragment.text).identifier
  origin_eq : fragment.origin = Path.fileName? path

theorem configOf_eq_ok_iff {o : Options} {env : Config.Environment} {m : Machine}
    {config : Config} :
    configOf o env m = .ok config ↔
      (∃ file, o.config = some file ∧ Config.load m file = .ok config) ∨
        o.config = none ∧ config = Config.ofEnvironment env := by
  unfold configOf
  cases o.config with
  | some file => simp
  | none => simp [eq_comm]

theorem configOf_eq_error_iff {o : Options} {env : Config.Environment} {m : Machine}
    {e : Config.FileError} :
    configOf o env m = .error e ↔
      ∃ file, o.config = some file ∧ Config.load m file = .error e := by
  unfold configOf
  cases o.config with
  | some file => simp
  | none => simp

theorem asks_fragmentOf {o : Options} (hchecked : o.Checked) {env : Config.Environment}
    {path text : String} {m : Machine} {config : Config} (hconfig : configOf o env m = .ok config)
    (htext : m.readText path = some text) :
    Asks o env path m config (fragmentOf o path text) := by
  rw [fragmentOf_eq hchecked]
  exact ⟨configOf_eq_ok_iff.mp hconfig, htext, rfl, rfl⟩

section

variable {o : Options} {env : Config.Environment} {path : String} {m : Machine}
  {config config' : Config} {fragment fragment' : Fragment}

/-- A command asks for one thing only. -/
theorem Asks.unique (h : Asks o env path m config fragment)
    (h' : Asks o env path m config' fragment') : config' = config ∧ fragment' = fragment := by
  constructor
  · have hconfig := configOf_eq_ok_iff.mpr h.config_eq
    have hconfig' := configOf_eq_ok_iff.mpr h'.config_eq
    rw [hconfig, Except.ok.injEq] at hconfig'
    exact hconfig'.symm
  · have htext : fragment'.text = fragment.text := by
      have htexts := h'.text_eq
      rw [h.text_eq, Option.some.injEq] at htexts
      exact htexts.symm
    have hidentifier : fragment'.identifier = fragment.identifier := by
      rw [h'.identifier_eq, h.identifier_eq, htext]
    have horigin : fragment'.origin = fragment.origin := by
      rw [h'.origin_eq, h.origin_eq]
    rw [Fragment.mk.injEq]
    exact ⟨htext, hidentifier, horigin⟩

/-- The reasons for which a command fails. -/
def Fails (o : Options) (env : Config.Environment) (path : String) (m : Machine) : Prop :=
  (∃ file e, o.config = some file ∧ Config.load m file = .error e) ∨
    m.readText path = none ∨
    ∃ config fragment e, Asks o env path m config fragment ∧
      (decompile config fragment o.report m).1 = .error e

theorem Asks.load_ne_error (h : Asks o env path m config fragment) {file : String}
    (hfile : o.config = some file) (e : Config.FileError) : Config.load m file ≠ .error e := by
  intro herror
  have hconfig : configOf o env m = .error e := configOf_eq_error_iff.mpr ⟨file, hfile, herror⟩
  rw [configOf_eq_ok_iff.mpr h.config_eq] at hconfig
  cases hconfig

theorem Asks.not_fails (h : Asks o env path m config fragment) {r : Run}
    (hok : (decompile config fragment o.report m).1 = .ok r) : ¬ Fails o env path m := by
  rintro (⟨file, e, hfile, hload⟩ | htext | ⟨config', fragment', e, h', herror⟩)
  · exact h.load_ne_error hfile e hload
  · rw [h.text_eq] at htext
    cases htext
  · obtain ⟨rfl, rfl⟩ := h.unique h'
    rw [hok] at herror
    cases herror

end

/-! ## What is printed -/

/-- The line about a report that was saved. -/
def savedLines (report : Option String) (m : Machine) : List String :=
  (report.map fun path => "Report saved to: " ++ m.absolute path).toList

/-- How a command ends that decompiled a fragment with this result: what went wrong is what goes
wrong without the command, and a run that came out is printed. -/
inductive Delivers (o : Options) (path : String) (fragment : Fragment) (after : Machine) :
    Except DecompileError Run → Ending → Prop where
  | failed {e : DecompileError} {output : List String} :
      Delivers o path fragment after (.error e) { output, failure := some e.message }
  | printed {r : Run} (events : List Event) :
      Delivers o path fragment after (.ok r)
        { output := ("Decompiling " ++ fragment.identifier ++ " from " ++ path) ::
            events.map eventLine ++ present o.json r ++ savedLines o.report after }

theorem delivers_decompileFile (o : Options) (config : Config) (path : String)
    (fragment : Fragment) (m : Machine) :
    ∃ ending, Delivers o path fragment (decompile config fragment o.report m).2
        (decompile config fragment o.report m).1 ending ∧
      decompileFile o config path fragment m =
        (ending, (decompile config fragment o.report m).2) := by
  simp only [decompileFile, decompile, stateM_bind_apply]
  generalize perform config fragment m = performed
  obtain ⟨answer, before⟩ := performed
  cases answer with
  | error problems => exact ⟨_, .failed, rfl⟩
  | ok performance =>
      dsimp only
      cases performance.run with
      | error e => exact ⟨_, .failed, rfl⟩
      | ok r =>
          have hsaved := reportSaved r o.report before
          dsimp only
          rw [stateM_bind_apply, stateM_bind_apply]
          generalize hreport : o.report = report at hsaved ⊢
          generalize saveReport r report before = saving at hsaved ⊢
          obtain ⟨answer, after⟩ := saving
          cases hsaved with
          | unasked =>
              refine ⟨_, .printed performance.events, ?_⟩
              rw [savedLines, hreport, Option.map_none, Option.toList_none, List.append_nil]
              rfl
          | saved =>
              refine ⟨_, .printed performance.events, ?_⟩
              rw [savedLines, hreport]
              rfl
          | failed => exact ⟨_, .failed, rfl⟩

/-! ## Carrying out a command -/

/-- What comes of a command whose options are read. -/
inductive CarriedOut (o : Options) (env : Config.Environment) (path : String) (m : Machine) :
    Ending → Machine → Prop where
  | unloaded {file : String} {e : Config.FileError} (hfile : o.config = some file)
      (hload : Config.load m file = .error e) (message : String) :
      CarriedOut o env path m { output := [], failure := some message } m
  | unread (htext : m.readText path = none) (message : String) :
      CarriedOut o env path m { output := [], failure := some message } m
  | delivered {config : Config} {fragment : Fragment} {ending : Ending}
      (hasks : Asks o env path m config fragment)
      (hdelivers : Delivers o path fragment (decompile config fragment o.report m).2
        (decompile config fragment o.report m).1 ending) :
      CarriedOut o env path m ending (decompile config fragment o.report m).2

theorem carriedOut {o : Options} (hchecked : o.Checked) (env : Config.Environment) (path : String)
    (m : Machine) :
    CarriedOut o env path m (carryOut o env path m).1 (carryOut o env path m).2 := by
  have hget : (get : StateM Machine Machine) m = (m, m) := rfl
  simp only [carryOut, stateM_bind_apply, hget]
  cases hconfig : configOf o env m with
  | error e =>
      obtain ⟨file, hfile, hload⟩ := configOf_eq_error_iff.mp hconfig
      exact .unloaded hfile hload _
  | ok config =>
      dsimp only
      cases htext : m.readText path with
      | none => exact .unread htext _
      | some text =>
          obtain ⟨ending, hdelivers, hfile⟩ :=
            delivers_decompileFile o config path (fragmentOf o path text) m
          dsimp only
          rw [hfile]
          exact .delivered (asks_fragmentOf hchecked hconfig htext) hdelivers

namespace CarriedOut

variable {o : Options} {env : Config.Environment} {path : String} {m after : Machine}
  {ending : Ending}

theorem failure_iff (hcarried : CarriedOut o env path m ending after) :
    ending.failure.isSome = true ↔ Fails o env path m := by
  cases hcarried with
  | unloaded hfile hload => exact iff_of_true rfl (.inl ⟨_, _, hfile, hload⟩)
  | unread htext => exact iff_of_true rfl (.inr (.inl htext))
  | @delivered config fragment _ hasks hdelivers =>
      generalize hanswer : (decompile config fragment o.report m).1 = answer at hdelivers
      cases hdelivers with
      | failed => exact iff_of_true rfl (.inr (.inr ⟨config, fragment, _, hasks, hanswer⟩))
      | printed events => exact iff_of_false Bool.false_ne_true (hasks.not_fails hanswer)

/-- A command that asks for something leaves the machine as the library does. -/
theorem machine_eq (hcarried : CarriedOut o env path m ending after) {config : Config}
    {fragment : Fragment} (hasks : Asks o env path m config fragment) :
    after = (decompile config fragment o.report m).2 := by
  cases hcarried with
  | unloaded hfile hload => exact absurd hload (hasks.load_ne_error hfile _)
  | unread htext =>
      rw [hasks.text_eq] at htext
      cases htext
  | delivered hasks' =>
      obtain ⟨rfl, rfl⟩ := hasks.unique hasks'
      rfl

/-- A command that does not fail prints the run that the library returns. -/
theorem of_success (hcarried : CarriedOut o env path m ending after)
    (hsuccess : ending.failure = none) :
    ∃ config fragment r events, Asks o env path m config fragment ∧
      decompile config fragment o.report m = (.ok r, after) ∧
      ending.output = ("Decompiling " ++ fragment.identifier ++ " from " ++ path) ::
        List.map eventLine events ++ present o.json r ++ savedLines o.report after := by
  cases hcarried with
  | unloaded | unread => cases hsuccess
  | @delivered config fragment _ hasks hdelivers =>
      generalize hanswer : (decompile config fragment o.report m).1 = answer at hdelivers
      cases hdelivers with
      | failed => cases hsuccess
      | @printed r events =>
          exact ⟨config, fragment, r, events, hasks, Prod.ext hanswer rfl, rfl⟩

end CarriedOut

/-- The lines about the arguments that are no option. -/
def notes (o : Options) : List String :=
  o.unknown.map ("Unknown argument: " ++ ·)

/-- An argument that starts like no option asks neither for the version nor for the usage. -/
theorem names_file {first : String} (hfirst : first.toList.head? ≠ some '-') :
    (first == "--version" || first == "-v") = false ∧
      (first.toList.head? == some '-') = false := by
  constructor
  · rw [Bool.or_eq_false_iff, beq_eq_false_iff_ne, beq_eq_false_iff_ne]
    constructor <;> rintro rfl <;> exact hfirst (by decide)
  · rw [beq_eq_false_iff_ne]
    exact hfirst

theorem run_of_read (program : String) {first : String} {rest : List String} {o : Options}
    (hfirst : first.toList.head? ≠ some '-') (hoptions : Options.read {} rest = (o, none))
    (env : Config.Environment) (m : Machine) :
    run program (first :: rest) env m =
      ({ (carryOut o env first m).1 with output := notes o ++ (carryOut o env first m).1.output },
        (carryOut o env first m).2) := by
  obtain ⟨hversion, husage⟩ := names_file hfirst
  simp only [run, hversion, husage, hoptions, Bool.false_eq_true, if_false]
  rfl

theorem code_ne_zero_iff {e : Ending} : e.code ≠ 0 ↔ e.failure.isSome = true := by
  rw [Ending.code]
  split <;> simp_all

/-- **The command line agrees with the library.**  A command fails exactly if the configuration
cannot be loaded, the input cannot be read, or `decompile` fails on what the command asks for.  If
it does not fail, it prints the run that `decompile` returns and leaves the machine that `decompile`
leaves: without a report, the one that the backends left, and with a report, the same but for the
files, among which the report is found under its path, unless that leads to a device.  A report that
there is no run for changes nothing.  And a function name among the options is the name of the
fragment, whatever its text. -/
theorem agrees_with_decompile (program : String) (env : Config.Environment) (m : Machine)
    {first : String} {rest : List String} {o : Options}
    (hfirst : first.toList.head? ≠ some '-') (hoptions : Options.read {} rest = (o, none)) :
    let ending := (run program (first :: rest) env m).1
    let after := (run program (first :: rest) env m).2
    (ending.code ≠ 0 ↔
        (∃ file e, o.config = some file ∧ Config.load m file = .error e) ∨
          m.readText first = none ∨
          ∃ config fragment e, Asks o env first m config fragment ∧
            (decompile config fragment o.report m).1 = .error e) ∧
      (ending.code = 0 → ∃ config fragment r events, Asks o env first m config fragment ∧
        decompile config fragment o.report m = (.ok r, after) ∧
        ending.output = notes o ++
          (("Decompiling " ++ fragment.identifier ++ " from " ++ first) ::
            List.map eventLine events ++ present o.json r ++ savedLines o.report after) ∧
        (o.report = none → after = (perform config fragment m).2) ∧
        ∀ path, o.report = some path →
          after = { (perform config fragment m).2 with files := after.files } ∧
            after.files.Holds (after.absolute path) (Report.render after.clock.stamp [r])) ∧
      (∀ config fragment, Asks o env first m config fragment →
        (config.problems ≠ [] → after = m) ∧
          ∀ e, (decompile config fragment none m).1 = .error e →
            after = (perform config fragment m).2) ∧
      ∀ name text, o.function = some name →
        (fragmentOf o first text).identifier = trimmed name := by
  have hchecked := Options.checked_of_read hoptions
  have hcarried := carriedOut hchecked env first m
  rw [run_of_read program hfirst hoptions]
  generalize carryOut o env first m = carried at hcarried
  obtain ⟨ending, after⟩ := carried
  dsimp only at hcarried ⊢
  refine ⟨code_ne_zero_iff.trans hcarried.failure_iff, ?_, ?_, ?_⟩
  · intro hcode
    have hsuccess : ending.failure = none := by
      by_contra hfailure
      exact code_ne_zero_iff.mpr (Option.isSome_iff_ne_none.mpr hfailure) hcode
    obtain ⟨config, fragment, r, events, hasks, hok, houtput⟩ := hcarried.of_success hsuccess
    obtain ⟨before, saved, hbefore, hsaved⟩ := decompile_eq_ok hok
    have hperform : (perform config fragment m).2 = before := by
      rw [← decompile_none_snd, hbefore]
    refine ⟨config, fragment, r, events, hasks, hok, congrArg (notes o ++ ·) houtput, ?_, ?_⟩
    · intro hreport
      rw [hreport] at hsaved
      cases hsaved
      exact hperform.symm
    · intro path hreport
      rw [hreport] at hsaved
      cases hsaved with
      | saved hholds =>
          rw [hperform]
          exact ⟨rfl, hholds⟩
  · intro config fragment hasks
    have hmachine := hcarried.machine_eq hasks
    constructor
    · intro hproblems
      rw [hmachine, decompile_of_problems hproblems]
    · intro e herror
      rw [hmachine, decompile_of_error herror, decompile_none_snd]
  · intro name text hname
    rw [fragmentOf_eq hchecked, hname]
    rfl

/-! ## A report that is kept, and one that is not -/

/-- By default, a fragment that has text and a name is decompiled, and the report on it is saved if
its path can be written to. -/
theorem decompile_of_writeTo {fragment : Fragment} (hblank : fragment.isBlank = false)
    (hname : isIdentifier fragment.identifier.toList = true) {m : Machine} {path : String}
    {files : FileTree}
    (hwrite : Report.writeTo m.files (m.absolute path)
      (Report.render m.clock.stamp [skeletonRun fragment m.clock]) = (.ok (), files)) :
    decompile {} fragment (some path) m =
      (.ok (skeletonRun fragment m.clock), { m with files }) := by
  have hrun : decompile {} fragment none m = (.ok (skeletonRun fragment m.clock), m) := by
    rw [decompile_eq_walk (Config.backends_default _), Walk.generate_standIns, hblank, hname]
    rfl
  rw [decompile_eq_saveReport, hrun]
  dsimp only
  rw [saveReport_some, hwrite]

/-- A machine with an assembly file and a device that takes everything. -/
def sampleMachine : Machine where
  files := ⟨[(["f.s"], .file (Utf8.ofString "jr $ra")), (["dev"], .directory),
    (["dev", "null"], .device false)]⟩

/-- A name with blanks around it, and a report in a directory that is made for it. -/
theorem agrees_on_padded_name :
    let fragment : Fragment := { text := "jr $ra", identifier := "main", origin := some "f.s" }
    let ran := run "decomp" ["f.s", "-f", " main ", "-r", "out/r.md"] (fun _ => none) sampleMachine
    ran.1.code = 0 ∧
      decompile {} fragment (some "out/r.md") sampleMachine =
        (.ok (skeletonRun fragment ⟨0, 0⟩), ran.2) ∧
      ran.2.files.Holds (ran.2.absolute "out/r.md")
        (Report.render ran.2.clock.stamp [skeletonRun fragment ⟨0, 0⟩]) := by
  intro fragment
  let o : Options := { function := some " main ", report := some "out/r.md" }
  have hfirst : "f.s".toList.head? ≠ some '-' := by decide
  have hoptions : Options.read {} ["-f", " main ", "-r", "out/r.md"] = (o, none) := by decide
  have hasks : Asks o (fun _ => none) "f.s" sampleMachine {} fragment :=
    ⟨.inr ⟨rfl, rfl⟩, by decide, by decide, by decide⟩
  have hwrite : ∀ text,
      Report.writeTo sampleMachine.files (sampleMachine.absolute "out/r.md") text =
        (.ok (), ((sampleMachine.files.set ["out"] .directory).set ["out", "r.md"] (.file [])).set
          ["out", "r.md"] (.file (Utf8.ofString text))) := fun _ => rfl
  have hblank : fragment.isBlank = false := by decide
  have hdecompile := decompile_of_writeTo hblank (by decide) (hwrite _)
  have hagrees := agrees_with_decompile "decomp" (fun _ => none) sampleMachine hfirst hoptions
  generalize run "decomp" _ _ sampleMachine = ran at hagrees ⊢
  obtain ⟨hcode, hsuccess, -, -⟩ := hagrees
  have hzero : ran.1.code = 0 := by
    by_contra hfailed
    exact hasks.not_fails (congrArg Prod.fst hdecompile) (hcode.mp hfailed)
  obtain ⟨config, found, r, events, hfound, hok, -, -, hreport⟩ := hsuccess hzero
  obtain ⟨rfl, rfl⟩ := hasks.unique hfound
  have hrun : r = skeletonRun fragment ⟨0, 0⟩ := by
    have hruns := congrArg Prod.fst (hok.symm.trans hdecompile)
    exact Except.ok.inj hruns
  subst hrun
  obtain ⟨-, hholds⟩ := hreport "out/r.md" rfl
  exact ⟨hzero, hok, hholds⟩

theorem render_ne_empty (stamp : String) (runs : List Run) : Report.render stamp runs ≠ "" := by
  rw [Report.render, unlines, List.cons_append, List.cons_append, List.map_cons, String.join_cons]
  intro hempty
  rw [String.append_eq_empty_iff, String.append_eq_empty_iff] at hempty
  exact absurd hempty.1.1 (by decide)

/-- A device takes the report and keeps nothing of it. -/
theorem null_keeps_no_report :
    let ran := run "decomp" ["f.s", "--report", "/dev/null"] (fun _ => none) sampleMachine
    ran.1.code = 0 ∧ ran.2.readText "/dev/null" = some "" ∧
      ∀ stamp runs, ran.2.readText "/dev/null" ≠ some (Report.render stamp runs) := by
  let o : Options := { report := some "/dev/null" }
  let fragment : Fragment :=
    { text := "jr $ra", identifier := "decompiled_function", origin := some "f.s" }
  have hfirst : "f.s".toList.head? ≠ some '-' := by decide
  have hoptions : Options.read {} ["--report", "/dev/null"] = (o, none) := by decide
  have hasks : Asks o (fun _ => none) "f.s" sampleMachine {} fragment :=
    ⟨.inr ⟨rfl, rfl⟩, by decide, by decide, by decide⟩
  have hwrite : ∀ text,
      Report.writeTo sampleMachine.files (sampleMachine.absolute "/dev/null") text =
        (.ok (), sampleMachine.files.set ["dev", "null"] (.device false)) := fun _ => rfl
  have hblank : fragment.isBlank = false := by decide
  have hdecompile := decompile_of_writeTo hblank (by decide) (hwrite _)
  have hcarried := carriedOut (Options.checked_of_read hoptions) (fun _ => none) "f.s"
    sampleMachine
  rw [run_of_read "decomp" hfirst hoptions]
  generalize carryOut o _ "f.s" sampleMachine = carried at hcarried ⊢
  obtain ⟨ending, after⟩ := carried
  dsimp only at hcarried ⊢
  have hread : after.readText "/dev/null" = some "" := by
    rw [hcarried.machine_eq hasks, hdecompile]
    decide
  refine ⟨?_, hread, ?_⟩
  · by_contra hfailed
    exact hasks.not_fails (congrArg Prod.fst hdecompile)
      (hcarried.failure_iff.mp (code_ne_zero_iff.mp hfailed))
  · intro stamp runs hreport
    rw [hread, Option.some.injEq] at hreport
    exact render_ne_empty stamp runs hreport.symm

end MatchingDecomp.CommandLine
