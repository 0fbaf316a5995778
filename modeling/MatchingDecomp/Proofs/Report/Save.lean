import MatchingDecomp.Decompile
import MatchingDecomp.Proofs.Host.FileTree
import MatchingDecomp.Proofs.Session.Calls

/-!
# What a saved report leaves behind

Saving a text makes the directory that is missing, if one is, and then writes a file like any other
(`writeTo_eq_ok`), so the text is found under its path afterwards (`FileTree.Holds`).  Nothing about
the machine changes but its files, and if there is no path to save a report to, not even they do
(`reportSaved`).

A fragment is decompiled first and reported on afterwards, so what comes before the report is what
would come without it (`decompile_eq_saveReport`).
-/

namespace MatchingDecomp

/-- A path leads to a file with just this text, or to a device, which takes every text and keeps
none. -/
def FileTree.Holds (t : FileTree) (path text : String) : Prop :=
  t.look path = .ok (.file (Utf8.ofString text)) ∨ ∃ full, t.look path = .ok (.device full)

namespace Report

/-- A text that is saved is written to a tree in which its directory has been made. -/
theorem writeTo_eq_ok {files written : FileTree} {path contents : String}
    (hwrite : writeTo files path contents = (.ok (), written)) :
    ∃ prepared, prepareDirectory files path = (.ok (), prepared) ∧
      prepared.write path (Utf8.ofString contents) = .ok written := by
  unfold writeTo at hwrite
  split at hwrite
  · cases hwrite
  · rename_i prepared hprepare
    refine ⟨prepared, hprepare, ?_⟩
    split at hwrite
    · cases hwrite
    · rename_i place opened hcreate
      refine except_bind_eq_ok_iff.mpr ⟨(place, opened), hcreate, ?_⟩
      split at hwrite
      · cases hwrite
      · rename_i filled hfill
        cases hwrite
        exact hfill

theorem holds_of_writeTo {files written : FileTree} {path contents : String}
    (hwrite : writeTo files path contents = (.ok (), written)) : written.Holds path contents := by
  obtain ⟨prepared, -, hwritten⟩ := writeTo_eq_ok hwrite
  rcases FileTree.look_of_write hwritten with hfile | ⟨full, -, hdevice⟩
  · exact .inl hfile
  · exact .inr ⟨full, hdevice⟩

end Report

/-! ## The report on a run -/

/-- What comes of the wish for a report on a run.  Without a path there is nothing to do.  With one,
files may change, and if the report is saved, the path, returned as an absolute one, holds it. -/
inductive ReportSaved (run : Run) (m : Machine) :
    Option String → Except SaveError (Option String) → Machine → Prop where
  | unasked : ReportSaved run m none (.ok none) m
  | saved {path : String} {files : FileTree}
      (hholds : files.Holds (m.absolute path) (Report.render m.clock.stamp [run])) :
      ReportSaved run m (some path) (.ok (some (m.absolute path))) { m with files }
  | failed {path : String} {files : FileTree} {e : SaveError} :
      ReportSaved run m (some path) (.error e) { m with files }

theorem saveReport_some (run : Run) (path : String) (m : Machine) :
    saveReport run (some path) m =
      match Report.writeTo m.files (m.absolute path) (Report.render m.clock.stamp [run]) with
      | (.ok (), files) => (.ok (some (m.absolute path)), { m with files })
      | (.error e, files) => (.error e, { m with files }) := by
  show (Report.save [run] path >>= _) m = _
  rw [stateM_bind_apply, Report.save, Report.saveText]
  generalize Report.writeTo m.files (m.absolute path) _ = written
  obtain ⟨_ | _, files⟩ := written <;> rfl

theorem reportSaved (run : Run) (report : Option String) (m : Machine) :
    ReportSaved run m report (saveReport run report m).1 (saveReport run report m).2 := by
  cases report with
  | none => exact .unasked
  | some path =>
      rw [saveReport_some]
      cases hwrite : Report.writeTo m.files (m.absolute path)
          (Report.render m.clock.stamp [run]) with
      | mk answer files =>
          cases answer with
          | ok done => exact .saved (Report.holds_of_writeTo hwrite)
          | error e => exact .failed

/-- The report is saved after the run, which does not know about it. -/
theorem decompile_eq_saveReport (config : Config) (fragment : Fragment) (report : Option String)
    (m : Machine) :
    decompile config fragment report m =
      match decompile config fragment none m with
      | (.error e, after) => (.error e, after)
      | (.ok run, after) =>
        match saveReport run report after with
        | (.ok _, saved) => (.ok run, saved)
        | (.error e, left) => (.error (.save e), left) := by
  simp only [decompile, stateM_bind_apply]
  generalize perform config fragment m = performed
  obtain ⟨answer, after⟩ := performed
  cases answer with
  | error problems => rfl
  | ok performance =>
      dsimp only
      cases performance.run with
      | error e => rfl
      | ok run =>
          show (saveReport run report >>= _) after = match saveReport run report after with
            | (.ok _, saved) => (Except.ok run, saved)
            | (.error e, left) => (Except.error (DecompileError.save e), left)
          rw [stateM_bind_apply]
          generalize saveReport run report after = saved
          obtain ⟨_ | _, left⟩ := saved <;> rfl

theorem decompile_none_snd (config : Config) (fragment : Fragment) (m : Machine) :
    (decompile config fragment none m).2 = (perform config fragment m).2 := by
  rw [decompile, stateM_bind_apply]
  generalize perform config fragment m = performed
  obtain ⟨answer, after⟩ := performed
  cases answer with
  | error problems => rfl
  | ok performance =>
      dsimp only
      cases performance.run <;> rfl

/-- Without a run there is no report: what could not be decompiled leaves the machine as it would
have been left with no report to save. -/
theorem decompile_of_error {config : Config} {fragment : Fragment} {m : Machine}
    {e : DecompileError} (herror : (decompile config fragment none m).1 = .error e)
    (report : Option String) :
    decompile config fragment report m = decompile config fragment none m := by
  rw [decompile_eq_saveReport config fragment report]
  generalize decompile config fragment none m = decompiled at herror ⊢
  obtain ⟨answer, after⟩ := decompiled
  subst herror
  rfl

/-- A run that was decompiled with a report is the one without, and its report was saved. -/
theorem decompile_eq_ok {config : Config} {fragment : Fragment} {report : Option String}
    {m after : Machine} {run : Run}
    (hok : decompile config fragment report m = (.ok run, after)) :
    ∃ before saved, decompile config fragment none m = (.ok run, before) ∧
      ReportSaved run before report (.ok saved) after := by
  rw [decompile_eq_saveReport] at hok
  generalize decompile config fragment none m = decompiled at hok ⊢
  obtain ⟨answer, before⟩ := decompiled
  cases answer with
  | error e => cases hok
  | ok run' =>
      have hsaved := reportSaved run' report before
      dsimp only at hok
      generalize saveReport run' report before = saving at hok hsaved
      obtain ⟨answer, left⟩ := saving
      cases answer with
      | error e => cases hok
      | ok saved =>
          cases hok
          exact ⟨before, saved, rfl, hsaved⟩

/-- A configuration with problems is refused before anything is done. -/
theorem decompile_of_problems {config : Config} (hproblems : config.problems ≠ [])
    (fragment : Fragment) (report : Option String) (m : Machine) :
    decompile config fragment report m = (.error (.invalidConfig config.problems), m) := by
  have hperform : perform config fragment m = (.error config.problems, m) := by
    rw [perform, Config.backends, if_neg (by simpa using hproblems)]
  rw [decompile, stateM_bind_apply, hperform]
  rfl

end MatchingDecomp
