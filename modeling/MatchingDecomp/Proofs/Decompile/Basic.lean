import MatchingDecomp.Decompile
import MatchingDecomp.Proofs.Session.Execution

/-!
# Decompiling is walking through the stages

One fragment in a session of its own: nobody else is there to ask the run to stop, and its id is the
first that the session gives out.  So what is left of the session is the walk
(`Session.run_eq_walk`), and decompiling a fragment without a report is the walk with its failure
wrapped up (`decompile_eq_walk`).
-/

namespace MatchingDecomp

variable {σ : Type}

namespace Session

/-- A run that is prepared and carried out at once goes through the stages undisturbed. -/
theorem run_eq_walk (b : Backends σ) {s : Session σ} (now : Instant)
    (hfresh : s.find? (RunId.next now s.sequence) = none) (desk : Nat) (fragment : Fragment) :
    (s.run b desk fragment now).1 =
        .finished (Walk.generate b (RunId.next now s.sequence) now fragment (fun _ => false)
          s.resources).1 ∧
      (s.run b desk fragment now).2.resources =
        (Walk.generate b (RunId.next now s.sequence) now fragment (fun _ => false)
          s.resources).2 := by
  let run : ActiveRun := { id := RunId.next now s.sequence, home := desk }
  have hactive : (s.prepare desk now).2.find? run.id = some run := by
    have hid : (s.prepare desk now).1 = run.id := rfl
    rw [find?_prepare, hfresh, Option.none_or, if_pos hid]
  have hcancels : StopRequests.never.cancels run = fun _ => false := by
    funext stage
    cases stage <;> rfl
  obtain ⟨hresult, hsession⟩ := execute_eq_play b hactive rfl desk fragment now
  have haccount := account_script b hactive rfl StopRequests.never desk fragment now
  have hresources : (s.prepare desk now).2.resources = s.resources := rfl
  have hrun : s.run b desk fragment now =
      (s.prepare desk now).2.execute b desk run.id fragment now := rfl
  rw [hcancels, hresources, account, Prod.mk.injEq, Prod.mk.injEq] at haccount
  obtain ⟨hresults, -, hleft⟩ := haccount
  rw [hresults] at hresult
  rw [hrun, hsession]
  exact ⟨eq_finished_of_result? hresult, hleft⟩

end Session

theorem perform_eq_walk {config : Config} {m : Machine} {backends : Backends Workbench}
    (hbackends : config.backends m.tempDirectory = .ok backends) (fragment : Fragment) :
    ∃ events, perform config fragment m =
      (.ok ⟨events, some (Walk.generate backends (RunId.next m.clock 0) m.clock fragment
          (fun _ => false) { machine := m }).1⟩,
        (Walk.generate backends (RunId.next m.clock 0) m.clock fragment (fun _ => false)
          { machine := m }).2.machine) := by
  let session : Session Workbench :=
    { resources := { machine := m }, store := config.newStore }
  obtain ⟨hreply, hresources⟩ := Session.run_eq_walk backends m.clock (s := session) rfl 0 fragment
  refine ⟨(session.run backends 0 fragment m.clock).2.eventsOf 0, ?_⟩
  have hperform : perform config fragment m =
      (.ok ⟨(session.run backends 0 fragment m.clock).2.eventsOf 0,
          (session.run backends 0 fragment m.clock).1.result?⟩,
        (session.run backends 0 fragment m.clock).2.resources.machine) := by
    unfold perform
    rw [hbackends]
  rw [hperform, hreply, hresources]
  rfl

/-- Without a report, decompiling a fragment is the walk. -/
theorem decompile_eq_walk {config : Config} {m : Machine} {backends : Backends Workbench}
    (hbackends : config.backends m.tempDirectory = .ok backends) (fragment : Fragment) :
    decompile config fragment none m =
      ((Walk.generate backends (RunId.next m.clock 0) m.clock fragment (fun _ => false)
          { machine := m }).1.mapError .pipeline,
        (Walk.generate backends (RunId.next m.clock 0) m.clock fragment (fun _ => false)
          { machine := m }).2.machine) := by
  obtain ⟨events, hperform⟩ := perform_eq_walk hbackends fragment
  rw [decompile, stateM_bind_apply, hperform]
  generalize Walk.generate backends (RunId.next m.clock 0) m.clock fragment (fun _ => false)
    { machine := m } = walked
  obtain ⟨_ | run, after⟩ := walked <;> rfl

end MatchingDecomp
