import MatchingDecomp.Proofs.Session.Announcements

/-!
# Runs come to their end

A run that was started comes to a result if only its calls return, and it does not matter what else
is asked of the session in between: other runs may be prepared, moved, cancelled and dropped, and
this one may be asked to stop.  Only if the run itself is dropped nothing comes of it.

A command that a run waits for is never refused (`Effect.moves_iff_awaits`), and a run has at most
four moves ahead of it, as `ActiveRun.movesLeft` counts them.  Each move takes one away or is the
last (`Effect.movesLeft_of_moves`), and the other commands leave the run where it is
(`Effect.find?_of_left_alone`).
-/

namespace MatchingDecomp

open Minutes

variable {σ : Type}

/-! ## Commands that a run waits for -/

/-- A run is moved exactly by the commands that it waits for: they are not refused, and all others
are. -/
theorem Effect.moves_iff_awaits {b : Backends σ} {s after : Session σ} {entry : Entry}
    (heffect : Effect b s entry after) (id : RunId) :
    entry.moves id = true ↔ ∃ run, s.find? id = some run ∧ run.Awaits entry.command := by
  rw [Entry.moves_eq_true_iff]
  constructor
  · rintro ⟨hmoved, hanswer⟩
    cases heffect with
    | refused => exact absurd rfl hanswer
    | entered hrun hmoving hcancelled =>
        obtain rfl := hmoving.id_eq hmoved
        exact ⟨_, hrun, hmoving.awaits⟩
    | ended hrun hmoving hending =>
        obtain rfl := hmoving.id_eq hmoved
        exact ⟨_, hrun, hmoving.awaits⟩
    | _ => cases hmoved
  · rintro ⟨run, hrun, hawaits⟩
    obtain rfl := Session.id_of_find? hrun
    refine ⟨hawaits.moved?_eq, fun hanswer => ?_⟩
    cases heffect with
    | refused _ hrefused => exact hrefused run hrun hawaits
    | _ => cases hanswer

/-- A command that is refused changes nothing. -/
theorem Effect.eq_of_not_moves {b : Backends σ} {s after : Session σ} {entry : Entry} {id : RunId}
    (heffect : Effect b s entry after) (hmoved : entry.command.moved? = some id)
    (hmoves : entry.moves id ≠ true) : after = s := by
  have hanswer : entry.answer = .moved .refused := by
    by_contra hanswer
    exact hmoves (Entry.moves_eq_true_iff.mpr ⟨hmoved, hanswer⟩)
  cases heffect with
  | refused => rfl
  | _ => cases hanswer

/-- A ticket is closed only when its run is moved, or dropped. -/
theorem Entry.moves_or_drop_of_closed {id : RunId} {entry : Entry}
    (hclosed : entry.closed? = some id) : entry.moves id = true ∨ entry.command = .drop id := by
  obtain ⟨command, answer, calls⟩ := entry
  unfold closed? at hclosed
  split at hclosed
  · rename_i hanswer
    cases hanswer
    exact .inl (moves_eq_true_iff.mpr ⟨hclosed, by simp⟩)
  · rename_i other hanswer hcommand
    cases hclosed
    exact .inr hcommand
  · cases hclosed

/-- The command lets a call of a run return. -/
def Command.advances (id : RunId) : Command → Bool
  | .advance other _ => other = id
  | _ => false

theorem ActiveRun.awaits_of_advances {run : ActiveRun} {command : Command}
    (hadvances : command.advances run.id = true) (hwork : run.work ≠ none) :
    run.Awaits command := by
  cases command with
  | advance id now => exact ⟨of_decide_eq_true hadvances, hwork⟩
  | _ => cases hadvances

/-! ## Moves that a run has ahead of it -/

/-- How often a run can be moved at most before it is over: it is started, and then each of its
calls returns. -/
def ActiveRun.movesLeft (run : ActiveRun) : Nat :=
  match run.work with
  | none => 4
  | some work => 3 - work.position.stage.index

theorem ActiveRun.movesLeft_of_work {run : ActiveRun} {work : Work}
    (hwork : run.work = some work) : run.movesLeft = 3 - work.position.stage.index := by
  rw [movesLeft, hwork]

theorem ActiveRun.movesLeft_pos (run : ActiveRun) : 0 < run.movesLeft := by
  cases hwork : run.work with
  | none =>
      rw [movesLeft, hwork]
      decide
  | some work =>
      have hlast := work.position.stage.index_lt
      rw [movesLeft_of_work hwork]
      omega

/-- A run that comes to a stage has one move less ahead of it. -/
theorem Moving.movesLeft_eq {b : Backends σ} {s : Session σ} {run : ActiveRun} {command : Command}
    {calls : List Call} {work : Work} {returned : Returned} {resources : σ} {position : Position}
    (hmoving : Moving b s run command calls work returned resources)
    (honward : returned = .onward position) :
    run.movesLeft = 3 - position.stage.index + 1 := by
  cases hmoving with
  | start desk fragment hidle =>
      cases honward
      rw [ActiveRun.movesLeft, hidle]
      rfl
  | advance now hwork =>
      have hindex := Work.index_of_onward honward
      have hlast := position.stage.index_lt
      rw [ActiveRun.movesLeft_of_work hwork]
      omega

namespace Effect

variable {b : Backends σ} {s after : Session σ} {entry : Entry} {id : RunId} {run : ActiveRun}

/-- A move brings a run to its result, or to a call that it waits for, with one move less ahead of
it. -/
theorem movesLeft_of_moves (heffect : Effect b s entry after) (hmoves : entry.moves id = true)
    (hrun : s.find? id = some run) :
    (∃ result, entry.resultOf? id = some result) ∨
      ∃ next, after.find? id = some next ∧ next.work ≠ none ∧
        next.movesLeft + 1 = run.movesLeft := by
  obtain ⟨hmoved, hanswer⟩ := Entry.moves_eq_true_iff.mp hmoves
  cases heffect with
  | refused => exact absurd rfl hanswer
  | @entered found command calls work position resources hfound hmoving hcancelled =>
      obtain rfl := hmoving.id_eq hmoved
      obtain rfl : run = found := Option.some.inj (hrun.symm.trans hfound)
      obtain ⟨state, hentered⟩ :=
        Session.exists_find?_entered (s := { s with resources }) hrun { work with position }
      refine .inr ⟨_, hentered, Option.some_ne_none _, ?_⟩
      rw [hmoving.movesLeft_eq rfl, ActiveRun.movesLeft_of_work rfl]
  | ended hfound hmoving hending =>
      exact .inl ⟨_, Entry.resultOf?_eq_some_iff.mpr ⟨hmoved, rfl⟩⟩
  | _ => cases hmoved

/-- A run that is left alone, neither moved nor dropped, stays where it is, but it may be asked to
stop. -/
theorem find?_of_left_alone (heffect : Effect b s entry after) (hmoves : entry.moves id ≠ true)
    (hkept : entry.command ≠ .drop id) (hrun : s.find? id = some run) :
    ∃ cancelled, after.find? id = some { run with cancelled } := by
  by_cases hmoved : entry.command.moved? = some id
  · rw [heffect.eq_of_not_moves hmoved hmoves]
    exact ⟨run.cancelled, hrun⟩
  · have hopen : entry.closed? ≠ some id := fun hclosed =>
      (Entry.moves_or_drop_of_closed hclosed).elim hmoves hkept
    have hbefore : id ∈ s.ids := Session.mem_ids_iff_exists.mpr ⟨run, hrun⟩
    have hafter : id ∈ after.ids := by
      rw [heffect.ids_eq, Entry.tickets]
      exact List.mem_append_left _ (List.mem_filter.mpr ⟨hbefore, decide_eq_true hopen⟩)
    obtain ⟨next, hnext⟩ := Session.mem_ids_iff_exists.mp hafter
    obtain ⟨found, cancelled, hfound, rfl⟩ | ⟨hnone, -⟩ :=
      heffect.find?_of_not_moved hmoved hnext
    · obtain rfl : run = found := Option.some.inj (hrun.symm.trans hfound)
      exact ⟨cancelled, hnext⟩
    · rw [hrun] at hnone
      cases hnone

end Effect

/-! ## All commands -/

namespace Session

/-- A run that waits for a call comes to a result if enough of its calls return. -/
theorem results_ne_nil_of_advances (b : Backends σ) {id : RunId} (commands : List Command)
    {s : Session σ} {run : ActiveRun} (hrun : s.find? id = some run) (hwork : run.work ≠ none)
    (hkept : .drop id ∉ commands)
    (henough : run.movesLeft ≤ commands.countP (Command.advances id)) :
    results id (s.play b commands).1 ≠ [] := by
  induction commands generalizing s run with
  | nil => exact absurd henough (Nat.not_le_of_lt run.movesLeft_pos)
  | cons command rest ih =>
      have heffect := obey_effect b s command
      rw [List.mem_cons, not_or] at hkept
      rw [play_cons, results_cons]
      by_cases hmoves : (s.entry b command).moves id = true
      · obtain ⟨result, hresult⟩ | ⟨next, hnext, hwaiting, hleft⟩ :=
          heffect.movesLeft_of_moves hmoves hrun
        · simp [hresult]
        · -- one move less is ahead, and at most one return of a call is used up
          have hcount : (command :: rest).countP (Command.advances id) ≤
              rest.countP (Command.advances id) + 1 := by
            rw [List.countP_cons]
            split <;> omega
          exact List.append_ne_nil_of_right_ne_nil _ (ih hnext hwaiting hkept.2 (by omega))
      · obtain ⟨cancelled, hnext⟩ :=
          heffect.find?_of_left_alone hmoves (Ne.symm hkept.1) hrun
        -- the return of a call would have moved the run
        have hother : ¬ command.advances id = true := by
          intro hadvances
          obtain rfl := id_of_find? hrun
          exact hmoves ((heffect.moves_iff_awaits _).mpr
            ⟨run, hrun, ActiveRun.awaits_of_advances hadvances hwork⟩)
        rw [List.countP_cons_of_neg hother] at henough
        exact List.append_ne_nil_of_right_ne_nil _ (ih hnext hwork hkept.2 henough)

/-- The commands carry out a run: when it is started it was prepared and not started before, and
then its calls return, of which there are three; if the run is over earlier, the rest is refused.
Whatever else they ask in between, they do not drop the run. -/
def CarriedOut (s : Session σ) (b : Backends σ) (id : RunId) (commands : List Command) : Prop :=
  ∃ before desk fragment after, commands = before ++ .start desk id fragment :: after ∧
    (∃ run, (s.play b before).2.find? id = some run ∧ run.work = none) ∧
    .drop id ∉ after ∧ 3 ≤ after.countP (Command.advances id)

/-- A run that is carried out comes to a result. -/
theorem CarriedOut.results_ne_nil {s : Session σ} {b : Backends σ} {id : RunId}
    {commands : List Command} (hcarried : s.CarriedOut b id commands) :
    results id (s.play b commands).1 ≠ [] := by
  obtain ⟨before, desk, fragment, after, rfl, ⟨run, hrun, hidle⟩, hkept, hreturns⟩ := hcarried
  have heffect := obey_effect b (s.play b before).2 (.start desk id fragment)
  have hmoves := (heffect.moves_iff_awaits id).mpr ⟨run, hrun, (id_of_find? hrun).symm, hidle⟩
  rw [play_append, results_append, play_cons, results_cons]
  refine List.append_ne_nil_of_right_ne_nil _ ?_
  obtain ⟨result, hresult⟩ | ⟨next, hnext, hwaiting, hleft⟩ :=
    heffect.movesLeft_of_moves hmoves hrun
  · simp [hresult]
  · have hfour : run.movesLeft = 4 := by rw [ActiveRun.movesLeft, hidle]
    exact List.append_ne_nil_of_right_ne_nil _
      (results_ne_nil_of_advances b after hnext hwaiting hkept (by omega))

end Session

end MatchingDecomp
