import MatchingDecomp.Pipeline.Session

/-!
# The active runs, looked up by id

Everything a session knows about a run that is not over is what `Session.find?` returns for its id.
This file says what each operation does to that lookup, and which of the other fields it touches, so
that later files never open an operation again.

An id is looked up in a list, and the first run with it counts.  None of the lemmas about
`Session.find?` asks for the ids to be distinct: `update` and `remove` treat all runs with an id
alike.  Only what a desk sees of a run, `Session.findAt?`, needs more, namely that the run is at
home there.
-/

namespace MatchingDecomp.Session

variable {σ : Type}

/-! ## Lookup -/

theorem id_of_find? {s : Session σ} {id : RunId} {run : ActiveRun} (hrun : s.find? id = some run) :
    run.id = id := by
  simpa using List.find?_some hrun

/-- The ids of the active runs, in the order in which they were prepared. -/
def ids (s : Session σ) : List RunId :=
  s.active.map ActiveRun.id

theorem isSome_find?_iff (s : Session σ) (id : RunId) : (s.find? id).isSome ↔ id ∈ s.ids := by
  simp [find?, ids]

theorem mem_ids_iff_exists {s : Session σ} {id : RunId} :
    id ∈ s.ids ↔ ∃ run, s.find? id = some run := by
  rw [← isSome_find?_iff, Option.isSome_iff_exists]

/-- A change that keeps the ids is a change of what is found under one id. -/
theorem find?_update (s : Session σ) (id other : RunId) {f : ActiveRun → ActiveRun}
    (hf : ∀ run, (f run).id = run.id) :
    (s.update id f).find? other = if other = id then (s.find? id).map f else s.find? other := by
  have hkeep : ∀ run : ActiveRun, (if run.id = id then f run else run).id = run.id := by
    intro run
    split
    · exact hf run
    · rfl
  -- so looking up an id finds the same place as before, and only what stands there may differ
  simp only [find?, update, List.find?_map, Function.comp_def, hkeep]
  split
  · rename_i hother
    subst hother
    cases hrun : s.active.find? fun run => decide (run.id = other) with
    | none => rfl
    | some run =>
        have hid : run.id = other := by simpa using List.find?_some hrun
        simp [hid]
  · rename_i hother
    cases hrun : s.active.find? fun run => decide (run.id = other) with
    | none => rfl
    | some run =>
        have hid : run.id = other := by simpa using List.find?_some hrun
        simp [hid, hother]

theorem find?_update_self {s : Session σ} {id : RunId} {run : ActiveRun}
    (hrun : s.find? id = some run) {f : ActiveRun → ActiveRun} (hf : ∀ run, (f run).id = run.id) :
    (s.update id f).find? id = some (f run) := by
  rw [find?_update s id id hf, if_pos rfl, hrun, Option.map_some]

theorem find?_update_of_ne (s : Session σ) {id other : RunId} (hother : other ≠ id)
    {f : ActiveRun → ActiveRun} (hf : ∀ run, (f run).id = run.id) :
    (s.update id f).find? other = s.find? other := by
  rw [find?_update s id other hf, if_neg hother]

theorem find?_remove (s : Session σ) (id other : RunId) :
    (s.remove id).find? other = if other = id then none else s.find? other := by
  simp only [find?, remove, List.find?_filter]
  split
  · rename_i hother
    subst hother
    simp
  · rename_i hother
    refine congrArg (List.find? · s.active) (funext fun run => ?_)
    by_cases hid : run.id = other <;> simp [hid, hother]

/-- A prepared run is found under its id, unless an older run with that id is still there. -/
theorem find?_prepare (s : Session σ) (desk : Nat) (now : Instant) (other : RunId) :
    (s.prepare desk now).2.find? other =
      (s.find? other).or
        (if (s.prepare desk now).1 = other then some { id := other, home := desk } else none) := by
  simp only [find?, prepare, List.find?_append, List.find?_singleton]
  refine congrArg (Option.or _) ?_
  by_cases hid : RunId.next now s.sequence = other
  · simp [hid]
  · simp [hid]

theorem ids_update (s : Session σ) (id : RunId) {f : ActiveRun → ActiveRun}
    (hf : ∀ run, (f run).id = run.id) : (s.update id f).ids = s.ids := by
  simp only [ids, update, List.map_map]
  refine List.map_congr_left fun run _ => ?_
  simp only [Function.comp_apply]
  split
  · exact hf run
  · rfl

@[simp] theorem ids_remove (s : Session σ) (id : RunId) :
    (s.remove id).ids = s.ids.filter (· ≠ id) := by
  simp only [ids, remove, List.filter_map]
  rfl

@[simp] theorem ids_prepare (s : Session σ) (desk : Nat) (now : Instant) :
    (s.prepare desk now).2.ids = s.ids ++ [(s.prepare desk now).1] := by
  simp [ids, prepare]

/-! ## What a desk sees -/

theorem findAt?_eq_some_of_find? {s : Session σ} {id : RunId} {run : ActiveRun}
    (hrun : s.find? id = some run) : s.findAt? run.home id = some run := by
  have hid := id_of_find? hrun
  unfold find? at hrun
  unfold findAt?
  rw [List.find?_eq_some_iff_append] at hrun ⊢
  -- no run before it has this id, so none before it is passed over for its home
  obtain ⟨-, before, after, hsplit, hbefore⟩ := hrun
  refine ⟨by simp [hid], before, after, hsplit, ?_⟩
  intro other hother
  have := hbefore other hother
  simp_all

theorem findAt?_eq_none_of_find? {s : Session σ} {id : RunId} (hover : s.find? id = none)
    (desk : Nat) : s.findAt? desk id = none := by
  unfold find? at hover
  unfold findAt?
  rw [List.find?_eq_none] at hover ⊢
  intro run hrun
  have := hover run hrun
  simp_all

/-- A desk sees a run that is at home there. -/
theorem findAt?_eq_find? {s : Session σ} {desk : Nat} {id : RunId}
    (hhome : ∀ run, s.find? id = some run → run.home = desk) : s.findAt? desk id = s.find? id := by
  cases hrun : s.find? id with
  | none => exact findAt?_eq_none_of_find? hrun desk
  | some run =>
      rw [← hhome run hrun]
      exact findAt?_eq_some_of_find? hrun

theorem mem_activeIds_iff (s : Session σ) (desk : Nat) (id : RunId) :
    id ∈ s.activeIds desk ↔ (s.findAt? desk id).isSome := by
  simp only [activeIds, List.mem_mergeSort, List.mem_map, List.mem_filter, findAt?,
    List.find?_isSome, decide_eq_true_eq]
  constructor
  · rintro ⟨run, ⟨hrun, hhome⟩, hid⟩
    exact ⟨run, hrun, hid, hhome⟩
  · rintro ⟨run, hrun, hid, hhome⟩
    exact ⟨run, ⟨hrun, hhome⟩, hid⟩

/-! ## Changing the state of a run -/

@[simp] theorem transition_store (s : Session σ) (desk : Nat) (id : RunId) (next : RunState) :
    (s.transition desk id next).store = s.store := by
  unfold transition
  split <;> rfl

@[simp] theorem transition_resources (s : Session σ) (desk : Nat) (id : RunId) (next : RunState) :
    (s.transition desk id next).resources = s.resources := by
  unfold transition
  split <;> rfl

@[simp] theorem ids_transition (s : Session σ) (desk : Nat) (id : RunId) (next : RunState) :
    (s.transition desk id next).ids = s.ids := by
  unfold transition
  split
  · rfl
  · exact ids_update s id fun _ => rfl

/-- A desk that sees the run writes the new state down, with the one it found. -/
theorem transition_of_findAt? {s : Session σ} {desk : Nat} {id : RunId} {run : ActiveRun}
    (hrun : s.findAt? desk id = some run) (next : RunState) :
    s.transition desk id next =
      { s.update id (fun r => { r with state := next }) with
        moves := s.moves ++ [⟨id, run.state, next⟩] } := by
  simp only [transition, hrun]

/-- Whoever makes it, a change of state leaves the rest of the run as it was. -/
theorem exists_find?_transition {s : Session σ} {id : RunId} {run : ActiveRun}
    (hrun : s.find? id = some run) (desk : Nat) (next : RunState) :
    ∃ state, (s.transition desk id next).find? id = some { run with state } := by
  unfold transition
  split
  · exact ⟨run.state, hrun⟩
  · exact ⟨next, find?_update_self hrun fun _ => rfl⟩

theorem find?_transition_of_ne (s : Session σ) (desk : Nat) {id other : RunId} (next : RunState)
    (hother : other ≠ id) : (s.transition desk id next).find? other = s.find? other := by
  unfold transition
  split
  · rfl
  · exact find?_update_of_ne s hother fun _ => rfl

/-! ## Giving up what a run keeps -/

theorem release_eq (s : Session σ) (b : Backends σ) (position : Position) :
    s.release b position = { s with resources := (s.release b position).resources } := by
  unfold release
  split <;> rfl

end MatchingDecomp.Session
