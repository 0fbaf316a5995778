import MatchingDecomp.Proofs.Session.Minutes

/-!
# Tickets

Preparing a run gives out a ticket.  The ticket is open until the run comes to a result, whatever
the result, or until it is dropped.  The active runs of a session are the runs with open tickets
(`mem_ids_iff_open`): none is lost and none is left behind.

No id has to be new for that.  If an id is given out twice, the two tickets are closed together, and
still its runs come to at most two results (`results_length_add_count_le`).
-/

namespace MatchingDecomp

open Minutes

variable {σ : Type}

/-- The ticket that is closed, if this is an entry that closes one. -/
def Entry.closed? (entry : Entry) : Option RunId :=
  match entry.answer, entry.command with
  | .moved (.finished _), command => command.moved?
  | .done, .drop id => some id
  | _, _ => none

/-- The open tickets after an entry, from those before it. -/
def Entry.tickets (entry : Entry) (ids : List RunId) : List RunId :=
  (ids.filter fun id => entry.closed? ≠ some id) ++ entry.issued?.toList

theorem Entry.tickets_of_none {entry : Entry} (hclosed : entry.closed? = none)
    (hissued : entry.issued? = none) (ids : List RunId) : entry.tickets ids = ids := by
  simp [tickets, hclosed, hissued]

theorem Entry.tickets_of_closed {entry : Entry} {id : RunId} (hclosed : entry.closed? = some id)
    (hissued : entry.issued? = none) (ids : List RunId) :
    entry.tickets ids = ids.filter (· ≠ id) := by
  simp only [tickets, hclosed, hissued, Option.toList_none, List.append_nil]
  refine List.filter_congr fun other _ => ?_
  simp [eq_comm]

theorem Entry.count_tickets_le (entry : Entry) (id : RunId) (ids : List RunId) :
    (entry.tickets ids).count id ≤ (issued [entry]).count id + ids.count id := by
  have hissued : issued [entry] = entry.issued?.toList := by
    cases hentry : entry.issued? <;> simp [issued, hentry]
  have hkept := (List.filter_sublist (p := fun id => entry.closed? ≠ some id)
    (l := ids)).count_le id
  rw [tickets, List.count_append, hissued]
  omega

namespace Minutes

/-- A ticket was given out and not closed since. -/
def Open (id : RunId) (minutes : List Entry) : Prop :=
  ∃ before entry after, minutes = before ++ entry :: after ∧ entry.issued? = some id ∧
    ∀ later ∈ after, later.closed? ≠ some id

theorem open_concat_iff (id : RunId) (minutes : List Entry) (entry : Entry) :
    Open id (minutes ++ [entry]) ↔
      entry.issued? = some id ∨ (Open id minutes ∧ entry.closed? ≠ some id) := by
  constructor
  · rintro ⟨before, issue, after, hsplit, hissue, hopen⟩
    -- either the new entry gave out the ticket, or it stands among the later ones
    rcases List.eq_nil_or_concat after with rfl | ⟨initial, last, rfl⟩
    · obtain ⟨-, hentry⟩ := List.append_inj' hsplit rfl
      obtain rfl : entry = issue := by simpa using hentry
      exact .inl hissue
    · rw [List.concat_eq_append] at hsplit hopen
      rw [← List.cons_append, ← List.append_assoc] at hsplit
      obtain ⟨hminutes, hlast⟩ := List.append_inj' hsplit rfl
      obtain rfl : entry = last := by simpa using hlast
      refine .inr ⟨⟨before, issue, initial, hminutes, hissue, ?_⟩, hopen entry (by simp)⟩
      intro later hlater
      exact hopen later (List.mem_append_left _ hlater)
  · rintro (hissue | ⟨⟨before, issue, after, rfl, hissue, hopen⟩, hentry⟩)
    · exact ⟨minutes, entry, [], rfl, hissue, by simp⟩
    · refine ⟨before, issue, after ++ [entry], by simp, hissue, ?_⟩
      intro later hlater
      rcases List.mem_append.mp hlater with hlater | hlater
      · exact hopen later hlater
      · rwa [List.mem_singleton.mp hlater]

end Minutes

/-! ## One command -/

namespace Effect

variable {b : Backends σ} {s after : Session σ} {entry : Entry}

/-- A command closes the ticket that its entry names, and adds the one that it gives out. -/
theorem ids_eq (heffect : Effect b s entry after) : after.ids = entry.tickets s.ids := by
  cases heffect with
  | prepared desk now =>
      rw [Session.ids_prepare]
      exact congrArg (· ++ [_]) (List.filter_eq_self.mpr fun _ _ => rfl).symm
  | refused hmoved hrefused => exact (Entry.tickets_of_none rfl rfl _).symm
  | entered hrun hmoving hcancelled =>
      rw [Session.ids_entered]
      exact (Entry.tickets_of_none rfl rfl _).symm
  | @ended run command calls _ _ _ _ result hrun hmoving hending =>
      have hclosed : (⟨command, .moved (.finished result), calls⟩ : Entry).closed? =
          some run.id := hmoving.moved?_eq
      rw [Session.ids_finish]
      exact (Entry.tickets_of_closed hclosed rfl _).symm
  | cancelled desk id hrun =>
      rw [Entry.tickets_of_none rfl rfl]
      exact Session.ids_update s id fun _ => rfl
  | unknown desk id hrun => exact (Entry.tickets_of_none rfl rfl _).symm
  | dropped id resources =>
      rw [Session.ids_remove]
      exact (Entry.tickets_of_closed rfl rfl _).symm
  | cleared => exact (Entry.tickets_of_none rfl rfl _).symm

/-- A run that comes to a result was active, and is so no more. -/
theorem mem_ids_of_result (heffect : Effect b s entry after) {id : RunId}
    {result : Except PipelineError Run} (hresult : entry.resultOf? id = some result) :
    id ∈ s.ids ∧ id ∉ after.ids := by
  obtain ⟨hmoved, hanswer⟩ := Entry.resultOf?_eq_some_iff.mp hresult
  cases heffect with
  | @ended run _ _ _ _ _ _ _ hrun hmoving hending =>
      obtain rfl := hmoving.id_eq hmoved
      refine ⟨Session.mem_ids_iff_exists.mpr ⟨run, hrun⟩, ?_⟩
      rw [Session.ids_finish]
      simp
  | _ => cases hanswer

end Effect

/-! ## All commands -/

namespace Session

variable (b : Backends σ) (resources : σ) (limit : Nat) (sequence : UInt64)
  (commands : List Command)

/-- **The active runs are the runs with open tickets.** -/
theorem mem_ids_iff_open (id : RunId) :
    id ∈ ((opened resources limit sequence).play b commands).2.ids ↔
      Open id ((opened resources limit sequence).play b commands).1 := by
  refine play_induction (P := fun minutes s => id ∈ s.ids ↔ Open id minutes) ?_ ?_ commands
  · simp [opened, ids, Open]
  · intro minutes t command hminutes
    rw [open_concat_iff, ← hminutes, (obey_effect b t command).ids_eq]
    simp only [Entry.tickets, List.mem_append, List.mem_filter, decide_eq_true_eq,
      Option.mem_toList]
    exact or_comm

/-- What a ticket came to, and what it can still come to, is bounded by what was given out: a run
that comes to a result is not active any more. -/
theorem results_length_add_count_le (id : RunId) :
    (results id ((opened resources limit sequence).play b commands).1).length +
        ((opened resources limit sequence).play b commands).2.ids.count id ≤
      (issued ((opened resources limit sequence).play b commands).1).count id := by
  refine play_induction (P := fun minutes s =>
    (results id minutes).length + s.ids.count id ≤ (issued minutes).count id) ?_ ?_ commands
  · simp [opened, ids, results]
  · intro minutes t command hminutes
    have heffect := obey_effect b t command
    rw [results_append, issued_append, List.length_append, List.count_append]
    cases hresult : (t.entry b command).resultOf? id with
    | none =>
        have hnone : results id [t.entry b command] = [] := by simp [results, hresult]
        have hcount := (t.entry b command).count_tickets_le id t.ids
        rw [hnone, List.length_nil, heffect.ids_eq]
        omega
    | some result =>
        -- the run was active before, and it is not counted among the active runs any more
        obtain ⟨hbefore, hafter⟩ := heffect.mem_ids_of_result hresult
        have hone : results id [t.entry b command] = [result] := by simp [results, hresult]
        have hpos := List.count_pos_iff.mpr hbefore
        rw [hone, List.length_singleton, List.count_eq_zero.mpr hafter]
        omega

/-- If every id was new when it was given out, no two active runs have the same. -/
theorem nodup_ids_of_nodup_issued
    (hfresh : (issued ((opened resources limit sequence).play b commands).1).Nodup) :
    ((opened resources limit sequence).play b commands).2.ids.Nodup := by
  rw [List.nodup_iff_count] at hfresh ⊢
  intro id
  have hbalance := results_length_add_count_le b resources limit sequence commands id
  have hone := hfresh id
  omega

end Session

end MatchingDecomp
