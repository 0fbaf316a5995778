import Mathlib.Data.List.DropRight
import MatchingDecomp.Run.Store

/-!
# The history as a list

Two operations change a history, and after any number of them there is one list behind it
(`kept`): the runs that were recorded since the last time it was cleared, newest first, cut off at
the limit.  Recording one run more puts it in front, and at most the oldest one falls out
(`append_of_take`); so the history holds this list after every operation (`after_eq_kept`), and
whatever can be asked of the history is a question about the list.

The counts of a summary are kept up run by run, so what they say about a list of runs is an
induction over the list (`count_ofRuns`).
-/

namespace MatchingDecomp

/-! ## Counting -/

namespace Summary

/-- The number of runs with a status. -/
def count (s : Summary) : RunStatus → Nat
  | .success => s.success
  | .warning => s.warning
  | .error => s.error

theorem total_add (s : Summary) (run : Run) : (s.add run).total = s.total + 1 := by
  unfold add
  cases run.status <;> rfl

theorem count_add (s : Summary) (run : Run) (status : RunStatus) :
    (s.add run).count status = s.count status + if run.status = status then 1 else 0 := by
  unfold add
  cases run.status <;> cases status <;> rfl

theorem total_foldl_add (runs : List Run) (s : Summary) :
    (runs.foldl add s).total = s.total + runs.length := by
  induction runs generalizing s with
  | nil => rfl
  | cons run runs ih =>
      rw [List.foldl_cons, ih, total_add, List.length_cons]
      omega

theorem count_foldl_add (runs : List Run) (s : Summary) (status : RunStatus) :
    (runs.foldl add s).count status =
      s.count status + runs.countP fun run => run.status = status := by
  induction runs generalizing s with
  | nil => rfl
  | cons run runs ih =>
      rw [List.foldl_cons, ih, count_add, List.countP_cons]
      simp only [decide_eq_true_eq]
      omega

theorem total_ofRuns (runs : List Run) : (ofRuns runs).total = runs.length := by
  rw [ofRuns, total_foldl_add]
  exact Nat.zero_add _

theorem count_ofRuns (runs : List Run) (status : RunStatus) :
    (ofRuns runs).count status = runs.countP fun run => run.status = status := by
  have hzero : ({} : Summary).count status = 0 := by
    cases status <;> rfl
  rw [ofRuns, count_foldl_add, hzero, Nat.zero_add]

/-- Every run is counted once, whatever its status. -/
theorem total_foldl_add_eq_sum (runs : List Run) {s : Summary}
    (hs : s.total = s.success + s.warning + s.error) :
    (runs.foldl add s).total =
      (runs.foldl add s).success + (runs.foldl add s).warning + (runs.foldl add s).error := by
  induction runs generalizing s with
  | nil => exact hs
  | cons run runs ih =>
      rw [List.foldl_cons]
      apply ih
      unfold add
      cases run.status <;> dsimp only <;> omega

end Summary

/-! ## Operations -/

namespace Store

/-- What can be done to a history. -/
inductive Operation where
  | append (run : Run)
  | clear
  deriving DecidableEq

/-- The run that an operation records. -/
def Operation.recorded? : Operation → Option Run
  | .append run => some run
  | .clear => none

/-- The history after an operation. -/
def Operation.apply (s : Store) : Operation → Store
  | .append run => s.append run
  | .clear => s.clear

/-- A new history after operations, the first one first. -/
def after (limit : Nat) (operations : List Operation) : Store :=
  operations.foldl Operation.apply (withLimit limit)

/-- The runs that were recorded since the history was last cleared, in the order in which that
happened. -/
def recorded (operations : List Operation) : List Run :=
  (operations.rtakeWhile fun operation => operation ≠ .clear).filterMap Operation.recorded?

/-- What is left of the recorded runs under a limit: the newest of them, newest first. -/
def kept (limit : Nat) (operations : List Operation) : List Run :=
  (recorded operations).reverse.take (max limit 1)

theorem recorded_concat_append (operations : List Operation) (run : Run) :
    recorded (operations ++ [.append run]) = recorded operations ++ [run] := by
  have hkept : decide (Operation.append run ≠ .clear) = true := rfl
  rw [recorded, List.rtakeWhile_concat, if_pos hkept, List.filterMap_append]
  rfl

theorem recorded_concat_clear (operations : List Operation) :
    recorded (operations ++ [.clear]) = [] := by
  have hcleared : ¬ decide (Operation.clear ≠ .clear) = true := by decide
  rw [recorded, List.rtakeWhile_concat, if_neg hcleared]
  rfl

/-! ## One operation -/

/-- The newest runs stay the newest when one more comes before them. -/
theorem append_of_take (limit : Nat) (runs : List Run) (run : Run) :
    (⟨limit, runs.take limit⟩ : Store).append run = ⟨limit, (run :: runs).take limit⟩ := by
  cases limit with
  | zero => rfl
  | succ n =>
      simp only [append, List.take_succ_cons, List.take_take, Nat.min_eq_left (Nat.le_succ n)]

/-! ## All operations -/

/-- The history holds the list behind it. -/
theorem after_eq_kept (limit : Nat) (operations : List Operation) :
    after limit operations = ⟨max limit 1, kept limit operations⟩ := by
  induction operations using List.reverseRecOn with
  | nil =>
      rw [kept, show recorded [] = [] from rfl, List.reverse_nil, List.take_nil]
      rfl
  | append_singleton operations operation ih =>
      have hlast : after limit (operations ++ [operation]) =
          operation.apply (after limit operations) := by
        rw [after, List.foldl_append]
        rfl
      rw [hlast, ih]
      cases operation with
      | append run =>
          show (⟨max limit 1, kept limit operations⟩ : Store).append run = _
          rw [kept, kept, recorded_concat_append, List.reverse_append]
          exact append_of_take ..
      | clear =>
          have hnone : kept limit (operations ++ [.clear]) = [] := by
            rw [kept, recorded_concat_clear, List.reverse_nil, List.take_nil]
          rw [hnone]
          rfl

/-- The run that a history finds under an id is the newest of those with this id. -/
theorem get?_eq_some_iff {s : Store} {id : RunId} {run : Run} :
    s.get? id = some run ↔
      run.id = id ∧ ∃ newer older, s.runs = newer ++ run :: older ∧
        ∀ other ∈ newer, other.id ≠ id := by
  rw [get?, List.find?_eq_some_iff_append]
  simp only [decide_eq_true_eq, Bool.not_eq_true', decide_eq_false_iff_not, ne_eq]

theorem get?_eq_none_iff {s : Store} {id : RunId} :
    s.get? id = none ↔ ∀ run ∈ s.runs, run.id ≠ id := by
  rw [get?, List.find?_eq_none]
  simp only [decide_eq_true_eq, ne_eq]

/-- **The history is a list cut off.**  After any operations on a new history there is one list, the
recorded runs from the newest one on as far as the limit goes, and every answer of the history is
read off it: the runs themselves and their number, the newest run with an id, and the counts by
status.  A limit of zero counts as one, and ids may be repeated. -/
theorem refines_truncated_list (limit : Nat) (operations : List Operation) :
    let s := after limit operations
    let runs := (recorded operations).reverse.take (max limit 1)
    s.runs = runs ∧ s.size = runs.length ∧ s.limit = max limit 1 ∧ s.size ≤ s.limit ∧
      (∀ id run, s.get? id = some run ↔
        run.id = id ∧ ∃ newer older, runs = newer ++ run :: older ∧
          ∀ other ∈ newer, other.id ≠ id) ∧
      (∀ id, s.get? id = none ↔ ∀ run ∈ runs, run.id ≠ id) ∧
      s.summary.total = s.size ∧
      s.summary.total = s.summary.success + s.summary.warning + s.summary.error ∧
      ∀ status, s.summary.count status = runs.countP fun run => run.status = status := by
  intro s runs
  have hs : s = ⟨max limit 1, runs⟩ := after_eq_kept limit operations
  have hlength : runs.length ≤ max limit 1 := List.length_take_le ..
  rw [hs]
  refine ⟨rfl, rfl, rfl, hlength, ?_, ?_, ?_, ?_, ?_⟩
  · intro id run
    exact get?_eq_some_iff
  · intro id
    exact get?_eq_none_iff
  · exact Summary.total_ofRuns runs
  · exact Summary.total_foldl_add_eq_sum runs rfl
  · intro status
    exact Summary.count_ofRuns runs status

/-- With room for two, what was recorded before the history was cleared does not count, and the
oldest of three runs goes. -/
example (a b c d : Run) :
    (after 2 [.append d, .clear, .append a, .append b, .append c]).runs = [c, b] := rfl

end Store

end MatchingDecomp
