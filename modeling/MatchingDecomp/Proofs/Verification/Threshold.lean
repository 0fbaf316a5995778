import MatchingDecomp.Proofs.Verification.Match

/-!
# Verdicts on either side of the threshold

A measured score is cut down twice before it is recorded: to a hundred, and to one below the
threshold if there are discrepancies.  Both cuts together are one, at a ceiling that depends on the
discrepancies only (`Verdict.scoreOf_eq_min`).  The ceiling lies above the threshold exactly if
there are no discrepancies, and this is why

* a verdict is a match exactly if the measured score is above the threshold and nothing was found to
  differ (`Verdict.reflects_ofComparison`);
* a comparison that scores no less, and finds something to differ only if the other one does, has a
  verdict that is no worse (`Verdict.scoreOf_mono`).

Both are statements about comparisons.  A verifier only adds the comparison (`Inquiry.answer_eq`),
so they hold for every verifier, and for two verifiers that have nothing to do with each other.
-/

namespace MatchingDecomp

namespace Verdict

/-! ## The ceiling -/

/-- The highest score that can be recorded next to discrepancies. -/
def ceiling (discrepancies : List String) : Nat :=
  if discrepancies = [] then 100 else matchThreshold - 1

theorem ceiling_le (discrepancies : List String) : ceiling discrepancies ≤ 100 := by
  unfold ceiling
  split <;> decide

theorem lt_ceiling_iff {discrepancies : List String} :
    matchThreshold < ceiling discrepancies ↔ discrepancies = [] := by
  unfold ceiling
  split <;> rename_i hclean <;> simp only [hclean, iff_true, iff_false] <;> decide

/-- The fewer discrepancies, the higher the ceiling. -/
theorem ceiling_mono {discrepancies others : List String}
    (hfewer : others ≠ [] → discrepancies ≠ []) : ceiling discrepancies ≤ ceiling others := by
  by_cases hclean : others = []
  · calc ceiling discrepancies
        ≤ 100 := ceiling_le discrepancies
      _ = ceiling others := (if_pos hclean).symm
  · have hsame : ceiling discrepancies = ceiling others := by
      rw [ceiling, ceiling, if_neg hclean, if_neg (hfewer hclean)]
    exact Nat.le_of_eq hsame

theorem scoreOf_eq_min (c : Comparison) :
    scoreOf c = min c.score (ceiling c.discrepancies) := by
  rw [scoreOf_eq, ceiling]
  by_cases hclean : c.discrepancies = []
  · simp [hclean]
  · -- a score at or above the threshold falls to the ceiling, any other one is below it anyway
    simp only [hclean, ne_eq, not_false_eq_true, true_and, if_false]
    unfold matchThreshold
    split <;> omega

theorem scoreOf_mono {c c' : Comparison} (hscore : c.score ≤ c'.score)
    (hfewer : c'.discrepancies ≠ [] → c.discrepancies ≠ []) : scoreOf c ≤ scoreOf c' := by
  have hceiling := ceiling_mono hfewer
  rw [scoreOf_eq_min, scoreOf_eq_min]
  omega

theorem lt_scoreOf_iff (c : Comparison) :
    matchThreshold < scoreOf c ↔ matchThreshold < c.score ∧ c.discrepancies = [] := by
  rw [scoreOf_eq_min, Nat.lt_min, lt_ceiling_iff]

/-! ## What a verdict says about its comparison -/

/-- A verdict says what a comparison says, with the threshold of 90 applied. -/
structure Reflects (c : Comparison) (verdict : Verdict) : Prop where
  percentage_le : verdict.matchPercentage ≤ min c.score 100
  success_iff_percentage : verdict.success = true ↔ 90 < verdict.matchPercentage
  success_iff : verdict.success = true ↔ 90 < c.score ∧ c.discrepancies = []
  discrepancies_eq : verdict.discrepancies =
    if c.discrepancies ≠ [] then c.discrepancies
    else if 90 < c.score then [] else ["unclassified difference"]
  detailedDiff_eq : verdict.detailedDiff = c.detailedDiff

theorem ofComparison_success_iff_score (c : Comparison) :
    (ofComparison c).success = true ↔ 90 < c.score ∧ c.discrepancies = [] :=
  (ofComparison_success_iff c).trans (lt_scoreOf_iff c)

theorem ofComparison_discrepancies (c : Comparison) :
    (ofComparison c).discrepancies =
      if c.discrepancies ≠ [] then c.discrepancies
      else if 90 < c.score then [] else ["unclassified difference"] := by
  by_cases hclean : c.discrepancies = []
  · have hsuccess := ofComparison_success_iff_score c
    rw [and_iff_left hclean] at hsuccess
    rw [if_neg (not_not_intro hclean)]
    by_cases hmatch : 90 < c.score
    · rw [if_pos hmatch, ofComparison_discrepancies_iff, hsuccess]
      exact hmatch
    · have hmiss : isMatch (scoreOf c) = false := by
        rw [← Bool.not_eq_true]
        exact fun hfalse => hmatch (hsuccess.mp hfalse)
      rw [if_neg hmatch]
      simp [ofComparison, hmiss, hclean, Category.unclassified]
  · simp [ofComparison, hclean]

theorem reflects_ofComparison (c : Comparison) : Reflects c (ofComparison c) where
  percentage_le := by
    have hceiling := ceiling_le c.discrepancies
    show scoreOf c ≤ min c.score 100
    rw [scoreOf_eq_min]
    omega
  success_iff_percentage := ofComparison_success_iff c
  success_iff := ofComparison_success_iff_score c
  discrepancies_eq := ofComparison_discrepancies c
  detailedDiff_eq := rfl

/-- A match stays a match when the score rises and the discrepancies go. -/
theorem success_mono {c c' : Comparison} (hscore : c.score ≤ c'.score)
    (hfewer : c'.discrepancies ≠ [] → c.discrepancies ≠ [])
    (hsuccess : (ofComparison c).success = true) : (ofComparison c').success = true := by
  rw [ofComparison_success_iff] at hsuccess ⊢
  exact Nat.lt_of_lt_of_le hsuccess (scoreOf_mono hscore hfewer)

end Verdict

/-! ## Asking a verifier -/

/-- A verifier, what it is asked about, and the resources it finds. -/
structure Inquiry (σ : Type) where
  verifier : Verifier σ
  fragment : Fragment
  source : String
  outcome : Outcome
  resources : σ

namespace Inquiry

variable {σ : Type}

/-- What the verifier answers. -/
def answer (q : Inquiry σ) : Except VerificationError Verdict :=
  (q.verifier.verify q.fragment q.source q.outcome q.resources).1

/-- The outcome has success, and the verifier compares its object with this result. -/
structure Measures (q : Inquiry σ) (c : Comparison) : Prop where
  compiled : q.outcome.success = true
  compared : (q.verifier.compare q.fragment q.source q.outcome.artifact q.resources).1 = .ok c

theorem answer_eq {q : Inquiry σ} {c : Comparison} (hmeasures : q.Measures c) :
    q.answer = .ok (.ofComparison c) := by
  rw [answer, Verifier.verify_of_success _ _ _ hmeasures.compiled, hmeasures.compared]
  rfl

/-- **The threshold is exact, and verdicts are monotone.**  Whatever the verifier is: if an outcome
has success and is compared, there is a verdict, and it reflects the comparison.  And if a second
verifier measures a score that is no lower, and discrepancies only if the first one does, then its
verdict has no lower percentage, and is a match if the first one is. -/
theorem verdict_exact_and_monotone (q : Inquiry σ) (c : Comparison) (hmeasures : q.Measures c) :
    ∃ verdict, q.answer = .ok verdict ∧ Verdict.Reflects c verdict ∧
      ∀ (τ : Type) (r : Inquiry τ) (c' : Comparison), r.Measures c' → c.score ≤ c'.score →
        (c'.discrepancies ≠ [] → c.discrepancies ≠ []) →
        ∃ verdict', r.answer = .ok verdict' ∧
          verdict.matchPercentage ≤ verdict'.matchPercentage ∧
          (verdict.success = true → verdict'.success = true) := by
  refine ⟨.ofComparison c, answer_eq hmeasures, Verdict.reflects_ofComparison c, ?_⟩
  intro τ r c' hmeasures' hscore hfewer
  refine ⟨.ofComparison c', answer_eq hmeasures', ?_, ?_⟩
  · exact Verdict.scoreOf_mono hscore hfewer
  · exact Verdict.success_mono hscore hfewer

/-- A verifier that measures the same whatever it is given. -/
def ofComparison (c : Comparison) : Inquiry Unit where
  verifier := { name := "fixed", compare := fun _ _ _ => pure (.ok c) }
  fragment := ⟨"f:", "f", none⟩
  source := "int f() {}"
  outcome := { success := true }
  resources := ()

/-- The same score with and without a discrepancy, one above the threshold. -/
theorem verdict_of_near_match :
    ∃ verdict, (ofComparison { score := 91, discrepancies := ["stack frame"] }).answer =
        .ok verdict ∧
      Verdict.Reflects { score := 91, discrepancies := ["stack frame"] } verdict ∧
      ∃ verdict', (ofComparison { score := 91 }).answer = .ok verdict' ∧
        verdict.matchPercentage ≤ verdict'.matchPercentage ∧
        (verdict.success = true → verdict'.success = true) := by
  obtain ⟨verdict, hanswer, hreflects, hmono⟩ :=
    verdict_exact_and_monotone (ofComparison { score := 91, discrepancies := ["stack frame"] }) _
      ⟨rfl, rfl⟩
  exact ⟨verdict, hanswer, hreflects,
    hmono Unit (ofComparison { score := 91 }) _ ⟨rfl, rfl⟩ (by decide) (by decide)⟩

end Inquiry

end MatchingDecomp
