import Mathlib.Data.List.TakeWhile
import MatchingDecomp.Text.Blank

/-!
# Texts with blanks around them

Blanks in front of a text and behind it go when the text is trimmed, and they belong to none of its
words.  So whatever looks at a text through `trim`, `allBlank` or `words` finds the same in the text
with blanks around it.

Trimming works from the front first.  A text that holds nothing but blanks is gone before its end is
looked at, which is why the blanks behind a text need a case of their own (`trim_append_blanks`).
-/

namespace MatchingDecomp.Text

variable {blanks : List Char}

theorem allBlank_iff : allBlank blanks = true ↔ ∀ c ∈ blanks, isBlank c = true := by
  rw [allBlank, List.all_eq_true]

theorem allBlank_append (cs ds : List Char) : allBlank (cs ++ ds) = (allBlank cs && allBlank ds) :=
  List.all_append

/-! ## Trimming -/

theorem trimStart_blanks_append (hblanks : allBlank blanks = true) (cs : List Char) :
    trimStart (blanks ++ cs) = trimStart cs :=
  List.dropWhile_append_of_pos (allBlank_iff.mp hblanks)

theorem trimEnd_append_blanks (hblanks : allBlank blanks = true) (cs : List Char) :
    trimEnd (cs ++ blanks) = trimEnd cs := by
  have hreverse : ∀ c ∈ blanks.reverse, isBlank c = true := by
    intro c hc
    exact allBlank_iff.mp hblanks c (List.mem_reverse.mp hc)
  rw [trimEnd, trimEnd, List.reverse_append, List.dropWhile_append_of_pos hreverse]

theorem trimStart_of_allBlank (hblanks : allBlank blanks = true) : trimStart blanks = [] :=
  List.dropWhile_eq_nil_iff.mpr (allBlank_iff.mp hblanks)

theorem trim_blanks_append (hblanks : allBlank blanks = true) (cs : List Char) :
    trim (blanks ++ cs) = trim cs := by
  rw [trim, trimStart_blanks_append hblanks, trim]

theorem trim_append_blanks (hblanks : allBlank blanks = true) (cs : List Char) :
    trim (cs ++ blanks) = trim cs := by
  unfold trim
  by_cases hcs : trimStart cs = []
  · -- nothing is left of the text, and so nothing is left of the blanks behind it
    have hall : allBlank cs = true := allBlank_iff.mpr (List.dropWhile_eq_nil_iff.mp hcs)
    rw [trimStart_blanks_append hall, trimStart_of_allBlank hblanks, hcs]
  · have hstart : trimStart (cs ++ blanks) = trimStart cs ++ blanks := by
      unfold trimStart at hcs ⊢
      rw [List.dropWhile_append, if_neg (by simpa using hcs)]
    rw [hstart, trimEnd_append_blanks hblanks]

/-! ## Words -/

theorem words_cons_of_isBlank {c : Char} (hc : isBlank c = true) (cs : List Char) :
    words (c :: cs) = words cs := by
  rw [words.eq_def]
  exact if_pos hc

theorem words_blanks_append (hblanks : allBlank blanks = true) (cs : List Char) :
    words (blanks ++ cs) = words cs := by
  induction blanks with
  | nil => rfl
  | cons c blanks ih =>
      rw [allBlank, List.all_cons, Bool.and_eq_true] at hblanks
      rw [List.cons_append, words_cons_of_isBlank hblanks.1]
      exact ih hblanks.2

theorem words_of_allBlank (hblanks : allBlank blanks = true) : words blanks = [] := by
  have hwords := words_blanks_append hblanks []
  rwa [List.append_nil] at hwords

theorem words_append_blanks (hblanks : allBlank blanks = true) (cs : List Char) :
    words (cs ++ blanks) = words cs := by
  induction cs with
  | nil => rw [List.nil_append, words_of_allBlank hblanks, words]
  | cons c cs ih =>
      cases hc : isBlank c with
      | true => rw [List.cons_append, words_cons_of_isBlank hc, words_cons_of_isBlank hc, ih]
      | false =>
          -- whether the word goes on after its first character is up to the second one
          cases cs with
          | nil =>
              cases blanks with
              | nil => rfl
              | cons b blanks =>
                  have hall := allBlank_iff.mp hblanks
                  have hb : isBlank b = true := hall b List.mem_cons_self
                  have hrest : words blanks = [] :=
                    words_of_allBlank (allBlank_iff.mpr fun d hd => hall d (.tail b hd))
                  simp [words, hc, hb, hrest]
          | cons d cs =>
              rw [List.cons_append] at ih ⊢
              rw [List.cons_append, words, words, ih]

end MatchingDecomp.Text
