import Mathlib.Data.List.Infix
import MatchingDecomp.Text.Search

/-!
# Where a pattern occurs

Searching a text is asking for an infix (`occursIn_iff_infix`).  A pattern with a separator in it
can only occur where the text has the separator, too, so a text that is given word by word can be
searched word by word: it is enough to look at the end of each word and the beginning of the next
one (`occursIn_intercalate`).
-/

namespace MatchingDecomp.Text

theorem occursIn_iff_infix (pat text : List Char) : occursIn pat text = true ↔ pat <:+: text := by
  induction text with
  | nil => rw [occursIn, List.isEmpty_iff, List.infix_nil]
  | cons c rest ih =>
      rw [occursIn, Bool.or_eq_true, List.isPrefixOf_iff_prefix, ih, List.infix_cons_iff]

/-- The first separator of a text, and any separator of it. -/
theorem eq_or_exists_of_separators {sep : Char} {word rest before after : List Char}
    (hword : sep ∉ word) (heq : before ++ sep :: after = word ++ sep :: rest) :
    before = word ∧ after = rest ∨
      ∃ middle, before = word ++ sep :: middle ∧ rest = middle ++ sep :: after := by
  rcases List.append_eq_append_iff.mp heq with ⟨more, hmore, hafter⟩ | ⟨more, hmore, hrest⟩
  · -- the separator is not in the word, so nothing of the word is left
    rcases List.cons_eq_append_iff.mp hafter with ⟨rfl, hrest⟩ | ⟨tail, rfl, -⟩
    · rw [List.append_nil] at hmore
      exact .inl ⟨hmore.symm, (List.cons.inj hrest).2.symm⟩
    · exact absurd (by simp [hmore]) hword
  · rcases List.cons_eq_append_iff.mp hrest with ⟨rfl, hafter⟩ | ⟨middle, rfl, hmiddle⟩
    · rw [List.append_nil] at hmore
      exact .inl ⟨hmore, (List.cons.inj hafter).2⟩
    · exact .inr ⟨middle, hmore, hmiddle⟩

theorem suffix_of_append_eq {sep : Char} {left before middle start : List Char}
    (hleft : sep ∉ left) (heq : start ++ left = before ++ sep :: middle) : left <:+ middle := by
  rcases List.append_eq_append_iff.mp heq with ⟨more, -, hsplit⟩ | ⟨more, -, hsplit⟩
  · exact absurd (by simp [hsplit]) hleft
  · rcases List.cons_eq_append_iff.mp hsplit with ⟨-, hsplit⟩ | ⟨tail, -, hsplit⟩
    · exact absurd (by simp [hsplit]) hleft
    · exact ⟨tail, hsplit.symm⟩

theorem infix_word_iff {sep : Char} {left right word rest : List Char} (hleft : sep ∉ left)
    (hword : sep ∉ word) :
    left ++ sep :: right <:+: word ++ sep :: rest ↔
      left <:+ word ∧ right <+: rest ∨ left ++ sep :: right <:+: rest := by
  constructor
  · rintro ⟨start, final, heq⟩
    have hsplit : (start ++ left) ++ sep :: (right ++ final) = word ++ sep :: rest := by
      simpa using heq
    rcases eq_or_exists_of_separators hword hsplit with ⟨rfl, rfl⟩ | ⟨middle, hmiddle, rfl⟩
    · exact .inl ⟨List.suffix_append .., List.prefix_append ..⟩
    · obtain ⟨tail, rfl⟩ := suffix_of_append_eq hleft hmiddle
      exact .inr ⟨tail, final, by simp⟩
  · rintro (⟨⟨start, rfl⟩, final, rfl⟩ | hrest)
    · exact ⟨start, final, by simp⟩
    · exact hrest.trans ⟨word ++ [sep], [], by simp⟩

/-- A pattern of two words, searched in a text that begins with a word. -/
theorem occursIn_word {sep : Char} {left right word : List Char} (hleft : sep ∉ left)
    (hword : sep ∉ word) (rest : List Char) :
    occursIn (left ++ sep :: right) (word ++ sep :: rest) =
      (left.isSuffixOf word && right.isPrefixOf rest || occursIn (left ++ sep :: right) rest) := by
  rw [Bool.eq_iff_iff, occursIn_iff_infix, infix_word_iff hleft hword, Bool.or_eq_true,
    Bool.and_eq_true, List.isSuffixOf_iff_suffix, List.isPrefixOf_iff_prefix, occursIn_iff_infix]

theorem isPrefixOf_append_separator {sep : Char} {right : List Char} (hright : sep ∉ right)
    (word rest : List Char) :
    right.isPrefixOf (word ++ sep :: rest) = right.isPrefixOf word := by
  rw [Bool.eq_iff_iff, List.isPrefixOf_iff_prefix, List.isPrefixOf_iff_prefix]
  refine ⟨?_, fun hshort => hshort.trans (List.prefix_append ..)⟩
  rintro ⟨final, heq⟩
  rcases List.append_eq_append_iff.mp heq with ⟨more, rfl, -⟩ | ⟨more, rfl, hsplit⟩
  · exact List.prefix_append ..
  · rcases List.cons_eq_append_iff.mp hsplit with ⟨rfl, -⟩ | ⟨tail, rfl, -⟩
    · rw [List.append_nil]
    · exact absurd (by simp) hright

/-- A pattern of two words occurs in a text of words where one word ends and the next one begins in
the right way. -/
theorem occursIn_intercalate {sep : Char} {left right : List Char} (hleft : sep ∉ left)
    (hright : sep ∉ right) :
    ∀ words : List (List Char), (∀ word ∈ words, sep ∉ word) →
      occursIn (left ++ sep :: right) ([sep].intercalate words) =
        (words.zip words.tail).any fun pair =>
          left.isSuffixOf pair.1 && right.isPrefixOf pair.2
  | [], _ => by simp [occursIn]
  | [word], hwords => by
      have hword : sep ∉ word := hwords word List.mem_cons_self
      simp only [List.intercalate_singleton, List.tail_cons, List.zip_nil_right, List.any_nil]
      rw [Bool.eq_false_iff, ne_eq, occursIn_iff_infix]
      exact fun hoccurs => hword (hoccurs.subset (by simp))
  | word :: next :: rest, hwords => by
      have ih := occursIn_intercalate hleft hright (next :: rest) fun other hother =>
        hwords other (List.mem_cons_of_mem _ hother)
      have hnext : right.isPrefixOf ([sep].intercalate (next :: rest)) =
          right.isPrefixOf next := by
        cases rest with
        | nil => rw [List.intercalate_singleton]
        | cons last rest =>
            rw [List.intercalate_cons_cons, List.append_assoc]
            exact isPrefixOf_append_separator hright ..
      rw [List.intercalate_cons_cons, List.append_assoc, List.singleton_append,
        occursIn_word hleft (hwords word List.mem_cons_self), hnext, ih]
      rfl

end MatchingDecomp.Text
