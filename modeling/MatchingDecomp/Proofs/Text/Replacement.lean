import MatchingDecomp.Proofs.Text.Search

/-!
# The first occurrence of a pattern

`replaceFirst` walks along a text until the pattern begins.  `FirstAfter` says where that is,
without a walk: the pattern stands behind a beginning of the text, and every other place where it
stands comes later.  A pattern that occurs has such a place (`exists_firstAfter`), and there it is
replaced (`FirstAfter.replaceFirst_eq`).

To find the place in a text that is put together from parts, use a character that is not in the
pattern.  The pattern does not reach across it, so what stands before such a character can be
searched by itself (`FirstAfter.after_separator`).
-/

namespace MatchingDecomp.Text

variable {pat before text : List Char}

/-- The first occurrence of a pattern in a text is right behind `before`. -/
structure FirstAfter (pat before text : List Char) : Prop where
  stands : before ++ pat <+: text
  first : ∀ other, other ++ pat <+: text → before <+: other

theorem firstAfter_nil (hstart : pat <+: text) : FirstAfter pat [] text where
  stands := hstart
  first := fun _ _ => List.nil_prefix

theorem FirstAfter.cons {c : Char} (hstart : ¬ pat <+: c :: text)
    (hrest : FirstAfter pat before text) : FirstAfter pat (c :: before) (c :: text) where
  stands := by
    rw [List.cons_append, List.cons_prefix_cons]
    exact ⟨rfl, hrest.stands⟩
  first := by
    intro other hother
    cases other with
    | nil => exact absurd hother hstart
    | cons d other =>
        rw [List.cons_append, List.cons_prefix_cons] at hother
        rw [List.cons_prefix_cons]
        exact ⟨hother.1.symm, hrest.first other hother.2⟩

theorem FirstAfter.of_cons {c : Char} (hfirst : FirstAfter pat (c :: before) (c :: text)) :
    ¬ pat <+: c :: text ∧ FirstAfter pat before text := by
  refine ⟨?_, ?_, ?_⟩
  · intro hstart
    have hnil := hfirst.first [] hstart
    simp at hnil
  · have hstands := hfirst.stands
    rw [List.cons_append, List.cons_prefix_cons] at hstands
    exact hstands.2
  · intro other hother
    have hlater : c :: before <+: c :: other := by
      apply hfirst.first
      rw [List.cons_append, List.cons_prefix_cons]
      exact ⟨rfl, hother⟩
    rw [List.cons_prefix_cons] at hlater
    exact hlater.2

theorem exists_firstAfter (hoccurs : pat <:+: text) : ∃ before, FirstAfter pat before text := by
  induction text with
  | nil =>
      rw [List.infix_nil] at hoccurs
      exact ⟨[], firstAfter_nil (by rw [hoccurs])⟩
  | cons c text ih =>
      by_cases hstart : pat <+: c :: text
      · exact ⟨[], firstAfter_nil hstart⟩
      · have hrest := (List.infix_cons_iff.mp hoccurs).resolve_left hstart
        obtain ⟨before, hfirst⟩ := ih hrest
        exact ⟨c :: before, hfirst.cons hstart⟩

/-! ## Replacement -/

theorem FirstAfter.replaceFirst_eq {after : List Char}
    (hfirst : FirstAfter pat before (before ++ (pat ++ after))) (new : List Char) :
    replaceFirst pat new (before ++ (pat ++ after)) = before ++ (new ++ after) := by
  induction before with
  | nil =>
      rw [List.nil_append, List.nil_append]
      cases htext : pat ++ after with
      | nil =>
          obtain ⟨rfl, rfl⟩ := List.append_eq_nil_iff.mp htext
          rw [List.append_nil]
          rfl
      | cons c rest =>
          have hstart : pat.isPrefixOf (c :: rest) = true := by
            rw [List.isPrefixOf_iff_prefix, ← htext]
            exact List.prefix_append pat after
          rw [replaceFirst, if_pos hstart, ← htext, List.drop_left]
  | cons c before ih =>
      obtain ⟨hstart, hrest⟩ := hfirst.of_cons
      have hskip : ¬ pat.isPrefixOf (c :: (before ++ (pat ++ after))) = true := by
        rwa [List.isPrefixOf_iff_prefix]
      rw [List.cons_append, replaceFirst, if_neg hskip, ih hrest, List.cons_append]

theorem replaceFirst_of_not_infix (habsent : ¬ pat <:+: text) (new : List Char) :
    replaceFirst pat new text = text := by
  induction text with
  | nil =>
      have hpat : ¬ pat.isEmpty = true := by
        rwa [List.isEmpty_iff, ← List.infix_nil]
      rw [replaceFirst, if_neg hpat]
  | cons c text ih =>
      rw [List.infix_cons_iff, not_or] at habsent
      have hskip : ¬ pat.isPrefixOf (c :: text) = true := by
        rw [List.isPrefixOf_iff_prefix]
        exact habsent.1
      rw [replaceFirst, if_neg hskip, ih habsent.2]

/-! ## Separators -/

/-- An occurrence of a pattern does not reach across a character that is not in the pattern. -/
theorem prefix_append_separator {sep : Char} (hsep : sep ∉ pat) {other left more : List Char}
    (hother : other ++ pat <+: left ++ sep :: more) :
    other ++ pat <+: left ∨ ∃ rest, other = left ++ sep :: rest ∧ rest ++ pat <+: more := by
  obtain ⟨final, heq⟩ := hother
  rcases List.append_eq_append_iff.mp heq with ⟨gap, hleft, -⟩ | ⟨excess, hexcess, hmore⟩
  · exact .inl ⟨gap, hleft.symm⟩
  · rcases List.cons_eq_append_iff.mp hmore with ⟨rfl, -⟩ | ⟨tail, rfl, htail⟩
    · rw [List.append_nil] at hexcess
      exact .inl (hexcess ▸ List.prefix_rfl)
    · -- the separator is in `other`, since it is not in the pattern
      rcases List.append_eq_append_iff.mp hexcess with ⟨start, -, hpat⟩ | ⟨start, hstart, hend⟩
      · exact absurd (by simp [hpat]) hsep
      · rcases List.cons_eq_append_iff.mp hend with ⟨-, hpat⟩ | ⟨rest, rfl, hrest⟩
        · exact absurd (by simp [hpat]) hsep
        · refine .inr ⟨rest, hstart, ?_⟩
          rw [htail, hrest]
          exact List.prefix_append _ final

theorem FirstAfter.after_separator (hfirst : FirstAfter pat before text) {sep : Char}
    (hsep : sep ∉ pat) {line : List Char} (hline : ¬ pat <:+: line) :
    FirstAfter pat (line ++ sep :: before) (line ++ sep :: text) where
  stands := by
    rw [List.append_assoc, List.cons_append, List.prefix_append_right_inj,
      List.cons_prefix_cons]
    exact ⟨rfl, hfirst.stands⟩
  first := by
    intro other hother
    rcases prefix_append_separator hsep hother with hinside | ⟨rest, rfl, hrest⟩
    · exact absurd ((List.suffix_append other pat).isInfix.trans hinside.isInfix) hline
    · rw [List.prefix_append_right_inj, List.cons_prefix_cons]
      exact ⟨rfl, hfirst.first rest hrest⟩

/-- Up to its first occurrence, and some characters into it, a pattern does not occur. -/
theorem FirstAfter.not_infix {lead stem after : List Char} (hstem : stem ≠ [])
    (hfirst : FirstAfter (lead ++ stem) before (before ++ (lead ++ stem ++ after))) :
    ¬ lead ++ stem <:+: before ++ lead := by
  rintro ⟨other, final, heq⟩
  have hwhole : before ++ lead <+: before ++ (lead ++ stem ++ after) :=
    ⟨stem ++ after, by simp only [List.append_assoc]⟩
  have hother : other ++ (lead ++ stem) <+: before ++ (lead ++ stem ++ after) :=
    (heq ▸ List.prefix_append _ final).trans hwhole
  have hlater := (hfirst.first other hother).length_le
  have hlength := congrArg List.length heq
  have hpos := List.length_pos_of_ne_nil hstem
  simp only [List.length_append] at hlength
  omega

end MatchingDecomp.Text
