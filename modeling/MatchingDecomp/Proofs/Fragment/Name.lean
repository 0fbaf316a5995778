import Mathlib.Data.List.Basic
import MatchingDecomp.Fragment.Basic

/-!
# Which name a text gives

`Directive` and `Label` say what it is for a text to begin with a directive or a label, and
`FirstDirective` which directive of a line counts.  The scanners find exactly these
(`directive?_eq_some_iff`, `label?_eq_some_iff`).

The word of a label is an identifier, because that is checked.  The word of a directive is checked
for word characters only, so it may start with a digit, and then it is no identifier.  This is the
only way in which a text can give a name that no function can have (`Misnamed`).
-/

namespace MatchingDecomp

/-! ## Words -/

namespace Text

theorem isNameStart_iff (c : Char) :
    isNameStart c = true ↔
      97 ≤ c.toNat ∧ c.toNat ≤ 122 ∨ 65 ≤ c.toNat ∧ c.toNat ≤ 90 ∨ c.toNat = 95 := by
  have hunderscore : c = '_' ↔ c.toNat = 95 := (Char.toNat_inj (d := '_')).symm
  simp only [isNameStart, Bool.or_eq_true, Bool.and_eq_true, decide_eq_true_eq, beq_iff_eq,
    Char.le_def, UInt32.le_iff_toNat_le, hunderscore, or_assoc]
  rfl

theorem isDigit_iff (c : Char) : isDigit c = true ↔ 48 ≤ c.toNat ∧ c.toNat ≤ 57 := by
  simp only [isDigit, Bool.and_eq_true, decide_eq_true_eq, Char.le_def, UInt32.le_iff_toNat_le]
  rfl

theorem isWordChar_iff (c : Char) :
    isWordChar c = true ↔ isNameStart c = true ∨ isDigit c = true := by
  rw [isWordChar, Bool.or_eq_true]

theorem not_mem_of_isWordChar {c : Char} (hword : isWordChar c = true) {others : List Char}
    (hothers : others.any isWordChar = false) : c ∉ others := by
  intro hc
  exact List.any_eq_false.mp hothers c hc hword

theorem not_isBlank_of_isWordChar {c : Char} (hword : isWordChar c = true) :
    isBlank c = false := by
  rw [isWordChar_iff, isNameStart_iff, isDigit_iff] at hword
  rw [Bool.eq_false_iff]
  simp only [isBlank, ne_eq, Bool.or_eq_true, Bool.and_eq_true, decide_eq_true_eq, beq_iff_eq]
  omega

theorem isWordChar_of_isIdentifier {word : List Char} (hword : isIdentifier word = true) :
    ∀ c ∈ word, isWordChar c = true := by
  cases word with
  | nil => cases hword
  | cons first rest =>
      rw [isIdentifier, Bool.and_eq_true, List.all_eq_true] at hword
      intro c hc
      rcases List.mem_cons.mp hc with rfl | hc
      · exact (isWordChar_iff c).mpr (.inl hword.1)
      · exact hword.2 c hc

/-- A word is an identifier unless it starts with a digit. -/
theorem isIdentifier_iff_of_word {word : List Char} (hword : word ≠ [])
    (hchars : ∀ c ∈ word, isWordChar c = true) :
    isIdentifier word = true ↔ word.head?.any isDigit = false := by
  cases word with
  | nil => exact absurd rfl hword
  | cons first rest =>
      have hrest : rest.all isWordChar = true :=
        List.all_eq_true.mpr fun c hc => hchars c (List.mem_cons_of_mem _ hc)
      have hfirst := (isWordChar_iff first).mp (hchars first List.mem_cons_self)
      rw [isIdentifier, hrest, Bool.and_true, List.head?_cons, Option.any_some,
        Bool.eq_false_iff]
      rw [isNameStart_iff, isDigit_iff] at hfirst
      rw [isNameStart_iff, ne_eq, isDigit_iff]
      omega

theorem head?_dropWhile_eq_false (p : Char → Bool) (text : List Char) :
    ∀ c ∈ (text.dropWhile p).head?, p c = false := by
  intro c hc
  have hhead := List.head?_dropWhile_not p text
  rwa [Option.mem_def.mp hc] at hhead

/-- A word is cut off where the first other character stands. -/
theorem takeWhile_isWordChar_append {word rest : List Char}
    (hchars : ∀ c ∈ word, isWordChar c = true)
    (hend : ∀ c ∈ rest.head?, isWordChar c = false) :
    (word ++ rest).takeWhile isWordChar = word := by
  rw [List.takeWhile_append_of_pos hchars]
  cases rest with
  | nil => rw [List.takeWhile_nil, List.append_nil]
  | cons c rest =>
      have hc : ¬ isWordChar c = true := Bool.eq_false_iff.mp (hend c rfl)
      rw [List.takeWhile_cons_of_neg hc, List.append_nil]

end Text

namespace Fragment

open Text

/-! ## Directives -/

/-- A text begins with a directive, which is followed by blanks and then a word, as long as it goes.
-/
inductive Directive : List Char → List Char → Prop where
  | intro {gap word rest : List Char} (hgap : gap ≠ []) (hblank : ∀ c ∈ gap, Text.isBlank c = true)
      (hword : word ≠ []) (hchars : ∀ c ∈ word, isWordChar c = true)
      (hend : ∀ c ∈ rest.head?, isWordChar c = false) :
      Directive ('.' :: 'f' :: 'n' :: (gap ++ (word ++ rest))) word

/-- The word of the first directive of a line. -/
def FirstDirective (line word : List Char) : Prop :=
  ∃ text, text <:+ line ∧ Directive text word ∧
    ∀ longer, longer <:+ line → text.length < longer.length → ∀ other, ¬ Directive longer other

theorem directiveHere?_eq (rest : List Char) :
    directiveHere? ('.' :: 'f' :: 'n' :: rest) =
      if rest.head?.any Text.isBlank && !((trimStart rest).takeWhile isWordChar).isEmpty then
        some ((trimStart rest).takeWhile isWordChar)
      else none := rfl

theorem directiveHere?_of_directive {text word : List Char} (hdirective : Directive text word) :
    directiveHere? text = some word := by
  obtain @⟨gap, word, rest, hgap, hblank, hword, hchars, hend⟩ := hdirective
  have hafter : trimStart (gap ++ (word ++ rest)) = word ++ rest := by
    rw [trimStart, List.dropWhile_append_of_pos hblank]
    -- a word does not start with a blank
    obtain ⟨first, word, rfl⟩ := List.exists_cons_of_ne_nil hword
    have hfirst := not_isBlank_of_isWordChar (hchars first List.mem_cons_self)
    exact List.dropWhile_cons_of_neg (Bool.eq_false_iff.mp hfirst)
  have hgapped : (gap ++ (word ++ rest)).head?.any Text.isBlank = true := by
    obtain ⟨first, gap, rfl⟩ := List.exists_cons_of_ne_nil hgap
    exact hblank first List.mem_cons_self
  rw [directiveHere?_eq, hafter, takeWhile_isWordChar_append hchars hend, hgapped]
  simp [hword]

theorem directive_of_directiveHere? {text word : List Char}
    (hfound : directiveHere? text = some word) : Directive text word := by
  unfold directiveHere? at hfound
  split at hfound
  · rename_i rest
    dsimp only at hfound
    split at hfound
    · rename_i hcond
      obtain rfl := Option.some.inj hfound
      rw [Bool.and_eq_true, Bool.not_eq_true', List.isEmpty_eq_false_iff] at hcond
      -- the text is its blanks, the word, and what is left
      have hsplit : rest.takeWhile Text.isBlank ++
          ((trimStart rest).takeWhile isWordChar ++ (trimStart rest).dropWhile isWordChar) =
            rest := by
        rw [List.takeWhile_append_dropWhile, trimStart, List.takeWhile_append_dropWhile]
      have hgap : rest.takeWhile Text.isBlank ≠ [] := by
        intro hnil
        cases rest with
        | nil => cases hcond.1
        | cons c rest =>
            have hblank : Text.isBlank c = true := hcond.1
            rw [List.takeWhile_cons_of_pos hblank] at hnil
            cases hnil
      have hend := head?_dropWhile_eq_false isWordChar (trimStart rest)
      have hdirective := Directive.intro hgap (List.all_eq_true.mp List.all_takeWhile) hcond.2
        (List.all_eq_true.mp List.all_takeWhile) hend
      rwa [hsplit] at hdirective
    · cases hfound
  · cases hfound

theorem directiveHere?_eq_some_iff {text word : List Char} :
    directiveHere? text = some word ↔ Directive text word :=
  ⟨directive_of_directiveHere?, directiveHere?_of_directive⟩

theorem directiveHere?_eq_none_iff {text : List Char} :
    directiveHere? text = none ↔ ∀ word, ¬ Directive text word := by
  simp only [← directiveHere?_eq_some_iff, Option.eq_none_iff_forall_ne_some, ne_eq]

/-- The scanner finds the first directive of a line. -/
theorem directive?_eq_some_iff {line word : List Char} :
    directive? line = some word ↔ FirstDirective line word := by
  induction line with
  | nil =>
      refine iff_of_false (by simp [directive?]) ?_
      rintro ⟨text, htext, hdirective, -⟩
      rw [List.suffix_nil] at htext
      subst htext
      cases hdirective
  | cons c rest ih =>
      rw [directive?]
      cases hhere : directiveHere? (c :: rest) with
      | some found =>
          -- nothing comes before the line as a whole
          rw [Option.some_or, Option.some_inj]
          have hfound := directiveHere?_eq_some_iff.mp hhere
          constructor
          · rintro rfl
            refine ⟨c :: rest, List.suffix_rfl, hfound, fun longer hlonger hlength => ?_⟩
            exact absurd hlonger.length_le (Nat.not_le_of_lt hlength)
          · rintro ⟨text, htext, hdirective, hfirst⟩
            rcases List.suffix_cons_iff.mp htext with rfl | htext
            · rw [directiveHere?_of_directive hdirective] at hhere
              exact (Option.some.inj hhere).symm
            · refine absurd hfound (hfirst _ List.suffix_rfl ?_ found)
              exact Nat.lt_succ_of_le htext.length_le
      | none =>
          rw [Option.none_or, ih]
          have hnone := directiveHere?_eq_none_iff.mp hhere
          constructor
          · rintro ⟨text, htext, hdirective, hfirst⟩
            refine ⟨text, htext.trans (List.suffix_cons ..), hdirective, ?_⟩
            intro longer hlonger hlength
            rcases List.suffix_cons_iff.mp hlonger with rfl | hlonger
            · exact hnone
            · exact hfirst longer hlonger hlength
          · rintro ⟨text, htext, hdirective, hfirst⟩
            rcases List.suffix_cons_iff.mp htext with rfl | htext
            · exact absurd hdirective (hnone word)
            · refine ⟨text, htext, hdirective, fun longer hlonger => ?_⟩
              exact hfirst longer (hlonger.trans (List.suffix_cons ..))

/-! ## Labels -/

/-- A line begins with a label: an identifier and a colon. -/
def Label (line word : List Char) : Prop :=
  isIdentifier word = true ∧ ∃ rest, line = word ++ ':' :: rest

theorem label?_eq_some_iff {line word : List Char} : label? line = some word ↔ Label line word := by
  simp only [label?, Option.ite_none_right_eq_some, Bool.and_eq_true, beq_iff_eq,
    Option.some_inj]
  constructor
  · rintro ⟨⟨hword, hcolon⟩, rfl⟩
    obtain ⟨rest, hrest⟩ := List.head?_eq_some_iff.mp hcolon
    refine ⟨hword, rest, ?_⟩
    rw [← hrest]
    exact (List.prefix_iff_eq_append.mp (List.takeWhile_prefix _)).symm
  · rintro ⟨hword, rest, rfl⟩
    have hcut : (word ++ ':' :: rest).takeWhile isWordChar = word := by
      refine takeWhile_isWordChar_append (isWordChar_of_isIdentifier hword) ?_
      rintro c ⟨⟩
      decide
    rw [hcut]
    exact ⟨⟨hword, by simp⟩, rfl⟩

/-! ## The line that decides -/

theorem lineName?_eq_some_iff {line word : List Char} :
    lineName? line = some word ↔
      FirstDirective line word ∨ (∀ other, ¬ FirstDirective line other) ∧ Label line word := by
  simp only [lineName?, Option.or_eq_some_iff, directive?_eq_some_iff, label?_eq_some_iff,
    Option.eq_none_iff_forall_ne_some, ne_eq]

theorem lineName?_eq_none_iff {line : List Char} :
    lineName? line = none ↔ ∀ word, ¬ FirstDirective line word ∧ ¬ Label line word := by
  rw [lineName?, Option.or_eq_none_iff]
  simp only [Option.eq_none_iff_forall_ne_some, ne_eq, directive?_eq_some_iff, label?_eq_some_iff,
    forall_and]

/-- What a line gives as a name is a word. -/
theorem lineName?_word {line word : List Char} (hname : lineName? line = some word) :
    word ≠ [] ∧ ∀ c ∈ word, isWordChar c = true := by
  rcases lineName?_eq_some_iff.mp hname with ⟨text, -, hdirective, -⟩ | ⟨-, hword, -⟩
  · obtain ⟨hgap, hblank, hword, hchars, hend⟩ := hdirective
    exact ⟨hword, hchars⟩
  · refine ⟨?_, isWordChar_of_isIdentifier hword⟩
    rintro rfl
    cases hword

/-- The first line of a text that has a directive or a label has a directive, and the word of it
starts with a digit. -/
def Misnamed (text : String) : Prop :=
  ∃ before line after word, lines text.toList = before ++ line :: after ∧
    (∀ earlier ∈ before, ∀ other, ¬ FirstDirective earlier other ∧ ¬ Label earlier other) ∧
    FirstDirective line word ∧ word.head?.any isDigit = true

theorem misnamed_iff (text : String) :
    Misnamed text ↔
      ∃ word, (lines text.toList).findSome? lineName? = some word ∧
        word.head?.any isDigit = true := by
  simp only [Misnamed, List.findSome?_eq_some_iff, lineName?_eq_none_iff]
  constructor
  · rintro ⟨before, line, after, word, hlines, hbefore, hdirective, hdigit⟩
    exact ⟨word, ⟨before, line, after, hlines, lineName?_eq_some_iff.mpr (.inl hdirective),
      hbefore⟩, hdigit⟩
  · rintro ⟨word, ⟨before, line, after, hlines, hname, hbefore⟩, hdigit⟩
    refine ⟨before, line, after, word, hlines, hbefore, ?_, hdigit⟩
    rcases lineName?_eq_some_iff.mp hname with hdirective | ⟨-, hword, -⟩
    · exact hdirective
    · -- the word of a label does not start with a digit
      have hlabel := lineName?_word hname
      rw [isIdentifier_iff_of_word hlabel.1 hlabel.2, hdigit] at hword
      cases hword

/-- The name that a text gives is an identifier, unless the text is misnamed. -/
theorem isIdentifier_ofText_iff (text : String) :
    isIdentifier (ofText text).identifier.toList = true ↔ ¬ Misnamed text := by
  rw [misnamed_iff, ofText, extractIdentifier]
  cases hname : (lines text.toList).findSome? lineName? with
  | none =>
      have hplaceholder : isIdentifier placeholder.toList = true := by decide
      exact iff_of_true hplaceholder (by simp)
  | some word =>
      obtain ⟨line, -, hline⟩ := List.exists_of_findSome?_eq_some hname
      obtain ⟨hword, hchars⟩ := lineName?_word hline
      have hidentifier := isIdentifier_iff_of_word hword hchars
      simp [hidentifier]

theorem isIdentifier_withHint_iff (text hint : String) :
    isIdentifier (withHint text hint).identifier.toList = true ↔
      isIdentifier (trim hint.toList) = true ∨ ¬ Misnamed text := by
  simp only [withHint]
  split
  · rename_i hhint
    exact iff_of_true (by simpa using hhint) (.inl hhint)
  · rename_i hhint
    rw [isIdentifier_ofText_iff]
    exact (or_iff_right hhint).symm

end Fragment

end MatchingDecomp
