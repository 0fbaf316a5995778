import Mathlib.Data.Nat.Find
import MatchingDecomp.Proofs.Fragment.Name
import MatchingDecomp.Proofs.Text.Offsets

/-!
# How the name of a text is found

The name of a text is told here twice more, without the scanners.

First by ways to split a line: a directive is found at the split with the shortest beginning
(`ShortestSplit`, `shortestSplit_iff`), a label where no such split is, and the first line that
has either decides (`Names`).

Second by byte offsets, as a text is searched that is kept as bytes (`ByOffset`): the offsets at
which `.fn` begins are tried one after the other, and every word is cut out of the line at offsets.
None of these cuts falls inside a character, and what they cut out is the same name
(`ByOffset.extract_eq`).  The invariant of the search is that what is left of the line begins right
after a text whose bytes have been counted.
-/

namespace MatchingDecomp.Fragment

open Text

/-! ## Splitting a line -/

/-- A line is a beginning, the directive, blanks, a word, and a rest that does not carry the word
on. -/
def DirectiveSplit (line lead word : List Char) : Prop :=
  ∃ gap rest, line = lead ++ ".fn".toList ++ gap ++ word ++ rest ∧
    gap ≠ [] ∧ (∀ c ∈ gap, Text.isBlank c = true) ∧
    word ≠ [] ∧ (∀ c ∈ word, isWordChar c = true) ∧ ∀ c ∈ rest.head?, isWordChar c = false

theorem directiveSplit_iff {line lead word : List Char} :
    DirectiveSplit line lead word ↔ ∃ text, line = lead ++ text ∧ Directive text word := by
  constructor
  · rintro ⟨gap, rest, rfl, hgap, hblank, hword, hchars, hend⟩
    refine ⟨_, ?_, .intro hgap hblank hword hchars hend⟩
    simp only [List.append_assoc]
    rfl
  · rintro ⟨text, rfl, hdirective⟩
    obtain @⟨gap, word, rest, hgap, hblank, hword, hchars, hend⟩ := hdirective
    refine ⟨gap, rest, ?_, hgap, hblank, hword, hchars, hend⟩
    simp only [List.append_assoc]
    rfl

/-- The word at the split with the shortest beginning. -/
def ShortestSplit (line word : List Char) : Prop :=
  ∃ lead, DirectiveSplit line lead word ∧
    ∀ other otherWord, DirectiveSplit line other otherWord → lead.length ≤ other.length

theorem shortestSplit_iff {line word : List Char} :
    ShortestSplit line word ↔ FirstDirective line word := by
  simp only [ShortestSplit, directiveSplit_iff]
  constructor
  · rintro ⟨lead, ⟨text, rfl, hdirective⟩, hshortest⟩
    refine ⟨text, List.suffix_append lead text, hdirective, ?_⟩
    rintro longer ⟨other, hline⟩ hlength otherWord hother
    -- a longer text leaves a shorter beginning
    have hshorter := hshortest other otherWord ⟨longer, hline.symm, hother⟩
    have hlengths := congrArg List.length hline
    rw [List.length_append, List.length_append] at hlengths
    omega
  · rintro ⟨text, ⟨lead, rfl⟩, hdirective, hfirst⟩
    refine ⟨lead, ⟨text, rfl, hdirective⟩, ?_⟩
    rintro other otherWord ⟨longer, hline, hother⟩
    by_contra hlonger
    refine hfirst longer ⟨other, hline.symm⟩ ?_ otherWord hother
    have hlengths := congrArg List.length hline
    rw [List.length_append, List.length_append] at hlengths
    omega

/-- Where there is a split, there is a shortest one. -/
theorem exists_shortestSplit {line lead word : List Char} (hsplit : DirectiveSplit line lead word) :
    ∃ first, ShortestSplit line first := by
  classical
  have hlengths : ∃ n, ∃ lead word, lead.length = n ∧ DirectiveSplit line lead word :=
    ⟨_, lead, word, rfl, hsplit⟩
  obtain ⟨shortest, first, hlength, hfirst⟩ := Nat.find_spec hlengths
  refine ⟨first, shortest, hfirst, ?_⟩
  intro other otherWord hother
  rw [hlength]
  exact Nat.find_min' hlengths ⟨other, otherWord, rfl, hother⟩

theorem not_firstDirective_iff {line : List Char} :
    (∀ word, ¬ FirstDirective line word) ↔ ∀ lead word, ¬ DirectiveSplit line lead word := by
  simp only [← shortestSplit_iff]
  constructor
  · intro hnone lead word hsplit
    obtain ⟨first, hfirst⟩ := exists_shortestSplit hsplit
    exact hnone first hfirst
  · rintro hnone word ⟨lead, hsplit, -⟩
    exact hnone lead word hsplit

/-- A line names a word: by the directive at the split with the shortest beginning, or, where there
is no split, by a label. -/
def Names (line word : List Char) : Prop :=
  ShortestSplit line word ∨
    (∀ lead other, ¬ DirectiveSplit line lead other) ∧ Label line word

theorem names_iff {line word : List Char} : Names line word ↔ lineName? line = some word := by
  rw [lineName?_eq_some_iff, not_firstDirective_iff, ← shortestSplit_iff]
  rfl

theorem lineName?_eq_none_iff_names {line : List Char} :
    lineName? line = none ↔ ∀ word, ¬ Names line word := by
  simp only [names_iff, Option.eq_none_iff_forall_ne_some, ne_eq]

/-! ## Searching by offsets -/

namespace ByOffset

/-- The name after the first directive that has one, among those at the given offsets of a line. -/
def directiveAmong (line : List Char) : List Nat → Except CutError (Option (List Char))
  | [] => .ok none
  | offset :: later => do
    let (_, rest) ← cut line (offset + 3)
    let trimmed := trimStart rest
    -- without a blank after it, this is no directive
    if byteLength trimmed = byteLength rest then directiveAmong line later
    else
      let stop := (findOffset? (fun c => !isWordChar c) trimmed).getD (byteLength trimmed)
      if 0 < stop then
        let (word, _) ← cut trimmed stop
        return some word
      else directiveAmong line later

/-- The name after the first directive of a line that has one. -/
def directive? (line : List Char) : Except CutError (Option (List Char)) :=
  -- one occurrence of `.fn` cannot overlap another
  directiveAmong line (offsetsOf ".fn".toList line)

/-- The name of the label with which a line starts. -/
def label? (line : List Char) : Except CutError (Option (List Char)) :=
  if line.head?.any isNameStart then
    match findOffset? (fun c => !isWordChar c) line with
    | none => .ok none
    | some stop => do
      let (word, rest) ← cut line stop
      return if rest.head? = some ':' then some word else none
  else .ok none

/-- The name that the first of the lines gives that gives any. -/
def nameAmong : List (List Char) → Except CutError (Option (List Char))
  | [] => .ok none
  | line :: later => do
    match ← directive? line with
    | some name => return some name
    | none =>
      match ← label? line with
      | some name => return some name
      | none => nameAmong later

/-- The name that a text gives its function. -/
def extract (text : String) : Except CutError (Option String) := do
  return (← nameAmong (lines text.toList)).map String.ofList

theorem cut_takeWhile (p : Char → Bool) (text : List Char) :
    cut text (byteLength (text.takeWhile p)) = .ok (text.takeWhile p, text.dropWhile p) := by
  have hcut := cut_append (text.takeWhile p) (text.dropWhile p)
  rwa [List.takeWhile_append_dropWhile] at hcut

/-- A text that is trimmed loses bytes exactly if it starts with a blank. -/
theorem byteLength_trimStart_eq_iff {text : List Char} :
    byteLength (trimStart text) = byteLength text ↔ text.head?.any Text.isBlank = false := by
  cases text with
  | nil => exact iff_of_true rfl rfl
  | cons c text =>
      rw [trimStart, List.dropWhile_cons, List.head?_cons, Option.any_some]
      cases hblank : Text.isBlank c with
      | false => exact iff_of_true rfl rfl
      | true =>
          refine iff_of_false ?_ Bool.true_eq_false.mp
          have hsplit := byteLength_append (text.takeWhile Text.isBlank)
            (text.dropWhile Text.isBlank)
          rw [List.takeWhile_append_dropWhile] at hsplit
          have hpos := c.utf8Size_pos
          rw [if_pos rfl, byteLength_cons]
          omega

/-- One offset: the line is cut after the directive, and if a name follows it, the name is cut
out. -/
theorem directiveAmong_cons (lead after : List Char) (later : List Nat) :
    directiveAmong (lead ++ '.' :: 'f' :: 'n' :: after) (byteLength lead :: later) =
      match directiveHere? ('.' :: 'f' :: 'n' :: after) with
      | some word => .ok (some word)
      | none => directiveAmong (lead ++ '.' :: 'f' :: 'n' :: after) later := by
  have hcut : cut (lead ++ '.' :: 'f' :: 'n' :: after) (byteLength lead + 3) =
      .ok (lead ++ ['.', 'f', 'n'], after) := by
    have happend := cut_append (lead ++ ['.', 'f', 'n']) after
    rwa [List.append_assoc, byteLength_append] at happend
  rw [directiveAmong, hcut, directiveHere?_eq]
  simp only [bind, Except.bind, findOffset?_not_getD, cut_takeWhile]
  cases hblank : after.head?.any Text.isBlank with
  | false => rw [if_pos (byteLength_trimStart_eq_iff.mpr hblank)]; rfl
  | true =>
      have hgap : ¬ byteLength (trimStart after) = byteLength after := by
        rw [byteLength_trimStart_eq_iff, hblank]
        exact Bool.true_eq_false.mp
      rw [if_neg hgap]
      by_cases hword : (trimStart after).takeWhile isWordChar = []
      · rw [hword, byteLength_nil, if_neg (Nat.lt_irrefl 0)]
        rfl
      · rw [if_pos (byteLength_pos_iff.mpr hword), if_pos (by simp [hword])]
        rfl

theorem directiveHere?_of_not_starts {text : List Char}
    (hstarts : ".fn".toList.isPrefixOf text = false) : directiveHere? text = none := by
  unfold directiveHere?
  split
  · cases hstarts
  · rfl

/-- What comes before the part of the line that is still to be searched has been counted. -/
theorem directiveAmong_eq (before line : List Char) :
    directiveAmong (before ++ line) ((offsetsOf ".fn".toList line).map (byteLength before + ·)) =
      .ok (Fragment.directive? line) := by
  induction line generalizing before with
  | nil => rfl
  | cons c rest ih =>
      have hlater : directiveAmong (before ++ c :: rest)
          (((offsetsOf ".fn".toList rest).map (c.utf8Size + ·)).map (byteLength before + ·)) =
            .ok (Fragment.directive? rest) := by
        have hnext := ih (before ++ [c])
        rw [List.append_assoc, List.singleton_append, byteLength_append] at hnext
        rw [← hnext, List.map_map]
        congr 2
        funext offset
        simp only [Function.comp_apply, byteLength_cons, byteLength_nil]
        omega
      rw [offsetsOf, Fragment.directive?]
      cases hstarts : ".fn".toList.isPrefixOf (c :: rest) with
      | false =>
          rw [directiveHere?_of_not_starts hstarts, Option.none_or, ← hlater]
          rfl
      | true =>
          obtain ⟨after, hafter⟩ := List.isPrefixOf_iff_prefix.mp hstarts
          have hline : c :: rest = '.' :: 'f' :: 'n' :: after := hafter.symm
          have hfirst := directiveAmong_cons before after
            (((offsetsOf ".fn".toList rest).map (c.utf8Size + ·)).map (byteLength before + ·))
          rw [← hline, hlater] at hfirst
          refine hfirst.trans ?_
          cases directiveHere? (c :: rest) <;> rfl

theorem directive?_eq (line : List Char) : directive? line = .ok (Fragment.directive? line) := by
  have hall := directiveAmong_eq [] line
  have hshift : (offsetsOf ".fn".toList line).map (byteLength [] + ·) =
      offsetsOf ".fn".toList line := by
    simp
  rwa [hshift] at hall

/-- The longest word at the start of a line is an identifier if the line starts like a name. -/
theorem isIdentifier_takeWhile (line : List Char) :
    isIdentifier (line.takeWhile isWordChar) = line.head?.any isNameStart := by
  cases line with
  | nil => rfl
  | cons first rest =>
      rw [List.takeWhile_cons, List.head?_cons, Option.any_some]
      cases hstart : isNameStart first with
      | true =>
          rw [isWordChar, hstart, Bool.true_or, if_pos rfl, isIdentifier, hstart, Bool.true_and]
          exact List.all_takeWhile
      | false =>
          split
          · rw [isIdentifier, hstart, Bool.false_and]
          · rfl

theorem label?_eq (line : List Char) : label? line = .ok (Fragment.label? line) := by
  have hrest : line.drop (line.takeWhile isWordChar).length = line.dropWhile isWordChar := by
    have hdrop : (line.takeWhile isWordChar ++ line.dropWhile isWordChar).drop
        (line.takeWhile isWordChar).length = line.dropWhile isWordChar := List.drop_left
    rwa [List.takeWhile_append_dropWhile] at hdrop
  unfold label? Fragment.label?
  dsimp only
  rw [isIdentifier_takeWhile, hrest, findOffset?_not]
  cases line.head?.any isNameStart with
  | false => rfl
  | true =>
      by_cases hend : line.dropWhile isWordChar = []
      · rw [hend]
        rfl
      · rw [if_pos rfl, if_neg (by simpa using hend), Bool.true_and]
        simp only [cut_takeWhile, bind, Except.bind, beq_iff_eq]
        rfl

theorem nameAmong_eq (lines : List (List Char)) :
    nameAmong lines = .ok (lines.findSome? lineName?) := by
  induction lines with
  | nil => rfl
  | cons line later ih =>
      rw [nameAmong, directive?_eq, List.findSome?_cons, lineName?]
      cases Fragment.directive? line with
      | some name => rfl
      | none =>
          rw [Option.none_or]
          show (do
            match ← label? line with
            | some name => return some name
            | none => nameAmong later) = _
          rw [label?_eq]
          cases Fragment.label? line with
          | some name => rfl
          | none => exact ih

/-- No cut falls inside a character, and the name is the same. -/
theorem extract_eq (text : String) : extract text = .ok (extractIdentifier text) := by
  rw [extract, nameAmong_eq]
  rfl

end ByOffset

/-- **How the name of a text is found.**  A text gives a name exactly if it has a line that names
this word and no line before it names any; it gives none exactly if no line names a word.  Found by
byte offsets, it is the same name, and no offset at which a line is cut lies inside a character. -/
theorem name_of_first_naming_line (text : String) :
    (∀ name, extractIdentifier text = some name ↔
      ∃ before line after, lines text.toList = before ++ line :: after ∧
        (∀ earlier ∈ before, ∀ word, ¬ Names earlier word) ∧ Names line name.toList) ∧
      (extractIdentifier text = none ↔
        ∀ line ∈ lines text.toList, ∀ word, ¬ Names line word) ∧
      ByOffset.extract text = .ok (extractIdentifier text) := by
  refine ⟨?_, ?_, ByOffset.extract_eq text⟩
  · intro name
    have hfound : extractIdentifier text = some name ↔
        (lines text.toList).findSome? lineName? = some name.toList := by
      rw [extractIdentifier, Option.map_eq_some_iff]
      constructor
      · rintro ⟨word, hword, rfl⟩
        rw [hword, String.toList_ofList]
      · intro hword
        exact ⟨name.toList, hword, String.ofList_toList⟩
    rw [hfound, List.findSome?_eq_some_iff]
    simp only [lineName?_eq_none_iff_names, ← names_iff]
    constructor
    · rintro ⟨before, line, after, hlines, hname, hbefore⟩
      exact ⟨before, line, after, hlines, hbefore, hname⟩
    · rintro ⟨before, line, after, hlines, hbefore, hname⟩
      exact ⟨before, line, after, hlines, hname, hbefore⟩
  · rw [extractIdentifier, Option.map_eq_none_iff, List.findSome?_eq_none_iff]
    simp only [lineName?_eq_none_iff_names]

/-- The first directive has no blank after it, the second one no word; the third one counts. -/
example : extractIdentifier "nop\nmain: .fn. .fn +é .fn\u2003\t9x.fn y\nlast:" = some "9x" := by
  decide

end MatchingDecomp.Fragment
