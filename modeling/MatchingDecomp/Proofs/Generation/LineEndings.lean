import MatchingDecomp.Generation.Template
import MatchingDecomp.Proofs.Fragment.Name
import MatchingDecomp.Proofs.Text.Blank
import MatchingDecomp.Proofs.Text.Lines

/-!
# Line endings do not matter

A text may end its lines with a newline or with a carriage return and a newline.  Which it is makes
no difference to the name that the text gives, nor to the skeleton that is written for it.

Putting a carriage return in front of every newline leaves one more at the end of every line that
ended in one before (`lines_withReturns`), so each of the three readers of a line has to be blind to
a carriage return at its end:

* `directive?_concat_return`: a carriage return is no word character, so it cannot carry on the word
  of a directive; and it is a blank, but a blank after `.fn` is no use without a word behind it;
* `label?_concat_return`: it is no colon, so it cannot complete a label;
* `trim_append_blanks`: it goes when the line is trimmed, before instructions are counted.

Main statement: `line_endings_immaterial`.
-/

namespace MatchingDecomp

open Text

namespace Fragment

/-! ## Names -/

theorem isWordChar_return : isWordChar '\r' = false := by decide

/-- A carriage return behind a text is behind every end of the text. -/
theorem exists_concat_return {text lead rest : List Char} (hrest : rest ≠ [])
    (htext : text ++ ['\r'] = lead ++ rest) :
    ∃ short, rest = short ++ ['\r'] ∧ text = lead ++ short := by
  obtain ⟨short, c, rfl⟩ := (List.eq_nil_or_concat rest).resolve_left hrest
  rw [List.concat_eq_append, ← List.append_assoc] at htext
  obtain ⟨hshort, hreturn⟩ := List.append_inj' htext rfl
  exact ⟨short, by rw [List.concat_eq_append, hreturn], hshort⟩

theorem directive_concat_return_iff {text word : List Char} :
    Directive (text ++ ['\r']) word ↔ Directive text word := by
  constructor
  · intro hdirective
    generalize htext : text ++ ['\r'] = longer at hdirective
    obtain @⟨gap, word, rest, hgap, hblank, hword, hchars, hend⟩ := hdirective
    by_cases hrest : rest = []
    · -- the carriage return would be the last character of the word
      have hends : text ++ ['\r'] = ('.' :: 'f' :: 'n' :: gap) ++ word := by
        rw [htext, hrest, List.append_nil]
        rfl
      obtain ⟨short, hshort, -⟩ := exists_concat_return hword hends
      have hreturn := hchars '\r' (by simp [hshort])
      rw [isWordChar_return] at hreturn
      cases hreturn
    · have hends : text ++ ['\r'] = ('.' :: 'f' :: 'n' :: (gap ++ word)) ++ rest := by
        rw [htext, ← List.append_assoc gap]
        rfl
      obtain ⟨short, rfl, rfl⟩ := exists_concat_return hrest hends
      have hshort : ∀ c ∈ short.head?, isWordChar c = false := by
        intro c hc
        apply hend c
        rw [List.head?_append, Option.mem_def.mp hc]
        rfl
      have hdirective := Directive.intro hgap hblank hword hchars hshort
      rwa [← List.append_assoc gap] at hdirective
  · intro hdirective
    obtain @⟨gap, word, rest, hgap, hblank, hword, hchars, hend⟩ := hdirective
    have hlonger : ∀ c ∈ (rest ++ ['\r']).head?, isWordChar c = false := by
      cases rest with
      | nil =>
          intro c hc
          obtain rfl := Option.some.inj hc
          exact isWordChar_return
      | cons d rest => exact hend
    have hdirective := Directive.intro hgap hblank hword hchars hlonger
    simpa using hdirective

theorem directiveHere?_concat_return (text : List Char) :
    directiveHere? (text ++ ['\r']) = directiveHere? text := by
  apply Option.ext
  intro word
  rw [directiveHere?_eq_some_iff, directive_concat_return_iff, directiveHere?_eq_some_iff]

theorem directive?_concat_return (line : List Char) :
    directive? (line ++ ['\r']) = directive? line := by
  induction line with
  | nil => rfl
  | cons c line ih =>
      have hhere := directiveHere?_concat_return (c :: line)
      rw [List.cons_append] at hhere ⊢
      rw [directive?, directive?, hhere, ih]

theorem label_concat_return_iff {line word : List Char} :
    Label (line ++ ['\r']) word ↔ Label line word := by
  constructor
  · rintro ⟨hword, rest, hline⟩
    obtain ⟨short, hshort, rfl⟩ := exists_concat_return (List.cons_ne_nil ':' rest) hline
    cases short with
    | nil =>
        -- the carriage return would be the colon
        exact absurd (List.head_eq_of_cons_eq hshort) (by decide)
    | cons c short =>
        obtain rfl : ':' = c := List.head_eq_of_cons_eq hshort
        exact ⟨hword, short, rfl⟩
  · rintro ⟨hword, rest, rfl⟩
    exact ⟨hword, rest ++ ['\r'], by simp⟩

theorem label?_concat_return (line : List Char) : label? (line ++ ['\r']) = label? line := by
  apply Option.ext
  intro word
  rw [label?_eq_some_iff, label_concat_return_iff, label?_eq_some_iff]

theorem lineName?_concat_return (line : List Char) :
    lineName? (line ++ ['\r']) = lineName? line := by
  rw [lineName?, directive?_concat_return, label?_concat_return, lineName?]

theorem extractIdentifier_withReturns (text : String) :
    extractIdentifier (String.ofList (withReturns text.toList)) = extractIdentifier text := by
  have hnames := map_lines_withReturns lineName?_concat_return text.toList
  have hfirst (ls : List (List Char)) :
      ls.findSome? lineName? = (ls.map lineName?).findSome? id := by
    rw [List.findSome?_map]
    rfl
  rw [extractIdentifier, extractIdentifier, String.toList_ofList, hfirst, hnames, ← hfirst]

end Fragment

/-! ## Skeletons -/

namespace Template

theorem instructionCount_withReturns (text : String) :
    instructionCount (String.ofList (withReturns text.toList)) = instructionCount text := by
  have hblank : allBlank ['\r'] = true := by decide
  have htrim := map_lines_withReturns (trim_append_blanks hblank) text.toList
  rw [instructionCount, instructionCount, String.toList_ofList, htrim]

/-- A skeleton tells the name of a fragment and the number of its instructions, and nothing else. -/
theorem render_congr {fragment other : Fragment}
    (hidentifier : fragment.identifier = other.identifier)
    (hcount : instructionCount fragment.text = instructionCount other.text) :
    render fragment = render other := by
  unfold render
  rw [hidentifier, hcount]

end Template

/-- **Line endings do not matter.**  A text with a carriage return put in front of every newline
gives the same name or none, as before; its fragment is blank if the fragment was, and has a name of
its own if the fragment had; and the skeletons of the two fragments are the same text. -/
theorem line_endings_immaterial (text : String) :
    let other := String.ofList (withReturns text.toList)
    Fragment.extractIdentifier other = Fragment.extractIdentifier text ∧
      (Fragment.ofText other).isBlank = (Fragment.ofText text).isBlank ∧
      (Fragment.ofText other).isNamed = (Fragment.ofText text).isNamed ∧
      Template.render (Fragment.ofText other) = Template.render (Fragment.ofText text) := by
  intro other
  have hname : Fragment.extractIdentifier other = Fragment.extractIdentifier text :=
    Fragment.extractIdentifier_withReturns text
  have hidentifier : (Fragment.ofText other).identifier = (Fragment.ofText text).identifier := by
    rw [Fragment.ofText, hname, Fragment.ofText]
  have hcount : Template.instructionCount other = Template.instructionCount text :=
    Template.instructionCount_withReturns text
  refine ⟨hname, ?_, ?_, ?_⟩
  · change allBlank other.toList = allBlank text.toList
    rw [String.toList_ofList, allBlank_withReturns]
  · rw [Fragment.isNamed, hidentifier, Fragment.isNamed]
  · exact Template.render_congr hidentifier hcount

end MatchingDecomp
