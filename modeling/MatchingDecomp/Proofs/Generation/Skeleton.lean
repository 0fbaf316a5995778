import MatchingDecomp.Compilation.StandIn
import MatchingDecomp.Generation.Template
import MatchingDecomp.Proofs.Fragment.Name
import MatchingDecomp.Proofs.Session.Calls
import MatchingDecomp.Proofs.Source.Tokens
import MatchingDecomp.Proofs.Text.Search
import MatchingDecomp.Verification.Heuristic

/-!
# What becomes of a skeleton

A skeleton is a fixed text with a number and a name put into it.  The number stands in a comment,
and the name is a word, so neither can disturb the brackets: every skeleton passes the gate
(`isBalanced_render`).  It has an include and a body, so the stand-in compiler takes it.

Whether it seems to define the main function depends on the name.  The two patterns that are
searched for each have a space in them, so the skeleton is taken apart into its words
(`skeletonWords`), and only the word before the name ends in the right way.
-/

namespace MatchingDecomp.Template

open Text

/-! ## The text of a skeleton -/

/-- The number of instructions, as it stands in the skeleton. -/
def countDigits (fragment : Fragment) : List Char :=
  Decimal.digits (instructionCount fragment.text)

theorem isDigit_of_mem_countDigits {fragment : Fragment} {c : Char}
    (hc : c ∈ countDigits fragment) : isDigit c = true :=
  Nat.isDigit_of_mem_toDigits (by decide) (by decide) hc

theorem toList_render (fragment : Fragment) :
    (render fragment).toList =
      "// Generated C code from assembly\n".toList ++ ("// ".toList ++ (countDigits fragment ++
        (" instructions in original\n".toList ++ ("#include <stdio.h>\n".toList ++
        ("#include <stdlib.h>\n\n".toList ++ ("int ".toList ++ (fragment.identifier.toList ++
        ("(void) \x7b\n".toList ++ ("    return 0;\n".toList ++ "\x7d\n".toList))))))))) := by
  unfold render
  simp only [String.toList_append, Decimal.text, String.toList_ofList, List.append_assoc,
    countDigits]

/-- The words of a skeleton, in the narrow sense: what stands between single spaces. -/
def skeletonWords (fragment : Fragment) : List (List Char) :=
  ["//".toList, "Generated".toList, "C".toList, "code".toList, "from".toList,
    "assembly\n//".toList, countDigits fragment, "instructions".toList, "in".toList,
    "original\n#include".toList, "<stdio.h>\n#include".toList, "<stdlib.h>\n\nint".toList,
    fragment.identifier.toList ++ "(void)".toList, "\x7b\n".toList, [], [], [],
    "return".toList, "0;\n\x7d\n".toList]

theorem toList_render_eq_intercalate (fragment : Fragment) :
    (render fragment).toList = [' '].intercalate (skeletonWords fragment) := by
  rw [toList_render]
  unfold skeletonWords
  simp only [String.reduceToList, List.cons_append, List.nil_append, List.append_assoc,
    List.intercalate_cons_cons, List.intercalate_singleton]

/-- A skeleton up to its body. -/
def opening (fragment : Fragment) : String :=
  "// Generated C code from assembly\n" ++
  "// " ++ Decimal.text (instructionCount fragment.text) ++ " instructions in original\n" ++
  "#include <stdio.h>\n" ++
  "#include <stdlib.h>\n\n" ++
  "int " ++ fragment.identifier ++ "(void) \x7b\n"

theorem render_eq_opening (fragment : Fragment) :
    render fragment = opening fragment ++ "    return 0;\n\x7d\n" := by
  have hbody : "    return 0;\n" ++ "\x7d\n" = "    return 0;\n\x7d\n" := by decide
  unfold render opening
  rw [← hbody, ← String.append_assoc]

/-- The opening as the gate sees it: two comments, and then code. -/
theorem toList_opening (fragment : Fragment) :
    (opening fragment).toList =
      ('/' :: '/' :: " Generated C code from assembly".toList ++ ['\n']) ++
        (('/' :: '/' :: (' ' :: countDigits fragment ++ " instructions in original".toList) ++
          ['\n']) ++
        ("#include <stdio.h>\n#include <stdlib.h>\n\nint ".toList ++
          (fragment.identifier.toList ++ "(void) \x7b\n".toList))) := by
  unfold opening
  simp only [String.toList_append, Decimal.text, String.toList_ofList, String.reduceToList,
    List.cons_append, List.nil_append, List.append_assoc, countDigits]

/-! ## The brackets of a skeleton -/

/-- A word is nothing to the gate. -/
theorem foldl_read_of_word {word : List Char} (hword : ∀ c ∈ word, isWordChar c = true)
    (d : Option Source.Depths) :
    word.foldl Source.Gate.read ⟨.code, d⟩ = ⟨.code, d⟩ := by
  induction word with
  | nil => rfl
  | cons c rest ih =>
      have hc := hword c List.mem_cons_self
      have hbracket : c ∉ Source.brackets := not_mem_of_isWordChar hc (by decide)
      have hopener : c ∉ ['/', '"', '\''] := not_mem_of_isWordChar hc (by decide)
      have hcode : Source.Mode.code.next c = .code := by
        simp only [List.mem_cons, List.not_mem_nil, or_false, not_or] at hopener
        simp [Source.Mode.next, Source.Mode.afterCode, hopener]
      rw [List.foldl_cons, Source.Gate.read_of_not_mem_brackets hbracket, hcode]
      exact ih fun other hother => hword other (List.mem_cons_of_mem _ hother)

/-- The opening of a skeleton leaves one brace open. -/
theorem foldl_read_opening {fragment : Fragment}
    (hname : isIdentifier fragment.identifier.toList = true) :
    (opening fragment).toList.foldl Source.Gate.read {} = ⟨.code, some { braces := 1 }⟩ := by
  -- the comments and the name leave the gate as it is, and the rest is a fixed text
  have hfirst : Source.Closed
      ('/' :: '/' :: " Generated C code from assembly".toList ++ ['\n']) :=
    .lineComment (by decide)
  have hsecond : Source.Closed
      ('/' :: '/' :: (' ' :: countDigits fragment ++ " instructions in original".toList) ++
        ['\n']) := by
    refine .lineComment ?_
    have hdigits : '\n' ∉ countDigits fragment := fun hmem =>
      absurd (isDigit_of_mem_countDigits hmem) (by decide)
    simpa using hdigits
  have hincludes : ("#include <stdio.h>\n#include <stdlib.h>\n\nint ".toList).foldl
      Source.Gate.read ⟨.code, some {}⟩ = ⟨.code, some {}⟩ := by
    decide +kernel
  have hhead : ("(void) \x7b\n".toList).foldl Source.Gate.read ⟨.code, some {}⟩ =
      ⟨.code, some { braces := 1 }⟩ := by
    decide +kernel
  rw [toList_opening, List.foldl_append, hfirst.foldl_read, List.foldl_append,
    hsecond.foldl_read, List.foldl_append, hincludes, List.foldl_append,
    foldl_read_of_word (isWordChar_of_isIdentifier hname), hhead]

theorem isBalanced_render {fragment : Fragment}
    (hname : isIdentifier fragment.identifier.toList = true) :
    Source.isBalanced (render fragment) = true := by
  have hbody : ("    return 0;\n\x7d\n".toList).foldl
      Source.Gate.read ⟨.code, some { braces := 1 }⟩ = ⟨.code, some {}⟩ := by
    decide +kernel
  rw [Source.isBalanced, Source.balanced, render_eq_opening, String.toList_append,
    List.foldl_append, foldl_read_opening hname, hbody]
  rfl

/-! ## Searching a skeleton -/

theorem not_mem_skeletonWords {fragment : Fragment}
    (hname : isIdentifier fragment.identifier.toList = true) :
    ∀ word ∈ skeletonWords fragment, ' ' ∉ word := by
  have hdigits : ' ' ∉ countDigits fragment := fun hmem =>
    absurd (isDigit_of_mem_countDigits hmem) (by decide)
  have hletters : ' ' ∉ fragment.identifier.toList := fun hmem =>
    absurd (isWordChar_of_isIdentifier hname _ hmem) (by decide)
  simp [skeletonWords, hdigits, hletters]

/-- A pattern that goes on with `main` after a space can only occur where the name begins. -/
theorem occursIn_render {fragment : Fragment}
    (hname : isIdentifier fragment.identifier.toList = true) {left : List Char}
    (hleft : ' ' ∉ left) :
    occursIn (left ++ ' ' :: "main".toList) (render fragment).toList =
      (left.isSuffixOf "<stdlib.h>\n\nint".toList &&
        "main".toList.isPrefixOf fragment.identifier.toList) := by
  have hdigits : "main".toList.isPrefixOf (countDigits fragment) = false := by
    rw [Bool.eq_false_iff, ne_eq, List.isPrefixOf_iff_prefix]
    intro hstart
    have hletter : 'm' ∈ countDigits fragment := hstart.subset (by decide)
    exact absurd (isDigit_of_mem_countDigits hletter) (by decide)
  have hletters : "main".toList.isPrefixOf (fragment.identifier.toList ++ "(void)".toList) =
      "main".toList.isPrefixOf fragment.identifier.toList :=
    isPrefixOf_append_separator (by decide) _ _
  rw [toList_render_eq_intercalate,
    occursIn_intercalate hleft (by decide) _ (not_mem_skeletonWords hname)]
  simp only [skeletonWords, List.tail_cons, List.zip_cons_cons, List.zip_nil_right, List.any_cons,
    List.any_nil, hdigits, hletters]
  -- no other word of the skeleton begins with an `m`
  simp [List.isPrefixOf_cons_cons]

/-- A skeleton seems to define the main function if its name begins with `main`. -/
theorem hasMain_render {fragment : Fragment}
    (hname : isIdentifier fragment.identifier.toList = true) :
    StandIn.hasMain (render fragment) =
      "main".toList.isPrefixOf fragment.identifier.toList := by
  have hint : "int main".toList = "int".toList ++ ' ' :: "main".toList := by decide
  have hvoid : "void main".toList = "void".toList ++ ' ' :: "main".toList := by decide
  have hends : "int".toList.isSuffixOf "<stdlib.h>\n\nint".toList = true ∧
      "void".toList.isSuffixOf "<stdlib.h>\n\nint".toList = false := by decide +kernel
  rw [StandIn.hasMain, mentions, mentions, hint, hvoid, occursIn_render hname (by decide),
    occursIn_render hname (by decide), hends.1, hends.2, Bool.true_and, Bool.false_and,
    Bool.or_false]

/-! ## What the backends make of a skeleton -/

/-- Whatever follows the opening of a skeleton, the body has an end if there is a closing brace. -/
theorem hasBody_opening (fragment : Fragment) {rest : String} (hclosed : '\x7d' ∈ rest.toList) :
    Heuristic.hasBody (opening fragment ++ rest) = true := by
  have hopened : '\x7b' ∈ (opening fragment).toList := by
    rw [toList_opening]
    simp only [List.mem_append]
    exact .inr (.inr (.inr (.inr (by decide))))
  rw [Heuristic.hasBody, Bool.and_eq_true, List.contains_iff_mem, List.contains_iff_mem,
    String.toList_append, List.mem_append, List.mem_append]
  exact ⟨.inl hopened, .inr hclosed⟩

theorem isProgram_opening (fragment : Fragment) {rest : String}
    (hclosed : '\x7d' ∈ rest.toList) :
    StandIn.isProgram (opening fragment ++ rest) = true := by
  have hinclude : mentions "#include" (opening fragment ++ rest) = true := by
    have hfirst : "#include".toList <:+: "#include <stdio.h>\n#include <stdlib.h>\n\nint ".toList :=
      List.IsPrefix.isInfix (by decide +kernel)
    have hopening : "#include".toList <:+: (opening fragment).toList := by
      rw [toList_opening, ← List.append_assoc]
      exact hfirst.trans (List.infix_append' ..)
    rw [mentions, occursIn_iff_infix, String.toList_append]
    exact hopening.trans (List.prefix_append ..).isInfix
  rw [StandIn.isProgram, hinclude, Bool.true_and]
  exact hasBody_opening fragment hclosed

theorem hasBody_render (fragment : Fragment) : Heuristic.hasBody (render fragment) = true := by
  rw [render_eq_opening]
  exact hasBody_opening fragment (by decide)

theorem isProgram_render (fragment : Fragment) : StandIn.isProgram (render fragment) = true := by
  rw [render_eq_opening]
  exact isProgram_opening fragment (by decide)

theorem isBlankText_render (fragment : Fragment) : isBlankText (render fragment) = false := by
  rw [isBlankText, render_eq_opening, String.toList_append, toList_opening]
  rfl

/-- The skeleton generator makes a skeleton of every fragment that has text and a name for a
function. -/
theorem generate_eq {σ : Type} (fragment : Fragment) (resources : σ) :
    (generator σ).generate fragment resources =
      (if fragment.isBlank then .error .emptyFragment
        else if isIdentifier fragment.identifier.toList then
          .ok (Candidate.clamped ⟨render fragment, confidence⟩)
        else .error (invalidName fragment.identifier), resources) := by
  have hproduce : (generator σ).produce fragment resources = (produce fragment, resources) := rfl
  rw [Generator.generate_eq, hproduce, produce]
  cases hname : isIdentifier fragment.identifier.toList with
  | false => cases fragment.isBlank <;> rfl
  | true =>
      simp only [if_true, isBlankText_render, Bool.false_eq_true, if_false]
      cases fragment.isBlank <;> rfl

theorem exists_generate_eq_ok_iff {σ : Type} (fragment : Fragment) (resources : σ) :
    (∃ candidate, ((generator σ).generate fragment resources).1 = .ok candidate) ↔
      fragment.isBlank = false ∧ isIdentifier fragment.identifier.toList = true := by
  rw [generate_eq]
  cases fragment.isBlank <;> cases isIdentifier fragment.identifier.toList <;> simp

/-- The stand-in compiler takes every skeleton. -/
theorem compile_render {σ : Type} {fragment : Fragment}
    (hname : isIdentifier fragment.identifier.toList = true) (tempDirectory : String)
    (resources : σ) :
    (StandIn.compiler σ tempDirectory).compile (render fragment) resources =
      (.ok (.succeeded (StandIn.artifact tempDirectory (render fragment))
        (if "main".toList.isPrefixOf fragment.identifier.toList then []
          else ["No main function found"])), resources) := by
  rw [Compiler.compile, if_pos (isBalanced_render hname), ← hasMain_render hname]
  change (Except.ok (StandIn.outcome tempDirectory (render fragment)), resources) = _
  rw [StandIn.outcome, if_pos (isProgram_render fragment)]

/-- The heuristic verifier finds the stock discrepancies in every skeleton. -/
theorem verify_render {σ : Type} (fragment : Fragment) {outcome : Outcome}
    (hsuccess : outcome.success = true) (resources : σ) :
    (Heuristic.verifier σ {}).verify fragment (render fragment) outcome resources =
      (.ok {
        success := false
        matchPercentage := if fragment.isNamed then 85 else 60
        discrepancies :=
          [Category.stackFrame, Category.registerAllocation, Category.instructionOrdering]
        detailedDiff := some (Heuristic.sampleDiff fragment.identifier) }, resources) := by
  have hcompare : (Heuristic.verifier σ {}).compare fragment (render fragment) outcome.artifact
      resources = (.ok (Heuristic.comparison {} fragment (render fragment)), resources) := rfl
  have hscore : Heuristic.score {} fragment = if fragment.isNamed then 85 else 60 := rfl
  rw [Verifier.verify_eq, if_pos hsuccess, hcompare, Heuristic.comparison, hasBody_render, hscore]
  cases fragment.isNamed <;> rfl

/-! ## Which texts have a skeleton -/

/-- **Which names are usable.**  The name of a text is an identifier exactly if the text is not
misnamed, and a hint that is an identifier makes up for that.  A text that is not blank has a
skeleton under the same conditions, and under no others. -/
theorem usable_name_iff {σ : Type} (text hint : String) (resources : σ) :
    (isIdentifier (Fragment.ofText text).identifier.toList = true ↔ ¬ Fragment.Misnamed text) ∧
      (isIdentifier (Fragment.withHint text hint).identifier.toList = true ↔
        isIdentifier (trim hint.toList) = true ∨ ¬ Fragment.Misnamed text) ∧
      ((∃ candidate,
          ((generator σ).generate (Fragment.ofText text) resources).1 = .ok candidate) ↔
        isBlankText text = false ∧ ¬ Fragment.Misnamed text) ∧
      ((∃ candidate,
          ((generator σ).generate (Fragment.withHint text hint) resources).1 = .ok candidate) ↔
        isBlankText text = false ∧
          (isIdentifier (trim hint.toList) = true ∨ ¬ Fragment.Misnamed text)) := by
  have hinferred := Fragment.isIdentifier_ofText_iff text
  have hhinted := Fragment.isIdentifier_withHint_iff text hint
  have hblank : (Fragment.withHint text hint).isBlank = isBlankText text := by
    simp only [Fragment.withHint]
    split <;> rfl
  refine ⟨hinferred, hhinted, ?_, ?_⟩
  · rw [exists_generate_eq_ok_iff, hinferred]
    rfl
  · rw [exists_generate_eq_ok_iff, hhinted, hblank]

/-- The word after a directive is taken as a name although it starts with a digit, and then there is
no skeleton. -/
theorem not_usable_of_digit :
    isBlankText ".fn 9lives" = false ∧
      isIdentifier (Fragment.ofText ".fn 9lives").identifier.toList = false ∧
      ((generator Unit).generate (Fragment.ofText ".fn 9lives") ()).1 =
        .error (invalidName "9lives") := by
  decide

end MatchingDecomp.Template
