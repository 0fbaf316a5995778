import MatchingDecomp.Proofs.Generation.Annotation
import MatchingDecomp.Proofs.Generation.Skeleton

/-!
# Refining a skeleton again and again

A skeleton has one semicolon, at the end of its anchor, and note lines have none.  So the anchor of
a skeleton stays where it is, at the end of the notes, however often the skeleton is refined: each
round puts its lines below those of the rounds before it.

The notes stand in code, inside the braces that the opening of the skeleton has opened.  They are
nothing to the gate, and nothing of what the stand-in compiler looks for is lost.

Main statement: `refined_skeleton`.
-/

namespace MatchingDecomp.Template

open Text

/-! ## Rounds -/

/-- The lines that a round of discrepancies adds to a skeleton. -/
def roundLines (discrepancies : List String) : List String :=
  (if ∃ d ∈ discrepancies, "stack".toList <:+: d.toList then
      ["    /* mismatch: stack frame */\n"] else []) ++
    (if ∃ d ∈ discrepancies, "register".toList <:+: d.toList then
      ["    /* mismatch: register allocation */\n"] else [])

theorem any_mentions_iff (word : String) (discrepancies : List String) :
    discrepancies.any (mentions word) = true ↔
      ∃ d ∈ discrepancies, word.toList <:+: d.toList := by
  simp only [List.any_eq_true, mentions, occursIn_iff_infix]

theorem map_noteLine_notes (discrepancies : List String) :
    (notes discrepancies).map noteLine = roundLines discrepancies := by
  have hstack : noteLine Category.stackFrame = "    /* mismatch: stack frame */\n" := by decide
  have hregister : noteLine Category.registerAllocation =
      "    /* mismatch: register allocation */\n" := by decide
  simp only [notes, roundLines, any_mentions_iff, List.map_append, ← hstack, ← hregister]
  congr 1
  · split <;> rfl
  · split <;> rfl

/-- Rounds of refinement are one sequence of notes. -/
theorem foldl_refine (source : String) (rounds : List (List String)) :
    rounds.foldl refine source = (rounds.flatMap notes).foldl annotate source := by
  rw [List.foldl_flatMap]
  rfl

theorem noteText_notes (rounds : List (List String)) :
    noteText (rounds.flatMap notes) = (String.join (rounds.flatMap roundLines)).toList := by
  have hlines : rounds.flatMap roundLines = (rounds.flatMap notes).map noteLine := by
    rw [List.map_flatMap]
    simp only [map_noteLine_notes]
  rw [hlines, String.toList_join, List.flatMap_map, noteText]

theorem mem_knownNotes_of_rounds {rounds : List (List String)} :
    ∀ note ∈ rounds.flatMap notes, note ∈ knownNotes := by
  intro note hnote
  obtain ⟨discrepancies, -, hmem⟩ := List.mem_flatMap.mp hnote
  exact mem_knownNotes hmem

/-! ## The one semicolon -/

theorem not_mem_noteText {noted : List String} (hnoted : ∀ note ∈ noted, note ∈ knownNotes) :
    ';' ∉ noteText noted := by
  have hall : ∀ note ∈ knownNotes, ';' ∉ (noteLine note).toList := by decide
  intro hmem
  obtain ⟨note, hnote, hline⟩ := List.mem_flatMap.mp hmem
  exact hall note (hnoted note hnote) hline

section

variable {fragment : Fragment}

theorem not_mem_opening (hname : isIdentifier fragment.identifier.toList = true) :
    ';' ∉ (opening fragment).toList := by
  have hdigits : ';' ∉ countDigits fragment := fun hmem =>
    absurd (isDigit_of_mem_countDigits hmem) (by decide)
  have hletters : ';' ∉ fragment.identifier.toList := fun hmem =>
    absurd (isWordChar_of_isIdentifier hname _ hmem) (by decide)
  rw [toList_opening]
  simp [hdigits, hletters]

/-- The first anchor of a skeleton stands right behind its opening. -/
theorem firstAfter_opening (hname : isIdentifier fragment.identifier.toList = true) :
    FirstAfter anchor.toList (opening fragment).toList (render fragment).toList := by
  have hend : ['\n'] <:+ (opening fragment).toList := by
    have hhead : ['\n'] <:+ "(void) \x7b\n".toList := by decide
    rw [toList_opening]
    simp only [← List.append_assoc]
    exact hhead.trans (List.suffix_append ..)
  obtain ⟨line, hline⟩ := hend
  have habsent : ¬ anchor.toList <:+: line := by
    intro hoccurs
    apply not_mem_opening hname
    rw [← hline]
    exact List.mem_append_left _ (hoccurs.subset (by decide))
  have hrest : anchor.toList <+: "    return 0;\n\x7d\n".toList := by decide
  have hnewline : '\n' ∉ anchor.toList := by decide
  have hplace := (firstAfter_nil hrest).after_separator hnewline habsent
  rw [render_eq_opening, String.toList_append, ← hline, List.append_assoc]
  exact hplace

/-- In a text with one semicolon, a word that ends in a semicolon stands in one place. -/
theorem existsUnique_of_semicolon {left word right : List Char} (hleft : ';' ∉ left)
    (hword : ';' ∉ word) (hright : ';' ∉ right) :
    ∃! before, before ++ (word ++ [';']) <+: left ++ (word ++ ';' :: right) := by
  refine ⟨left, ⟨right, ?_⟩, ?_⟩
  · simp only [List.append_assoc, List.cons_append, List.nil_append]
  · intro before hbefore
    obtain ⟨final, heq⟩ := hbefore
    have hsplit : (before ++ word) ++ ';' :: final = (left ++ word) ++ ';' :: right := by
      simpa only [List.append_assoc, List.cons_append, List.nil_append] using heq
    have hfirst : ';' ∉ left ++ word := by
      rw [List.mem_append, not_or]
      exact ⟨hleft, hword⟩
    rcases eq_or_exists_of_separators hfirst hsplit with ⟨hsame, -⟩ | ⟨middle, -, hmiddle⟩
    · exact List.append_cancel_right hsame
    · exact absurd (by simp [hmiddle]) hright

/-! ## Refined skeletons -/

theorem toList_body : "    return 0;\n\x7d\n".toList = anchor.toList ++ "\n\x7d\n".toList := by
  decide

theorem toList_refined (hname : isIdentifier fragment.identifier.toList = true)
    (rounds : List (List String)) :
    (rounds.foldl refine (render fragment)).toList =
      (opening fragment).toList ++ (noteText (rounds.flatMap notes) ++
        (anchor.toList ++ "\n\x7d\n".toList)) := by
  have htext : (render fragment).toList =
      (opening fragment).toList ++ (anchor.toList ++ "\n\x7d\n".toList) := by
    rw [render_eq_opening, String.toList_append, toList_body]
  rw [foldl_refine]
  exact toList_foldl_annotate _ mem_knownNotes_of_rounds htext (firstAfter_opening hname)

theorem refined_eq (hname : isIdentifier fragment.identifier.toList = true)
    (rounds : List (List String)) :
    rounds.foldl refine (render fragment) =
      opening fragment ++ (String.join (rounds.flatMap roundLines) ++
        "    return 0;\n\x7d\n") := by
  rw [← String.toList_inj, toList_refined hname, noteText_notes, String.toList_append,
    String.toList_append, toList_body]

/-- The anchor is the only place in which a refined skeleton returns. -/
theorem existsUnique_return (hname : isIdentifier fragment.identifier.toList = true)
    (rounds : List (List String)) :
    ∃! before, before ++ "return 0;".toList <+:
      (rounds.foldl refine (render fragment)).toList := by
  have hword : "return 0;".toList = "return 0".toList ++ [';'] := by decide
  have hanchor : anchor.toList ++ "\n\x7d\n".toList =
      "    ".toList ++ ("return 0".toList ++ ';' :: "\n\x7d\n".toList) := by decide
  have hleft : ';' ∉ (opening fragment).toList ++
      (noteText (rounds.flatMap notes) ++ "    ".toList) := by
    simp only [List.mem_append, not_or]
    exact ⟨not_mem_opening hname, not_mem_noteText mem_knownNotes_of_rounds, by decide⟩
  have htext : (rounds.foldl refine (render fragment)).toList =
      (opening fragment).toList ++ (noteText (rounds.flatMap notes) ++ "    ".toList) ++
        ("return 0".toList ++ ';' :: "\n\x7d\n".toList) := by
    rw [toList_refined hname, hanchor]
    simp only [List.append_assoc]
  rw [htext, hword]
  exact existsUnique_of_semicolon hleft (by decide) (by decide)

theorem isBalanced_refined (hname : isIdentifier fragment.identifier.toList = true)
    (rounds : List (List String)) :
    Source.isBalanced (rounds.foldl refine (render fragment)) = true := by
  have hcode : ((opening fragment).toList.foldl Source.Gate.read {}).mode.isCode = true := by
    rw [foldl_read_opening hname]
    rfl
  have hskeleton := isBalanced_render hname
  rw [Source.isBalanced, render_eq_opening, String.toList_append, toList_body] at hskeleton
  rw [Source.isBalanced, toList_refined hname, balanced_noteText hcode _ mem_knownNotes_of_rounds]
  exact hskeleton

theorem compile_refined {σ : Type} (hname : isIdentifier fragment.identifier.toList = true)
    (rounds : List (List String)) (tempDirectory : String) (resources : σ) :
    ∃ outcome, outcome.success = true ∧
      (StandIn.compiler σ tempDirectory).compile (rounds.foldl refine (render fragment))
        resources = (.ok outcome, resources) := by
  have hprogram : StandIn.isProgram (rounds.foldl refine (render fragment)) = true := by
    rw [refined_eq hname]
    apply isProgram_opening
    rw [String.toList_append]
    exact List.mem_append_right _ (by decide)
  refine ⟨StandIn.outcome tempDirectory (rounds.foldl refine (render fragment)), ?_, ?_⟩
  · rw [StandIn.outcome, if_pos hprogram]
    rfl
  · rw [Compiler.compile, if_pos (isBalanced_refined hname rounds)]
    rfl

end

/-! ## The main statement -/

/-- **Refining a skeleton.**  After any number of rounds a skeleton has the lines of all rounds, in
their order, right in front of the line that returns, and is otherwise unchanged.  It returns in one
place only, it is balanced, and the stand-in compiler takes it. -/
theorem refined_skeleton {σ : Type} {fragment : Fragment}
    (hname : isIdentifier fragment.identifier.toList = true) (rounds : List (List String))
    (tempDirectory : String) (resources : σ) :
    (render fragment = opening fragment ++ "    return 0;\n\x7d\n" ∧
        rounds.foldl refine (render fragment) =
          opening fragment ++ (String.join (rounds.flatMap roundLines) ++
            "    return 0;\n\x7d\n")) ∧
      (∃! before, before ++ "return 0;".toList <+:
        (rounds.foldl refine (render fragment)).toList) ∧
      Source.isBalanced (rounds.foldl refine (render fragment)) = true ∧
      ∃ outcome, outcome.success = true ∧
        (StandIn.compiler σ tempDirectory).compile (rounds.foldl refine (render fragment))
          resources = (.ok outcome, resources) := by
  exact ⟨⟨render_eq_opening fragment, refined_eq hname rounds⟩, existsUnique_return hname rounds,
    isBalanced_refined hname rounds, compile_refined hname rounds tempDirectory resources⟩

/-- Three rounds, the second of which has nothing to note. -/
theorem refined_skeleton_of_three :
    let fragment : Fragment := { text := "jr $ra", identifier := "return0" }
    let rounds := [["register r3", "stack size"], ["order"], ["stacked registers"]]
    isIdentifier fragment.identifier.toList = true ∧
      rounds.foldl refine (render fragment) =
        opening fragment ++ ("    /* mismatch: stack frame */\n" ++
          "    /* mismatch: register allocation */\n" ++ "    /* mismatch: stack frame */\n" ++
          "    /* mismatch: register allocation */\n" ++ "    return 0;\n\x7d\n") := by
  intro fragment rounds
  have hname : isIdentifier fragment.identifier.toList = true := by decide
  have hlines : String.join (rounds.flatMap roundLines) =
      "    /* mismatch: stack frame */\n" ++
        "    /* mismatch: register allocation */\n" ++ "    /* mismatch: stack frame */\n" ++
          "    /* mismatch: register allocation */\n" := by
    decide +kernel
  rw [← hlines]
  exact ⟨hname, (refined_skeleton hname rounds "/tmp" ()).1.2⟩

end MatchingDecomp.Template
