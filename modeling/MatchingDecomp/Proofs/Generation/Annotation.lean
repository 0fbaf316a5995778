import MatchingDecomp.Generation.Template
import MatchingDecomp.Proofs.Source.Tokens
import MatchingDecomp.Proofs.Text.Replacement

/-!
# Annotated sources

Refining a source puts lines in front of its first `    return 0;`, one for each note.

A note line begins like the anchor, but behind the indentation it has a slash, which the anchor does
not have, and at its end it has a newline.  So the first anchor of the annotated source is the one
that the line was put in front of (`annotate_eq`), and the notes of many rounds come to stand one
below the other (`toList_foldl_annotate`).

To the gate a note line is a comment between blanks, as long as it stands where the gate reads code
(`foldl_read_noteLine`).  Inside another comment or a literal it is not: there its end, or its
newline, ends the other comment or the literal as well, and the anchor and what follows are read as
code (`anchor_outside_code`).
-/

namespace MatchingDecomp.Template

open Text

/-! ## Notes -/

/-- The notes that there are. -/
def knownNotes : List String := [Category.stackFrame, Category.registerAllocation]

theorem mem_knownNotes {discrepancies : List String} {note : String}
    (hnote : note ∈ notes discrepancies) : note ∈ knownNotes := by
  rw [notes, List.mem_append] at hnote
  rcases hnote with hnote | hnote
  · split at hnote
    · exact List.mem_cons.mpr (.inl (List.mem_singleton.mp hnote))
    · exact absurd hnote List.not_mem_nil
  · split at hnote
    · exact List.mem_cons_of_mem _ hnote
    · exact absurd hnote List.not_mem_nil

/-- What stands in the comment of a note. -/
def noteBody (note : String) : List Char :=
  " mismatch: ".toList ++ (note.toList ++ [' '])

theorem toList_noteLine (note : String) :
    (noteLine note).toList =
      "    ".toList ++ (('/' :: '*' :: noteBody note ++ ['*', '/']) ++ ['\n']) := by
  unfold noteLine noteBody
  simp only [String.toList_append, String.reduceToList, List.cons_append, List.nil_append,
    List.append_assoc]

theorem toList_anchor : anchor.toList = "    ".toList ++ "return 0;".toList := by
  decide

/-- The lines of some notes. -/
def noteText (noted : List String) : List Char :=
  noted.flatMap fun note => (noteLine note).toList

/-! ## The place of the notes -/

section

variable {source : String} {before after : List Char}

/-- The anchor does not stand in a note line, nor does it begin before the line and end in it. -/
theorem firstAfter_noteLine (hfirst : FirstAfter anchor.toList before
    (before ++ (anchor.toList ++ after))) {note : String} (hnote : note ∈ knownNotes) :
    FirstAfter anchor.toList (before ++ (noteLine note).toList)
      (before ++ (noteLine note).toList ++ (anchor.toList ++ after)) := by
  have hbody : ¬ anchor.toList <:+: '*' :: noteBody note ++ ['*', '/'] := by
    intro hoccurs
    have hmem : ';' ∈ '*' :: noteBody note ++ ['*', '/'] := hoccurs.subset (by decide)
    have hall : ∀ other ∈ knownNotes, ';' ∉ '*' :: noteBody other ++ ['*', '/'] := by decide
    exact hall note hnote hmem
  have hlead : ¬ anchor.toList <:+: before ++ "    ".toList := by
    rw [toList_anchor] at hfirst ⊢
    exact hfirst.not_infix (by decide)
  have hnewline : '\n' ∉ anchor.toList := by decide
  have hslash : '/' ∉ anchor.toList := by decide
  have hplace := ((firstAfter_nil (List.prefix_append anchor.toList after)).after_separator
    hnewline hbody).after_separator hslash hlead
  rw [toList_noteLine]
  simpa only [List.append_assoc, List.cons_append, List.nil_append] using hplace

/-- A note line is put in front of the first anchor, which stays the first one. -/
theorem annotate_eq (htext : source.toList = before ++ (anchor.toList ++ after))
    (hfirst : FirstAfter anchor.toList before source.toList) {note : String}
    (hnote : note ∈ knownNotes) :
    (annotate source note).toList = before ++ (noteLine note).toList ++ (anchor.toList ++ after) ∧
      FirstAfter anchor.toList (before ++ (noteLine note).toList)
        (annotate source note).toList := by
  rw [htext] at hfirst
  have hannotated : (annotate source note).toList =
      before ++ (noteLine note).toList ++ (anchor.toList ++ after) := by
    rw [annotate, String.toList_ofList, htext, hfirst.replaceFirst_eq, String.toList_append]
    simp only [List.append_assoc]
  refine ⟨hannotated, ?_⟩
  rw [hannotated]
  exact firstAfter_noteLine hfirst hnote

/-- The notes of any number of rounds stand in front of the first anchor, in their order. -/
theorem toList_foldl_annotate (noted : List String) (hnoted : ∀ note ∈ noted, note ∈ knownNotes)
    (htext : source.toList = before ++ (anchor.toList ++ after))
    (hfirst : FirstAfter anchor.toList before source.toList) :
    (noted.foldl annotate source).toList =
      before ++ (noteText noted ++ (anchor.toList ++ after)) := by
  induction noted generalizing source before with
  | nil => exact htext
  | cons note noted ih =>
      obtain ⟨hannotated, hstays⟩ := annotate_eq htext hfirst (hnoted note List.mem_cons_self)
      have hrest := ih (fun other hother => hnoted other (List.mem_cons_of_mem note hother))
        hannotated hstays
      rw [List.foldl_cons, hrest, noteText, noteText, List.flatMap_cons]
      simp only [List.append_assoc]

/-- A source without an anchor stays as it is. -/
theorem foldl_annotate_of_absent (habsent : ¬ anchor.toList <:+: source.toList)
    (noted : List String) : noted.foldl annotate source = source := by
  induction noted with
  | nil => rfl
  | cons note noted ih =>
      have hsame : annotate source note = source := by
        rw [annotate, replaceFirst_of_not_infix habsent, String.ofList_toList]
      rw [List.foldl_cons, hsame, ih]

end

/-! ## The gate -/

section

variable {m : Source.Mode}

theorem foldl_read_indent (hcode : m.isCode = true) (d : Option Source.Depths) :
    "    ".toList.foldl Source.Gate.read ⟨m, d⟩ = ⟨.code, d⟩ := by
  cases m with
  | code => cases d <;> rfl
  | slash => cases d <;> rfl
  | _ => cases hcode

/-- In code, a note line is a comment between blanks. -/
theorem foldl_read_noteLine (hcode : m.isCode = true) (d : Option Source.Depths) {note : String}
    (hnote : note ∈ knownNotes) :
    (noteLine note).toList.foldl Source.Gate.read ⟨m, d⟩ = ⟨.code, d⟩ := by
  have hcomment : Source.Closed ('/' :: '*' :: noteBody note ++ ['*', '/']) := by
    have hall : ∀ other ∈ knownNotes, ¬ ['*', '/'] <:+: noteBody other := by decide
    exact .blockComment (hall note hnote)
  rw [toList_noteLine, List.foldl_append, foldl_read_indent hcode, List.foldl_append,
    hcomment.foldl_read]
  exact Source.Gate.read_of_not_mem_brackets (by decide) .code d

theorem foldl_read_noteText (hcode : m.isCode = true) (d : Option Source.Depths)
    (noted : List String) (hnoted : ∀ note ∈ noted, note ∈ knownNotes) :
    ∃ later : Source.Mode, later.isCode = true ∧
      (noteText noted).foldl Source.Gate.read ⟨m, d⟩ = ⟨later, d⟩ := by
  induction noted generalizing m with
  | nil => exact ⟨m, hcode, rfl⟩
  | cons note noted ih =>
      obtain ⟨later, hlater, hread⟩ := ih (m := .code) rfl
        fun other hother => hnoted other (List.mem_cons_of_mem note hother)
      refine ⟨later, hlater, ?_⟩
      rw [noteText, List.flatMap_cons, List.foldl_append,
        foldl_read_noteLine hcode d (hnoted note List.mem_cons_self)]
      exact hread

/-- Notes in front of an anchor that is read as code do not change what the gate makes of it. -/
theorem balanced_noteText {before : List Char}
    (hcode : (before.foldl Source.Gate.read {}).mode.isCode = true) (noted : List String)
    (hnoted : ∀ note ∈ noted, note ∈ knownNotes) (after : List Char) :
    Source.balanced (before ++ (noteText noted ++ (anchor.toList ++ after))) =
      Source.balanced (before ++ (anchor.toList ++ after)) := by
  simp only [Source.balanced, toList_anchor, List.foldl_append]
  generalize before.foldl Source.Gate.read {} = g at hcode ⊢
  obtain ⟨later, hlater, hread⟩ := foldl_read_noteText hcode g.depths noted hnoted
  -- the indentation of the anchor brings the gate to plain code, with the notes and without them
  rw [hread, foldl_read_indent hlater, foldl_read_indent hcode]

end

/-- **Annotations are comments.**  If the first anchor of a source is read as code, or no note is
asked for, or there is no anchor, then refining the source does not change whether it is
balanced. -/
theorem isBalanced_refine (source : String) (discrepancies : List String)
    (hcode : notes discrepancies ≠ [] →
      ∀ before, FirstAfter anchor.toList before source.toList →
        (before.foldl Source.Gate.read {}).mode.isCode = true) :
    Source.isBalanced (refine source discrepancies) = Source.isBalanced source := by
  by_cases hnone : notes discrepancies = []
  · rw [refine, hnone, List.foldl_nil]
  by_cases hoccurs : anchor.toList <:+: source.toList
  · obtain ⟨before, hfirst⟩ := exists_firstAfter hoccurs
    obtain ⟨after, hafter⟩ := hfirst.stands
    have htext : source.toList = before ++ (anchor.toList ++ after) := by
      rw [← hafter, List.append_assoc]
    have hknown : ∀ note ∈ notes discrepancies, note ∈ knownNotes := fun _ => mem_knownNotes
    have hrefined := toList_foldl_annotate _ hknown htext hfirst
    rw [Source.isBalanced, Source.isBalanced, refine, hrefined, htext]
    exact balanced_noteText (hcode hnone before hfirst) _ hknown after
  · rw [refine, foldl_annotate_of_absent hoccurs]

/-- The first anchor is code, and the second one, which is left alone, is in a comment. -/
theorem isBalanced_refine_of_two :
    let source := "int f() \x7b\n    return 0;\x7d //    return 0;\x7d"
    notes ["stack size"] ≠ [] ∧
      Source.isBalanced (refine source ["stack size"]) = Source.isBalanced source := by
  intro source
  let before := "int f() \x7b\n".toList
  have hstands : before ++ anchor.toList <+: source.toList := by decide +kernel
  have hall : ∀ front ∈ before.inits,
      (front.foldl Source.Gate.read {}).mode.isCode = true := by decide +kernel
  refine ⟨by decide, isBalanced_refine source ["stack size"] ?_⟩
  intro _ front hfront
  exact hall front ((List.mem_inits front before).mpr (hfront.first before hstands))

/-- The anchor stands in a comment of either kind, in a string and in a character literal.  The note
brings each of them to an end, and a bracket of theirs is read as code. -/
theorem anchor_outside_code :
    let sources :=
      ["int f() \x7b\n//  if (a) \x7b    return 0; \x7d\n\x7d\n",
        "int f() \x7b\n/* if (a) \x7b    return 0; \x7d */\n\x7d\n",
        "char *s = \"if (a) \x7b    return 0; \x7d\";\n", "int c = '\x7b    return 0; \x7d';\n"]
    sources.map Source.isBalanced = [true, true, true, true] ∧
      sources.map (fun source => Source.isBalanced (refine source ["stack size"])) =
        [false, false, false, false] := by
  decide +kernel

end MatchingDecomp.Template
