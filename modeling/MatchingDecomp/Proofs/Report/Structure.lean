import Mathlib.Data.List.Infix
import MatchingDecomp.Proofs.Decimal.Digits
import MatchingDecomp.Proofs.Run.Store
import MatchingDecomp.Report.Basic

/-!
# What can be read from a report

A report is a text, and its structure can be found again without the runs it was made of: the lines
between the newlines (`pieces`), the sections (`sections`), the lines with a label.  Texts from
compilers and comparison tools are quoted in it.  As long as there is no newline in them, none of
them can pass for something else:

* Lines without newlines are found again in the text that is made of them (`pieces_unlines`).
* Each line begins with one of a few stems.  No two of them agree as far as both go (`apart`), so
  one look at the stem tells what a line is (`begins_eq_false`), whatever is quoted behind it.

Sections and counts are made in separate passes over the runs; they agree because both depend on the
status only (`length_unsuccessful`).

Main statement: `report_reads_back`.
-/

namespace MatchingDecomp.Report

open Text

/-! ## Lines and pieces -/

/-- A text without newlines. -/
def OneLine (text : String) : Prop :=
  '\n' ∉ text.toList

instance (text : String) : Decidable (OneLine text) :=
  inferInstanceAs (Decidable ('\n' ∉ text.toList))

theorem oneLine_append {first second : String} :
    OneLine (first ++ second) ↔ OneLine first ∧ OneLine second := by
  simp only [OneLine, String.toList_append, List.mem_append, not_or]

/-- The pieces of a text between its newlines. -/
def pieces (text : String) : List String :=
  (text.toList.splitOn '\n').map String.ofList

theorem toList_unlines (ls : List String) :
    (unlines ls).toList = ['\n'].intercalate (ls.map String.toList ++ [[]]) := by
  induction ls with
  | nil => rfl
  | cons line ls ih =>
      have hcons : (unlines (line :: ls)).toList = line.toList ++ '\n' :: (unlines ls).toList := by
        simp [unlines, String.join_cons]
      rw [hcons, ih, List.map_cons, List.cons_append]
      cases ls <;> simp [List.intercalate_cons_cons]

theorem pieces_unlines {ls : List String} (hlines : ∀ line ∈ ls, OneLine line) :
    pieces (unlines ls) = ls ++ [""] := by
  have hfree : ∀ line ∈ ls.map String.toList ++ [[]], '\n' ∉ line := by
    rw [List.forall_mem_append, List.forall_mem_map]
    exact ⟨hlines, by simp⟩
  rw [pieces, toList_unlines, List.splitOn_intercalate '\n' hfree (by simp)]
  simp [Function.comp_def]

/-! ## Stems -/

/-- Whether a line begins with a stem. -/
def begins (stem line : String) : Bool :=
  stem.toList.isPrefixOf line.toList

theorem begins_append (stem rest : String) : begins stem (stem ++ rest) = true := by
  rw [begins, List.isPrefixOf_iff_prefix, String.toList_append]
  exact List.prefix_append _ _

/-- Whether two stems differ somewhere. -/
def apart (stem other : String) : Bool :=
  !begins stem other && !begins other stem

theorem begins_of_apart {stem other line : String} (hapart : apart stem other = true)
    (hbegins : begins other line = true) : begins stem line = false := by
  rw [Bool.eq_false_iff]
  intro hstem
  simp only [begins, apart, Bool.and_eq_true, Bool.not_eq_true', Bool.eq_false_iff, ne_eq,
    List.isPrefixOf_iff_prefix] at hapart hbegins hstem
  rcases List.prefix_or_prefix_of_prefix hstem hbegins with hprefix | hprefix
  · exact hapart.1 hprefix
  · exact hapart.2 hprefix

/-- A line begins with one of some stems, unless there is nothing on it. -/
def Stemmed (stems : List String) (line : String) : Prop :=
  line = "" ∨ ∃ stem ∈ stems, begins stem line = true

theorem stemmed_append {stems : List String} {stem : String} (hstem : stem ∈ stems)
    (rest : String) : Stemmed stems (stem ++ rest) :=
  .inr ⟨stem, hstem, begins_append stem rest⟩

theorem Stemmed.mono {stems others : List String} {line : String} (hstemmed : Stemmed stems line)
    (hsub : stems ⊆ others) : Stemmed others line := by
  obtain hempty | ⟨stem, hstem, hbegins⟩ := hstemmed
  · exact .inl hempty
  · exact .inr ⟨stem, hsub hstem, hbegins⟩

/-- A stem that is apart from all stems of a line is not there. -/
theorem begins_eq_false (stems : List String) {stem line : String} (hne : stem ≠ "")
    (hapart : stems.all (apart stem) = true) (hstemmed : Stemmed stems line) :
    begins stem line = false := by
  obtain rfl | ⟨other, hother, hbegins⟩ := hstemmed
  · rw [Bool.eq_false_iff, begins, ne_eq, List.isPrefixOf_iff_prefix]
    intro hprefix
    exact hne (String.toList_eq_nil_iff.mp (List.prefix_nil.mp hprefix))
  · exact begins_of_apart (List.all_eq_true.mp hapart other hother) hbegins

theorem filter_begins_eq_nil (stems : List String) {stem : String} {ls : List String}
    (hne : stem ≠ "") (hapart : stems.all (apart stem) = true)
    (hstemmed : ∀ line ∈ ls, Stemmed stems line) : ls.filter (begins stem) = [] := by
  rw [List.filter_eq_nil_iff]
  intro line hline
  rw [begins_eq_false stems hne hapart (hstemmed line hline)]
  exact Bool.false_ne_true

/-! ## Sections -/

/-- The sections of a text: each line that opens one, with the lines that follow it up to the next
blank one. -/
def sections : List String → List (String × List String)
  | [] => []
  | line :: ls =>
    if begins "### " line then
      (line, ls.takeWhile fun other => !isBlankText other) :: sections ls
    else sections ls

theorem map_fst_sections (ls : List String) :
    (sections ls).map Prod.fst = ls.filter (begins "### ") := by
  induction ls with
  | nil => rfl
  | cons line ls ih =>
      rw [sections, List.filter_cons]
      split
      · rw [List.map_cons, ih]
      · exact ih

theorem sections_append {ls : List String} (hplain : ls.filter (begins "### ") = [])
    (rest : List String) : sections (ls ++ rest) = sections rest := by
  induction ls with
  | nil => rfl
  | cons line ls ih =>
      rw [List.filter_eq_nil_iff, List.forall_mem_cons] at hplain
      rw [List.cons_append, sections, if_neg hplain.1]
      exact ih (List.filter_eq_nil_iff.mpr hplain.2)

/-! ## The section of a run -/

/-- The line that opens the section of a run. -/
def heading (run : Run) : String :=
  "### " ++ run.fragmentIdentifier ++ " (" ++ run.status.label ++ ")"

/-- The lines about a run. -/
def body (run : Run) : List String :=
  (match run.sourceFragmentRef with
    | some origin => ["- Source: " ++ origin]
    | none => []) ++
  ["- Match percentage: " ++ Decimal.text (run.matchPercentage.getD 0) ++ "%"] ++
  run.compileErrors.map (fun diagnostic => "- Compiler: " ++ diagnostic) ++
  match run.discrepancies with
    | some discrepancies =>
      if discrepancies = [] then []
      else "- Issues:" :: discrepancies.map fun discrepancy => "  - " ++ discrepancy
    | none => []

/-- The texts of a run that its section quotes. -/
def quoted (run : Run) : List String :=
  run.fragmentIdentifier ::
    (run.sourceFragmentRef.toList ++ run.compileErrors ++ run.discrepancies.getD [])

theorem sectionLines_eq (run : Run) : sectionLines run = heading run :: (body run ++ [""]) := by
  have hissues : issueLines run.discrepancies =
      match run.discrepancies with
        | some discrepancies =>
          if discrepancies = [] then []
          else "- Issues:" :: discrepancies.map fun discrepancy => "  - " ++ discrepancy
        | none => [] := by
    match run.discrepancies with
    | none => rfl
    | some [] => rfl
    | some (_ :: _) => rfl
  unfold sectionLines heading body
  rw [hissues]
  cases run.sourceFragmentRef <;> simp

theorem oneLine_text (n : Nat) : OneLine (Decimal.text n) := by
  intro hnewline
  rw [Decimal.text, String.toList_ofList] at hnewline
  exact absurd (Decimal.isDigit_of_mem_digits hnewline) (by decide)

/-- The stems of the lines about a run. -/
def bodyStems : List String :=
  ["- Source: ", "- Match percentage: ", "- Compiler: ", "- Issues:", "  - "]

/-- A line about a run is a stem and a text behind it, which is quoted or written for the report. -/
theorem mem_body {run : Run} {line : String} (hline : line ∈ body run) :
    ∃ stem ∈ bodyStems, ∃ rest, line = stem ++ rest ∧ (rest ∈ quoted run ∨ OneLine rest) := by
  unfold body at hline
  simp only [List.mem_append, List.mem_map, List.mem_singleton] at hline
  rcases hline with ((hsource | rfl) | ⟨diagnostic, hdiagnostic, rfl⟩) | hissues
  · split at hsource
    · rename_i origin horigin
      refine ⟨"- Source: ", by decide, origin, List.mem_singleton.mp hsource, .inl ?_⟩
      simp [quoted, horigin]
    · cases hsource
  · refine ⟨"- Match percentage: ", by decide,
      Decimal.text (run.matchPercentage.getD 0) ++ "%", String.append_assoc .., .inr ?_⟩
    exact oneLine_append.mpr ⟨oneLine_text _, by decide⟩
  · refine ⟨"- Compiler: ", by decide, diagnostic, rfl, .inl ?_⟩
    simp [quoted, hdiagnostic]
  · split at hissues
    · rename_i discrepancies hsome
      split at hissues
      · cases hissues
      · rcases List.mem_cons.mp hissues with rfl | hissue
        · exact ⟨"- Issues:", by decide, "", String.append_empty.symm, .inr (by decide)⟩
        · obtain ⟨discrepancy, hdiscrepancy, rfl⟩ := List.mem_map.mp hissue
          refine ⟨"  - ", by decide, discrepancy, rfl, .inl ?_⟩
          simp [quoted, hsome, hdiscrepancy]
    · cases hissues

theorem stemmed_body {run : Run} {line : String} (hline : line ∈ body run) :
    Stemmed bodyStems line := by
  obtain ⟨stem, hstem, rest, rfl, -⟩ := mem_body hline
  exact stemmed_append hstem rest

/-- No line about a run is blank, so its section goes on to its end. -/
theorem not_isBlankText_of_mem_body {run : Run} {line : String} (hline : line ∈ body run) :
    isBlankText line = false := by
  have hstems : ∀ stem ∈ bodyStems, isBlankText stem = false := by decide
  obtain ⟨stem, hstem, rest, rfl, -⟩ := mem_body hline
  have hblank := hstems stem hstem
  unfold isBlankText allBlank at hblank ⊢
  rw [String.toList_append, List.all_append, hblank, Bool.false_and]

theorem begins_heading (run : Run) : begins "### " (heading run) = true := by
  simp only [heading, String.append_assoc]
  exact begins_append _ _

theorem sections_sectionLines (run : Run) (rest : List String) :
    sections (sectionLines run ++ rest) = (heading run, body run) :: sections rest := by
  have hbody : ∀ line ∈ body run, (!isBlankText line) = true := by
    intro line hline
    rw [not_isBlankText_of_mem_body hline]
    rfl
  have hplain : (body run ++ [""]).filter (begins "### ") = [] := by
    apply filter_begins_eq_nil bodyStems (by decide) (by decide)
    rw [List.forall_mem_append]
    exact ⟨fun line hline => stemmed_body hline, by simp [Stemmed]⟩
  have hend : ([""] ++ rest).takeWhile (fun other => !isBlankText other) = [] := rfl
  rw [sectionLines_eq, List.cons_append, sections, if_pos (begins_heading run),
    sections_append hplain, List.append_assoc, List.takeWhile_append_of_pos hbody, hend,
    List.append_nil]

/-! ## The parts of a report -/

/-- The runs that have a section. -/
def unsuccessful (runs : List Run) : List Run :=
  runs.filter fun run => run.status ≠ .success

theorem failedLines_eq (runs : List Run) :
    failedLines runs =
      if unsuccessful runs = [] then []
      else ["## Failed Verifications", ""] ++ (unsuccessful runs).flatMap sectionLines := by
  unfold failedLines unsuccessful
  split
  · rename_i hnone
    rw [if_pos hnone]
  · rename_i hsome
    rw [if_neg hsome]

/-- What stands above the summary. -/
def frontLines (timestamp : String) : List String :=
  ["# Decompilation Verification Report", "", "Generated: " ++ timestamp, ""]

theorem render_eq (timestamp : String) (runs : List Run) :
    render timestamp runs =
      unlines (frontLines timestamp ++ summaryLines (.ofRuns runs) ++ failedLines runs) := rfl

/-- The lines of the summary, each in two parts. -/
def summaryEntries (s : Summary) : List (String × String) :=
  [("## Summary", ""), ("- Total functions: ", Decimal.text s.total),
    ("- Successful verifications: ", Decimal.text s.success),
    ("- Partial matches: ", Decimal.text s.warning),
    ("- Failed compilations: ", Decimal.text s.error), ("- Success rate: ", rateText s)]

theorem summaryLines_eq (s : Summary) :
    summaryLines s = (summaryEntries s).map (fun entry => entry.1 ++ entry.2) ++ [""] := by
  simp [summaryLines, summaryEntries]

/-- Among lines whose stems are apart, one stem is found on one line. -/
theorem filter_begins_map {entries : List (String × String)}
    (hapart : entries.Pairwise fun entry other => apart entry.1 other.1 = true)
    {stem rest : String} (hentry : (stem, rest) ∈ entries) :
    (entries.map fun entry => entry.1 ++ entry.2).filter (begins stem) = [stem ++ rest] := by
  have hsymm {first second : String} (h : apart first second = true) :
      apart second first = true := by
    rw [apart, Bool.and_comm]
    exact h
  induction entries with
  | nil => cases hentry
  | cons entry entries ih =>
      rw [List.pairwise_cons] at hapart
      rw [List.map_cons]
      rcases List.mem_cons.mp hentry with rfl | hlater
      · have hothers : (entries.map fun entry => entry.1 ++ entry.2).filter (begins stem) = [] := by
          rw [List.filter_eq_nil_iff, List.forall_mem_map]
          intro other hother
          rw [begins_of_apart (hapart.1 other hother) (begins_append _ _)]
          exact Bool.false_ne_true
        rw [List.filter_cons_of_pos (begins_append _ _), hothers]
      · have hhere : ¬ begins stem (entry.1 ++ entry.2) = true := by
          rw [begins_of_apart (hsymm (hapart.1 _ hlater)) (begins_append _ _)]
          exact Bool.false_ne_true
        rw [List.filter_cons_of_neg hhere]
        exact ih hapart.2 hlater

/-! ## The stems of a report -/

/-- The stems of the lines above the summary. -/
def frontStems : List String :=
  ["# Decompilation Verification Report", "Generated: "]

/-- The stems of the lines of the summary. -/
def summaryStems : List String :=
  ["## Summary", "- Total functions: ", "- Successful verifications: ", "- Partial matches: ",
    "- Failed compilations: ", "- Success rate: "]

/-- The stems of the lines below the summary. -/
def failedStems : List String :=
  ["## Failed Verifications", "### "] ++ bodyStems

theorem stemmed_frontLines {timestamp line : String} (hline : line ∈ frontLines timestamp) :
    Stemmed frontStems line := by
  simp only [frontLines, List.mem_cons, List.not_mem_nil, or_false] at hline
  rcases hline with rfl | rfl | rfl | rfl
  · exact .inr ⟨_, List.mem_cons_self, by decide⟩
  · exact .inl rfl
  · exact stemmed_append (by decide) timestamp
  · exact .inl rfl

theorem stemmed_summaryLines {s : Summary} {line : String} (hline : line ∈ summaryLines s) :
    Stemmed summaryStems line := by
  rw [summaryLines_eq, List.mem_append, List.mem_map, List.mem_singleton] at hline
  rcases hline with ⟨entry, hentry, rfl⟩ | rfl
  · have hstem : entry.1 ∈ (summaryEntries s).map Prod.fst := List.mem_map_of_mem hentry
    exact stemmed_append hstem entry.2
  · exact .inl rfl

theorem stemmed_sectionLines {run : Run} {line : String} (hline : line ∈ sectionLines run) :
    Stemmed failedStems line := by
  rw [sectionLines_eq, List.mem_cons, List.mem_append, List.mem_singleton] at hline
  rcases hline with rfl | hbody | rfl
  · exact .inr ⟨"### ", by decide, begins_heading run⟩
  · exact (stemmed_body hbody).mono (List.subset_append_right _ _)
  · exact .inl rfl

theorem stemmed_failedLines {runs : List Run} {line : String} (hline : line ∈ failedLines runs) :
    Stemmed failedStems line := by
  rw [failedLines_eq] at hline
  split at hline
  · cases hline
  · simp only [List.mem_append, List.mem_cons, List.not_mem_nil, or_false, List.mem_flatMap]
      at hline
    rcases hline with (rfl | rfl) | ⟨run, -, hsection⟩
    · exact .inr ⟨_, List.mem_cons_self, by decide⟩
    · exact .inl rfl
    · exact stemmed_sectionLines hsection

/-! ## The pieces of a report -/

theorem oneLine_rateText (s : Summary) : OneLine (rateText s) := by
  unfold rateText
  split
  · refine oneLine_append.mpr ⟨?_, by decide⟩
    rw [OneLine, String.toList_ofList, Decimal.fixed, List.mem_append, List.mem_cons, not_or,
      not_or]
    refine ⟨?_, by decide, ?_⟩
    · intro hnewline
      exact absurd (Decimal.isDigit_of_mem_digits hnewline) (by decide)
    · intro hnewline
      exact absurd (Decimal.isDigit_of_mem_padded hnewline) (by decide)
  · decide

theorem oneLine_frontLines {timestamp : String} (htimestamp : OneLine timestamp) :
    ∀ line ∈ frontLines timestamp, OneLine line := by
  simp only [frontLines, List.forall_mem_cons]
  exact ⟨by decide, by decide, oneLine_append.mpr ⟨by decide, htimestamp⟩, by decide,
    List.forall_mem_nil _⟩

theorem oneLine_summaryLines (s : Summary) : ∀ line ∈ summaryLines s, OneLine line := by
  have hstems : ∀ entry ∈ summaryEntries s, OneLine entry.1 ∧ OneLine entry.2 := by
    simp only [summaryEntries, List.forall_mem_cons, oneLine_text, oneLine_rateText, and_true]
    exact ⟨⟨by decide, by decide⟩, by decide, by decide, by decide, by decide, by decide,
      List.forall_mem_nil _⟩
  rw [summaryLines_eq, List.forall_mem_append, List.forall_mem_map]
  refine ⟨fun entry hentry => oneLine_append.mpr (hstems entry hentry), ?_⟩
  simp only [List.forall_mem_singleton]
  decide

theorem oneLine_heading {run : Run} (hquoted : ∀ text ∈ quoted run, OneLine text) :
    OneLine (heading run) := by
  have hlabel : OneLine run.status.label := by
    cases run.status <;> decide
  simp only [heading, oneLine_append]
  exact ⟨⟨⟨⟨by decide, hquoted _ List.mem_cons_self⟩, by decide⟩, hlabel⟩, by decide⟩

theorem oneLine_body {run : Run} (hquoted : ∀ text ∈ quoted run, OneLine text) :
    ∀ line ∈ body run, OneLine line := by
  have hstems : ∀ stem ∈ bodyStems, OneLine stem := by decide
  intro line hline
  obtain ⟨stem, hstem, rest, rfl, hrest⟩ := mem_body hline
  refine oneLine_append.mpr ⟨hstems stem hstem, ?_⟩
  rcases hrest with hrest | hrest
  · exact hquoted rest hrest
  · exact hrest

theorem oneLine_failedLines {runs : List Run}
    (hquoted : ∀ run ∈ runs, ∀ text ∈ quoted run, OneLine text) :
    ∀ line ∈ failedLines runs, OneLine line := by
  rw [failedLines_eq]
  split
  · exact List.forall_mem_nil _
  · rw [List.forall_mem_append]
    refine ⟨by decide, ?_⟩
    intro line hline
    obtain ⟨run, hrun, hsection⟩ := List.mem_flatMap.mp hline
    have htexts := hquoted run (List.mem_of_mem_filter hrun)
    rw [sectionLines_eq, List.mem_cons, List.mem_append, List.mem_singleton] at hsection
    rcases hsection with rfl | hbody | rfl
    · exact oneLine_heading htexts
    · exact oneLine_body htexts line hbody
    · decide

theorem pieces_render {timestamp : String} {runs : List Run} (htimestamp : OneLine timestamp)
    (hquoted : ∀ run ∈ runs, ∀ text ∈ quoted run, OneLine text) :
    pieces (render timestamp runs) =
      frontLines timestamp ++ summaryLines (.ofRuns runs) ++ failedLines runs ++ [""] := by
  rw [render_eq, pieces_unlines]
  rw [List.forall_mem_append, List.forall_mem_append]
  exact ⟨⟨oneLine_frontLines htimestamp, oneLine_summaryLines _⟩, oneLine_failedLines hquoted⟩

/-! ## Reading a report -/

section

variable {timestamp : String} {runs : List Run} (htimestamp : OneLine timestamp)
  (hquoted : ∀ run ∈ runs, ∀ text ∈ quoted run, OneLine text)

include htimestamp hquoted

theorem sections_render :
    sections (pieces (render timestamp runs)) =
      (unsuccessful runs).map fun run => (heading run, body run) := by
  have hfront : (frontLines timestamp).filter (begins "### ") = [] :=
    filter_begins_eq_nil frontStems (by decide) (by decide) fun _ => stemmed_frontLines
  have hsummary : (summaryLines (.ofRuns runs)).filter (begins "### ") = [] :=
    filter_begins_eq_nil summaryStems (by decide) (by decide)
      fun _ => stemmed_summaryLines
  have hsections : ∀ failed : List Run, sections (failed.flatMap sectionLines ++ [""]) =
      failed.map fun run => (heading run, body run) := by
    intro failed
    induction failed with
    | nil => decide
    | cons run failed ih =>
        rw [List.flatMap_cons, List.append_assoc, sections_sectionLines, ih, List.map_cons]
  rw [pieces_render htimestamp hquoted, List.append_assoc, List.append_assoc,
    sections_append hfront, sections_append hsummary, failedLines_eq]
  split
  · rename_i hnone
    rw [hnone]
    decide
  · rw [List.append_assoc, sections_append (by decide), hsections]

theorem mem_failed_heading_iff :
    "## Failed Verifications" ∈ pieces (render timestamp runs) ↔ unsuccessful runs ≠ [] := by
  have hself : begins "## Failed Verifications" "## Failed Verifications" = true := by decide
  have hfront : "## Failed Verifications" ∉ frontLines timestamp := by
    intro hline
    rw [begins_eq_false frontStems (by decide) (by decide) (stemmed_frontLines hline)]
      at hself
    cases hself
  have hsummary : "## Failed Verifications" ∉ summaryLines (.ofRuns runs) := by
    intro hline
    rw [begins_eq_false summaryStems (by decide) (by decide)
      (stemmed_summaryLines hline)] at hself
    cases hself
  have hlast : "## Failed Verifications" ∉ [""] := by decide
  rw [pieces_render htimestamp hquoted]
  simp only [List.mem_append, hfront, hsummary, hlast, false_or, or_false]
  rw [failedLines_eq]
  split
  · rename_i hnone
    exact iff_of_false List.not_mem_nil (not_not_intro hnone)
  · rename_i hsome
    exact iff_of_true List.mem_cons_self hsome

/-- A count is printed once. -/
theorem filter_begins_render {label count : String}
    (hlabel : (label, count) ∈ summaryEntries (.ofRuns runs))
    (hne : label ≠ "") (hfront : frontStems.all (apart label) = true)
    (hfailed : failedStems.all (apart label) = true) :
    (pieces (render timestamp runs)).filter (begins label) = [label ++ count] := by
  have hstems : ((summaryEntries (.ofRuns runs)).map Prod.fst).Pairwise
      fun stem other => apart stem other = true := by
    show summaryStems.Pairwise _
    decide
  have happart := List.pairwise_map.mp hstems
  have hlast : [""].filter (begins label) = [] :=
    filter_begins_eq_nil frontStems hne hfront (by simp [Stemmed])
  rw [pieces_render htimestamp hquoted, List.filter_append, List.filter_append, List.filter_append,
    summaryLines_eq, List.filter_append, filter_begins_map happart hlabel, hlast,
    filter_begins_eq_nil frontStems hne hfront fun _ => stemmed_frontLines,
    filter_begins_eq_nil failedStems hne hfailed fun _ => stemmed_failedLines]
  rfl

end

/-! ## The counts -/

/-- The number of runs with a status. -/
def countOf (runs : List Run) (status : RunStatus) : Nat :=
  runs.countP fun run => run.status = status

theorem length_eq_counts (runs : List Run) :
    runs.length = countOf runs .success + countOf runs .warning + countOf runs .error := by
  have htotal : (Summary.ofRuns runs).total = (Summary.ofRuns runs).count .success +
      (Summary.ofRuns runs).count .warning + (Summary.ofRuns runs).count .error :=
    Summary.total_foldl_add_eq_sum runs rfl
  rw [Summary.total_ofRuns, Summary.count_ofRuns, Summary.count_ofRuns, Summary.count_ofRuns]
    at htotal
  exact htotal

theorem length_unsuccessful (runs : List Run) :
    (unsuccessful runs).length = countOf runs .warning + countOf runs .error := by
  have hsplit := List.length_eq_countP_add_countP (fun run : Run => run.status = .success)
    (l := runs)
  have hothers : (unsuccessful runs).length =
      runs.countP fun run => ¬ decide (run.status = .success) = true := by
    simp only [unsuccessful, List.countP_eq_length_filter, decide_eq_true_eq, ne_eq]
  have hcounts := length_eq_counts runs
  unfold countOf at hcounts ⊢
  omega

/-- **A report reads back.**  Take a report whose time and quoted texts are without newlines, and
split it at the newlines.

* The lines that begin with `### ` are the headings of the runs without success, in their order.
* What follows such a line up to the next blank one is what there is to say about that run.
* The heading above them is there exactly if there is such a run.
* Each count is on one line.  They are the numbers of all runs and of the runs with each status, so
  they add up, and the last two of them to the number of sections. -/
theorem report_reads_back (timestamp : String) (runs : List Run) (htimestamp : OneLine timestamp)
    (hquoted : ∀ run ∈ runs, ∀ text ∈ quoted run, OneLine text) :
    let ls := pieces (render timestamp runs)
    ls.filter (begins "### ") = (unsuccessful runs).map heading ∧
    sections ls = (unsuccessful runs).map (fun run => (heading run, body run)) ∧
    ("## Failed Verifications" ∈ ls ↔ ∃ run ∈ runs, run.status ≠ .success) ∧
    ls.filter (begins "- Total functions: ") =
      ["- Total functions: " ++ Decimal.text runs.length] ∧
    ls.filter (begins "- Successful verifications: ") =
      ["- Successful verifications: " ++ Decimal.text (countOf runs .success)] ∧
    ls.filter (begins "- Partial matches: ") =
      ["- Partial matches: " ++ Decimal.text (countOf runs .warning)] ∧
    ls.filter (begins "- Failed compilations: ") =
      ["- Failed compilations: " ++ Decimal.text (countOf runs .error)] ∧
    runs.length = countOf runs .success + countOf runs .warning + countOf runs .error ∧
    (ls.filter (begins "### ")).length = countOf runs .warning + countOf runs .error := by
  intro ls
  have hsections : sections ls = (unsuccessful runs).map fun run => (heading run, body run) :=
    sections_render htimestamp hquoted
  have hheadings : ls.filter (begins "### ") = (unsuccessful runs).map heading := by
    rw [← map_fst_sections, hsections, List.map_map]
    rfl
  have hprinted {label : String} {count : Nat}
      (hlabel : (label, Decimal.text count) ∈ summaryEntries (.ofRuns runs))
      (hapart : label ≠ "" ∧ frontStems.all (apart label) = true ∧
        failedStems.all (apart label) = true) :
      ls.filter (begins label) = [label ++ Decimal.text count] :=
    filter_begins_render htimestamp hquoted hlabel hapart.1 hapart.2.1 hapart.2.2
  have hcount := Summary.count_ofRuns runs
  refine ⟨hheadings, hsections, ?_, hprinted ?_ (by decide), hprinted ?_ (by decide),
    hprinted ?_ (by decide), hprinted ?_ (by decide), length_eq_counts runs, ?_⟩
  · rw [mem_failed_heading_iff htimestamp hquoted, unsuccessful, ne_eq, List.filter_eq_nil_iff]
    simp
  · rw [← Summary.total_ofRuns]
    simp [summaryEntries]
  · rw [countOf, ← hcount .success]
    simp [summaryEntries, Summary.count]
  · rw [countOf, ← hcount .warning]
    simp [summaryEntries, Summary.count]
  · rw [countOf, ← hcount .error]
    simp [summaryEntries, Summary.count]
  · rw [hheadings, List.length_map, length_unsuccessful]

/-- A run that is reported with texts that look like parts of a report. -/
def forger (status : RunStatus) : Run where
  id := ⟨"run-1"⟩
  fragmentIdentifier := "f"
  sourceFragmentRef := none
  candidateSource := "int f() {}"
  confidence := ⟨0⟩
  status := status
  matchPercentage := none
  createdAt := ⟨0, 0⟩
  discrepancies := some ["", "### g (error)"]
  compileErrors := ["- Total functions: 0", "## Failed Verifications"]
  compileWarnings := []
  detailedDiff := some "\n### h (error)\n"

/-- Nothing in these texts is mistaken for a part of the report. -/
theorem report_of_forger :
    sections (pieces (render "" [forger .success, forger .error])) =
      [("### f (error)",
        ["- Match percentage: 0%", "- Compiler: - Total functions: 0",
          "- Compiler: ## Failed Verifications", "- Issues:", "  - ", "  - ### g (error)"])] ∧
      (pieces (render "" [forger .success, forger .error])).filter (begins "- Total functions: ") =
        ["- Total functions: 2"] := by
  obtain ⟨-, hsections, -, htotal, -⟩ :=
    report_reads_back "" [forger .success, forger .error] (by decide) (by decide)
  exact ⟨hsections, htotal⟩

end MatchingDecomp.Report
