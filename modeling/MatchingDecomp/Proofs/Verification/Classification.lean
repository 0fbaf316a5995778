import Mathlib.Data.List.Induction
import Mathlib.Data.List.Nodup
import MatchingDecomp.Proofs.Text.Lines
import MatchingDecomp.Proofs.Text.Search
import MatchingDecomp.Verification.DiffReport

/-!
# Which categories a report mentions, and in which order

Categories are noted one after the other, each the first time it is mentioned (`insertNew`).  What
that comes to is an induction over the mentions: nothing is noted twice (`nodup_foldl_insertNew`),
nothing is missed (`mem_foldl_insertNew`), and more mentions only add to what is there
(`foldl_insertNew_eq`).

For the order, every mention gets a place: the number of its line, and the number of its keyword in
the table (`MentionedAt`).  The mentions are noted by increasing places (`marks_sorted`), so the
categories stand in the order of the first place of each (`pairwise_foldl_insertNew`).

Two reports with a newline between them can be read one by one, although a carriage return in front
of the newline is lost: it changes neither the case of the letters before it (`lower_concat_return`)
nor what occurs there.

Main statement: `classification`.
-/

namespace MatchingDecomp

/-! ## A carriage return at the end of a line -/

namespace Text

theorem casedNext_cons (c : Char) (cs : List Char) :
    casedNext (c :: cs) =
      if inRanges caseIgnorableRanges c.toNat then casedNext cs
      else inRanges casedRanges c.toNat := by
  unfold casedNext
  rw [List.dropWhile_cons]
  cases inRanges caseIgnorableRanges c.toNat <;> rfl

theorem casedNext_concat_return (cs : List Char) : casedNext (cs ++ ['\r']) = casedNext cs := by
  induction cs with
  | nil => decide +kernel
  | cons c cs ih => rw [List.cons_append, casedNext_cons, casedNext_cons, ih]

theorem lowerFrom_concat_return (before cs : List Char) :
    lowerFrom before (cs ++ ['\r']) = lowerFrom before cs ++ ['\r'] := by
  induction cs generalizing before with
  | nil =>
      have hreturn : lowerChar '\r' = '\r' := by decide +kernel
      simp [lowerFrom, hreturn]
  | cons c cs ih =>
      rw [List.cons_append, lowerFrom, lowerFrom, ih, casedNext_concat_return, List.append_assoc]

/-- The case of letters does not depend on a carriage return behind them. -/
theorem lower_concat_return (line : List Char) : lower (line ++ ['\r']) = lower line ++ ['\r'] :=
  lowerFrom_concat_return [] line

/-- A pattern without the last character of a text occurs in what is before it. -/
theorem occursIn_concat {pat text : List Char} {last : Char} (hlast : last ∉ pat) :
    occursIn pat (text ++ [last]) = occursIn pat text := by
  rw [Bool.eq_iff_iff, occursIn_iff_infix, occursIn_iff_infix, List.infix_concat_iff,
    List.suffix_concat_iff, or_iff_right_of_imp]
  rintro (rfl | ⟨start, rfl, -⟩)
  · exact List.nil_infix
  · exact absurd (by simp) hlast

end Text

open Text

namespace DiffReport

/-! ## Noting categories -/

theorem mem_insertNew {known : List String} {category other : String} :
    other ∈ insertNew known category ↔ other ∈ known ∨ other = category := by
  unfold insertNew
  split
  · rename_i hknown
    rw [List.contains_iff_mem] at hknown
    refine (or_iff_left_of_imp ?_).symm
    rintro rfl
    exact hknown
  · rw [List.mem_append, List.mem_singleton]

theorem mem_foldl_insertNew {known categories : List String} {other : String} :
    other ∈ categories.foldl insertNew known ↔ other ∈ known ∨ other ∈ categories := by
  induction categories generalizing known with
  | nil => simp
  | cons category categories ih => rw [List.foldl_cons, ih, mem_insertNew, List.mem_cons, or_assoc]

theorem nodup_insertNew {known : List String} (hknown : known.Nodup) (category : String) :
    (insertNew known category).Nodup := by
  unfold insertNew
  split
  · exact hknown
  · rename_i hnew
    rw [List.contains_iff_mem] at hnew
    rw [← List.concat_eq_append, List.nodup_concat]
    exact ⟨hnew, hknown⟩

theorem nodup_foldl_insertNew {known : List String} (hknown : known.Nodup)
    (categories : List String) : (categories.foldl insertNew known).Nodup := by
  induction categories generalizing known with
  | nil => exact hknown
  | cons category categories ih => exact ih (nodup_insertNew hknown category)

/-- Categories that are noted in addition to known ones come behind them. -/
theorem foldl_insertNew_eq (known categories : List String) :
    categories.foldl insertNew known =
      known ++ (categories.foldl insertNew []).filter (· ∉ known) := by
  induction categories using List.reverseRecOn with
  | nil => simp
  | append_singleton categories category ih =>
      rw [List.foldl_concat, List.foldl_concat, ih]
      generalize categories.foldl insertNew [] = noted
      by_cases hknown : category ∈ known <;> by_cases hnoted : category ∈ noted <;>
        simp [insertNew, hknown, hnoted]

/-! ## Places -/

/-- A place in a report comes before another one: it is on an earlier line, or it is on the same
line and belongs to an earlier keyword of the table. -/
def Precedes (place other : Nat × Nat) : Prop :=
  place.1 < other.1 ∨ place.1 = other.1 ∧ place.2 < other.2

/-- The first of the places with a property. -/
def IsFirst (mentioned : Nat × Nat → Prop) (place : Nat × Nat) : Prop :=
  mentioned place ∧ ∀ other, mentioned other → other = place ∨ Precedes place other

/-- One category is mentioned for the first time before the other one is. -/
def Earlier (mentioned : String → Nat × Nat → Prop) (category other : String) : Prop :=
  ∃ place place', IsFirst (mentioned category) place ∧ IsFirst (mentioned other) place' ∧
    Precedes place place'

/-- A mention of a category, with its place. -/
abbrev Mark := (Nat × Nat) × String

section

variable {marks : List Mark}

theorem exists_isFirst (hsorted : marks.Pairwise fun mark other => Precedes mark.1 other.1)
    {category : String} (hmentioned : category ∈ marks.map Prod.snd) :
    ∃ place, IsFirst (fun place => (place, category) ∈ marks) place := by
  induction marks with
  | nil => cases hmentioned
  | cons mark marks ih =>
      rw [List.pairwise_cons] at hsorted
      by_cases hhere : category = mark.2
      · subst hhere
        refine ⟨mark.1, List.mem_cons_self, ?_⟩
        intro other hother
        rcases List.mem_cons.mp hother with hsame | hlater
        · exact .inl (congrArg Prod.fst hsame)
        · exact .inr (hsorted.1 _ hlater)
      · obtain ⟨place, hplace, hfirst⟩ :=
          ih hsorted.2 ((List.mem_cons.mp hmentioned).resolve_left hhere)
        refine ⟨place, List.mem_cons_of_mem mark hplace, ?_⟩
        intro other hother
        rcases List.mem_cons.mp hother with rfl | hlater
        · exact absurd rfl hhere
        · exact hfirst other hlater

/-- A mark at a later place does not change what comes first. -/
theorem IsFirst.concat {category : String} {place : Nat × Nat} {mark : Mark}
    (hfirst : IsFirst (fun place => (place, category) ∈ marks) place)
    (hlater : ∀ old ∈ marks, Precedes old.1 mark.1) :
    IsFirst (fun place => (place, category) ∈ marks ++ [mark]) place := by
  refine ⟨List.mem_append_left _ hfirst.1, ?_⟩
  intro other hother
  rcases List.mem_append.mp hother with hold | hnew
  · exact hfirst.2 other hold
  · right
    rw [← List.mem_singleton.mp hnew] at hlater
    exact hlater _ hfirst.1

/-- Categories that are noted by increasing places stand in the order of their first places. -/
theorem pairwise_foldl_insertNew
    (hsorted : marks.Pairwise fun mark other => Precedes mark.1 other.1) :
    ((marks.map Prod.snd).foldl insertNew []).Pairwise
      (Earlier fun category place => (place, category) ∈ marks) := by
  induction marks using List.reverseRecOn with
  | nil => exact .nil
  | append_singleton marks mark ih =>
      rw [List.pairwise_append] at hsorted
      obtain ⟨hold, -, hlater⟩ := hsorted
      have hlater : ∀ old ∈ marks, Precedes old.1 mark.1 := fun old hold =>
        hlater old hold mark List.mem_cons_self
      have hkept := (ih hold).imp fun {category other} hearlier => by
        obtain ⟨place, place', hfirst, hfirst', hprecedes⟩ := hearlier
        exact (⟨place, place', hfirst.concat hlater, hfirst'.concat hlater, hprecedes⟩ :
          Earlier (fun category place => (place, category) ∈ marks ++ [mark]) category other)
      rw [List.map_append, List.map_singleton, List.foldl_concat, insertNew]
      split
      · exact hkept
      · -- the category is new, so this mark is its first one
        rename_i hnew
        rw [List.contains_iff_mem, mem_foldl_insertNew, or_iff_right (List.not_mem_nil)] at hnew
        have hfirst : IsFirst (fun place => (place, mark.2) ∈ marks ++ [mark]) mark.1 := by
          refine ⟨List.mem_append_right _ List.mem_cons_self, ?_⟩
          intro other hother
          rcases List.mem_append.mp hother with hother | hother
          · exact absurd (List.mem_map_of_mem hother) hnew
          · exact .inl (congrArg Prod.fst (List.mem_singleton.mp hother))
        refine List.pairwise_append.mpr ⟨hkept, List.pairwise_singleton _ _, ?_⟩
        intro category hcategory other hother
        obtain rfl := List.mem_singleton.mp hother
        rw [mem_foldl_insertNew, or_iff_right (List.not_mem_nil)] at hcategory
        obtain ⟨place, hplace⟩ := exists_isFirst hold hcategory
        exact ⟨place, mark.1, hplace.concat hlater, hfirst, hlater _ hplace.1⟩

end

/-! ## The mentions in a report -/

/-- A report mentions a category at a place: on that line, in any case of letters, with that keyword
of the table. -/
def MentionedAt (report category : String) (place : Nat × Nat) : Prop :=
  ∃ line keyword, (lines report.toList)[place.1]? = some line ∧
    Category.keywords[place.2]? = some (keyword, category) ∧ keyword.toList <:+: lower line

/-- The mentions on a line. -/
def lineMarks (number : Nat) (line : List Char) : List Mark :=
  (Category.keywords.zipIdx.filter fun entry => occursIn entry.1.1.toList (lower line)).map
    fun entry => ((number, entry.2), entry.1.2)

/-- The mentions in a report. -/
def marks (report : String) : List Mark :=
  (lines report.toList).zipIdx.flatMap fun entry => lineMarks entry.2 entry.1

theorem pairwise_zipIdx {α : Type} (l : List α) :
    l.zipIdx.Pairwise fun entry other => entry.2 < other.2 := by
  rw [← List.pairwise_map, List.zipIdx_map_snd]
  exact List.pairwise_lt_range'

theorem marks_sorted (report : String) :
    (marks report).Pairwise fun mark other => Precedes mark.1 other.1 := by
  rw [marks, List.pairwise_flatMap]
  constructor
  · rintro ⟨line, number⟩ -
    rw [lineMarks, List.pairwise_map]
    exact ((pairwise_zipIdx _).filter _).imp fun hlt => .inr ⟨rfl, hlt⟩
  · refine (pairwise_zipIdx _).imp fun hlt mark hmark other hother => ?_
    obtain ⟨entry, -, rfl⟩ := List.mem_map.mp hmark
    obtain ⟨entry', -, rfl⟩ := List.mem_map.mp hother
    exact .inl hlt

theorem mem_marks_iff {report category : String} {place : Nat × Nat} :
    (place, category) ∈ marks report ↔ MentionedAt report category place := by
  simp only [marks, lineMarks, MentionedAt, List.mem_flatMap, List.mem_map, List.mem_filter,
    List.mem_zipIdx_iff_getElem?, occursIn_iff_infix]
  constructor
  · rintro ⟨⟨line, number⟩, hline, ⟨⟨keyword, found⟩, index⟩, ⟨hkeyword, hoccurs⟩, heq⟩
    obtain ⟨rfl, rfl⟩ := Prod.mk.inj heq
    exact ⟨line, keyword, hline, hkeyword, hoccurs⟩
  · rintro ⟨line, keyword, hline, hkeyword, hoccurs⟩
    exact ⟨(line, place.1), hline, ((keyword, category), place.2), ⟨hkeyword, hoccurs⟩, rfl⟩

theorem map_snd_lineMarks (number : Nat) (line : List Char) :
    (lineMarks number line).map Prod.snd = lineCategories line := by
  have hkeywords : Category.keywords.zipIdx.map Prod.fst = Category.keywords :=
    List.zipIdx_map_fst 0 _
  rw [lineCategories, ← hkeywords, List.filter_map, lineMarks, List.map_map, List.map_map]
  rfl

theorem map_snd_marks (report : String) :
    (marks report).map Prod.snd = (lines report.toList).flatMap lineCategories := by
  have hlines : (lines report.toList).zipIdx.map Prod.fst = lines report.toList :=
    List.zipIdx_map_fst 0 _
  rw [marks, List.map_flatMap]
  simp only [map_snd_lineMarks]
  rw [← List.flatMap_map, hlines]

theorem mem_lineCategories {line : List Char} {category : String} :
    category ∈ lineCategories line ↔
      ∃ keyword, (keyword, category) ∈ Category.keywords ∧ keyword.toList <:+: lower line := by
  simp only [lineCategories, List.mem_map, List.mem_filter, occursIn_iff_infix]
  constructor
  · rintro ⟨⟨keyword, found⟩, hkeyword, rfl⟩
    exact ⟨keyword, hkeyword⟩
  · rintro ⟨keyword, hkeyword⟩
    exact ⟨(keyword, category), hkeyword, rfl⟩

/-! ## The categories of a report -/

theorem classify_pairwise (report : String) :
    (classify report).Pairwise (Earlier (MentionedAt report)) := by
  have hmentioned : (fun category place => (place, category) ∈ marks report) =
      MentionedAt report := by
    funext category place
    exact propext mem_marks_iff
  rw [← hmentioned, classify, ← map_snd_marks]
  exact pairwise_foldl_insertNew (marks_sorted report)

theorem lineCategories_concat_return (line : List Char) :
    lineCategories (line ++ ['\r']) = lineCategories line := by
  have hreturn : ∀ entry ∈ Category.keywords, '\r' ∉ entry.1.toList := by decide
  have hfilter : Category.keywords.filter
        (fun entry => occursIn entry.1.toList (lower (line ++ ['\r']))) =
      Category.keywords.filter fun entry => occursIn entry.1.toList (lower line) := by
    apply List.filter_congr
    intro entry hentry
    rw [lower_concat_return, occursIn_concat (hreturn entry hentry)]
  rw [lineCategories, hfilter, lineCategories]

theorem classify_append (report more : String) :
    classify (report ++ "\n" ++ more) =
      classify report ++ (classify more).filter (· ∉ classify report) := by
  have htext : (report ++ "\n" ++ more).toList = report.toList ++ '\n' :: more.toList := by
    simp
  have hempty : lineCategories [] = [] := by decide
  rw [classify, htext, flatMap_lines_append_newline hempty lineCategories_concat_return,
    List.foldl_append, foldl_insertNew_eq]
  rfl

/-- **Which categories a report mentions.**  Each is there once.  A category is there exactly if on
some line, in any case of letters, one of its keywords occurs.  They stand in the order of their
first mention, by lines and within a line by the table of keywords.  And a report that goes on after
a newline has the categories it had, and behind them those of the rest that are new. -/
theorem classification (report : String) :
    (classify report).Nodup ∧
    (∀ category, category ∈ classify report ↔
      ∃ line ∈ lines report.toList, ∃ keyword, (keyword, category) ∈ Category.keywords ∧
        keyword.toList <:+: lower line) ∧
    (classify report).Pairwise (Earlier (MentionedAt report)) ∧
    ∀ more, classify (report ++ "\n" ++ more) =
      classify report ++ (classify more).filter (· ∉ classify report) := by
  refine ⟨nodup_foldl_insertNew List.nodup_nil _, ?_, classify_pairwise report,
    classify_append report⟩
  intro category
  rw [classify, mem_foldl_insertNew, or_iff_right List.not_mem_nil, List.mem_flatMap]
  simp only [mem_lineCategories]

end DiffReport

end MatchingDecomp
