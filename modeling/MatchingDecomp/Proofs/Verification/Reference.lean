import MatchingDecomp.Proofs.Fragment.Name
import MatchingDecomp.Proofs.Host.FileTree
import MatchingDecomp.Verification.ObjectDiff

/-!
# Which file is taken for a reference

The reference of a fragment is named after the fragment, and the name of a fragment may come from a
text that nobody has looked at.  Still it leads to nothing but an entry of the directory of the
references: whatever the text, the hint and the origin are, the name is made of word characters
(`Made.identifier_word`), so with the extension it is one ordinary name (`isName_object`).  The rest
is what joining a directory and a name comes to.
-/

namespace MatchingDecomp

open Text

/-! ## Names of fragments -/

namespace Text

theorem isWordChar_eq (c : Char) : isWordChar c = (c.isAlphanum || c == '_') := by
  have hunderscore : c = '_' ↔ c.toNat = 95 := (Char.toNat_inj (d := '_')).symm
  rw [Bool.eq_iff_iff, isWordChar_iff, isNameStart_iff, isDigit_iff]
  show _ ↔ (decide (65 ≤ c.val ∧ c.val ≤ 90) || (97 ≤ c.val && c.val ≤ 122) ||
    (48 ≤ c.val && c.val ≤ 57) || c == '_') = true
  simp only [Bool.or_eq_true, Bool.and_eq_true, decide_eq_true_eq, beq_iff_eq, hunderscore,
    UInt32.le_iff_toNat_le]
  show _ ↔ ((65 ≤ c.toNat ∧ c.toNat ≤ 90 ∨ 97 ≤ c.toNat ∧ c.toNat ≤ 122) ∨
    48 ≤ c.toNat ∧ c.toNat ≤ 57) ∨ c.toNat = 95
  omega

end Text

namespace Fragment

/-- The fragments that can be made of texts: with or without a hint, and with any origin. -/
inductive Made : Fragment → Prop where
  | ofText (text : String) : Made (ofText text)
  | withHint (text hint : String) : Made (withHint text hint)
  | withOrigin {fragment : Fragment} (hmade : Made fragment) (origin : String) :
      Made (fragment.withOrigin origin)

theorem ofText_word (text : String) :
    (ofText text).identifier.toList ≠ [] ∧
      ∀ c ∈ (ofText text).identifier.toList, isWordChar c = true := by
  rw [ofText, extractIdentifier]
  cases hfound : (lines text.toList).findSome? lineName? with
  | none =>
      have hword : placeholder.toList.all isWordChar = true := by decide
      have hname : placeholder.toList ≠ [] := by decide
      exact ⟨hname, List.all_eq_true.mp hword⟩
  | some word =>
      obtain ⟨line, -, hline⟩ := List.exists_of_findSome?_eq_some hfound
      simpa using lineName?_word hline

/-- The name of a fragment is a word. -/
theorem Made.identifier_word {fragment : Fragment} (hmade : Made fragment) :
    fragment.identifier.toList ≠ [] ∧
      ∀ c ∈ fragment.identifier.toList, isWordChar c = true := by
  induction hmade with
  | ofText text => exact ofText_word text
  | withHint text hint =>
      by_cases hhint : isIdentifier (trim hint.toList) = true
      · have hidentifier : (Fragment.withHint text hint).identifier.toList = trim hint.toList := by
          rw [Fragment.withHint, if_pos hhint]
          exact String.toList_ofList
        rw [hidentifier]
        refine ⟨?_, isWordChar_of_isIdentifier hhint⟩
        intro hnil
        rw [hnil] at hhint
        cases hhint
      · rw [Fragment.withHint, if_neg hhint]
        exact ofText_word text
  | withOrigin _ origin ih => exact ih

end Fragment

/-! ## References -/

namespace ObjectDiff

/-- The name of an object. -/
def objectName (fragment : Fragment) : String :=
  fragment.identifier ++ ".o"

theorem toList_objectName (fragment : Fragment) :
    (objectName fragment).toList = fragment.identifier.toList ++ ['.', 'o'] := by
  rw [objectName, String.toList_append]
  rfl

theorem objectName_inj {first second : Fragment} :
    objectName first = objectName second ↔ first.identifier = second.identifier :=
  String.append_left_inj _

/-- A word with an extension is one ordinary name. -/
theorem isName_object {fragment : Fragment} (hmade : fragment.Made) :
    Path.IsName (objectName fragment) := by
  obtain ⟨hword, hchars⟩ := hmade.identifier_word
  have hlength : 2 < (objectName fragment).toList.length := by
    rw [toList_objectName, List.length_append, List.length_cons, List.length_singleton]
    have hpos := List.length_pos_iff.mpr hword
    omega
  -- a name that short is shorter than the extension and a character
  have hne : ∀ short : String, short.toList.length ≤ 2 → objectName fragment ≠ short := by
    rintro short hshort rfl
    omega
  refine ⟨?_, ?_, hne ".." (by decide)⟩
  · rw [toList_objectName, List.mem_append]
    rintro (hslash | hslash)
    · exact absurd (hchars '/' hslash) (by decide)
    · exact absurd hslash (by decide)
  · rw [Path.isStill, Bool.or_eq_false_iff, beq_eq_false_iff_ne, beq_eq_false_iff_ne]
    exact ⟨hne "" (by decide), hne "." (by decide)⟩

theorem absolute_referenceFor (d : ObjectDiff) {fragment : Fragment} (hmade : fragment.Made)
    (m : Machine) :
    m.absolute (d.referenceFor fragment) =
      Path.join (m.absolute d.referenceDirectory) (objectName fragment) :=
  (Path.join_join (isName_object hmade).isAbsolute_eq _ _).symm

/-- **References stay in their directory.**  Whatever text, hint and origin a fragment is made of,
its name is a word in ASCII; the reference is that word with an extension, one ordinary name, put
behind the directory, and on every machine it leads to an entry of the place that the directory
itself leads to, or nowhere.  Two fragments share a reference only if they share a name. -/
theorem reference_in_directory (d : ObjectDiff) {fragment : Fragment} (hmade : fragment.Made) :
    (fragment.identifier ≠ "" ∧
        ∀ c ∈ fragment.identifier.toList, c.isAlphanum = true ∨ c = '_') ∧
      d.referenceFor fragment =
        Path.join d.referenceDirectory (fragment.identifier ++ ".o") ∧
      Path.IsName (fragment.identifier ++ ".o") ∧
      Path.isAbsolute (fragment.identifier ++ ".o") = false ∧
      Path.components (d.referenceFor fragment) =
        Path.components d.referenceDirectory ++ [fragment.identifier ++ ".o"] ∧
      Path.isAbsolute (d.referenceFor fragment) = Path.isAbsolute d.referenceDirectory ∧
      (∀ (m : Machine) (place : Place),
        m.files.locate (m.absolute (d.referenceFor fragment)) = .ok place →
        ∃ directory, m.files.walk [] (Path.segments (m.absolute d.referenceDirectory)) =
            .ok directory ∧
          place = directory ++ [fragment.identifier ++ ".o"]) ∧
      ∀ other : Fragment, other.Made →
        (d.referenceFor fragment = d.referenceFor other ↔
          fragment.identifier = other.identifier) := by
  have hname := isName_object hmade
  obtain ⟨hword, hchars⟩ := hmade.identifier_word
  refine ⟨⟨?_, ?_⟩, rfl, hname, hname.isAbsolute_eq, Path.components_join hname _,
    Path.isAbsolute_join hname.isAbsolute_eq _, ?_, ?_⟩
  · intro hempty
    exact hword (String.toList_eq_nil_iff.mpr hempty)
  · intro c hc
    have hc := hchars c hc
    rwa [isWordChar_eq, Bool.or_eq_true, beq_iff_eq] at hc
  · intro m place hlocate
    rw [absolute_referenceFor d hmade] at hlocate
    obtain ⟨directory, hdirectory, -, hplace⟩ :=
      FileTree.walk_join hname (FileTree.locate_eq_ok hlocate)
    exact ⟨directory, hdirectory, hplace⟩
  · intro other hother
    exact (Path.join_inj hname.isAbsolute_eq (isName_object hother).isAbsolute_eq _).trans
      objectName_inj

/-- A text and a hint that try to lead away.  The hint is no identifier, and after the first
directive of the text there is no word; after the second one there is a word that starts with a
digit. -/
theorem reference_of_intruder :
    let d : ObjectDiff :=
      { path := "objdiff", referenceDirectory := "refs/", timeout := .ofMillis 1000 }
    let fragment :=
      (Fragment.withHint ".fn ../../etc, .fn\u2003 9passwd/../x:" "../../etc/passwd").withOrigin
        "/etc/passwd"
    let other := Fragment.withHint "shadow:" "9passwd"
    let m : Machine :=
      { files := ⟨[(["refs"], .directory), (["refs", "9passwd.o"], .file [1]),
          (["etc"], .directory), (["etc", "passwd"], .file [2])]⟩ }
    fragment.Made ∧ other.Made ∧
      m.files.locate (m.absolute (d.referenceFor fragment)) = .ok ["refs", "9passwd.o"] ∧
      fragment.identifier = "9passwd" ∧
      Path.components (d.referenceFor fragment) = ["refs", "9passwd.o"] ∧
      (∃ directory, m.files.walk [] (Path.segments (m.absolute d.referenceDirectory)) =
          .ok directory ∧
        ["refs", "9passwd.o"] = directory ++ ["9passwd.o"]) ∧
      d.referenceFor fragment ≠ d.referenceFor other := by
  intro d fragment other m
  have hmade : fragment.Made := .withOrigin (.withHint _ _) _
  have hother : other.Made := .withHint _ _
  have hidentifier : fragment.identifier = "9passwd" := by decide
  have hlocate : m.files.locate (m.absolute (d.referenceFor fragment)) =
      .ok ["refs", "9passwd.o"] := by decide
  obtain ⟨-, -, -, -, hcomponents, -, hplace, hinj⟩ := reference_in_directory d hmade
  have hdirectory := hplace m _ hlocate
  rw [hidentifier] at hcomponents hdirectory
  refine ⟨hmade, hother, hlocate, hidentifier, hcomponents.trans (by decide), hdirectory, ?_⟩
  rw [ne_eq, hinj other hother]
  decide

end ObjectDiff

end MatchingDecomp
