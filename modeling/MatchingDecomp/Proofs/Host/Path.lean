import Mathlib.Data.List.Basic
import MatchingDecomp.Host.Path

/-!
# Joining a directory and a name

A text without slashes that is neither empty nor made of dots is one ordinary name (`IsName`).
Joined to a directory it is the last segment of the path, and the segments before it are those of
the directory (`segments_join`).  A slash at the end of the directory makes no difference to that,
because what is put between the two (`divider`) is a slash only where one is missing.
-/

namespace MatchingDecomp.Path

/-! ## Segments -/

theorem splitSlash_ne_nil (cs : List Char) : splitSlash cs ≠ [] := by
  cases cs with
  | nil => exact List.cons_ne_nil _ _
  | cons c cs =>
      unfold splitSlash
      split
      · exact List.cons_ne_nil _ _
      · split <;> exact List.cons_ne_nil _ _

theorem splitSlash_of_not_mem {cs : List Char} (hslash : '/' ∉ cs) : splitSlash cs = [cs] := by
  induction cs with
  | nil => rfl
  | cons c cs ih =>
      rw [List.mem_cons, not_or] at hslash
      rw [splitSlash, if_neg (Ne.symm hslash.1), ih hslash.2]

/-- A slash divides the segments before it from those after it. -/
theorem splitSlash_append_slash (before after : List Char) :
    splitSlash (before ++ '/' :: after) = splitSlash before ++ splitSlash after := by
  induction before with
  | nil => simp [splitSlash]
  | cons c before ih =>
      rw [List.cons_append, splitSlash, splitSlash]
      by_cases hc : c = '/'
      · rw [if_pos hc, if_pos hc, ih, List.cons_append]
      · rw [if_neg hc, if_neg hc, ih]
        -- the first segment grows by a character on either side
        obtain ⟨segment, segments, hsegments⟩ :=
          List.exists_cons_of_ne_nil (splitSlash_ne_nil before)
        rw [hsegments]
        rfl

theorem segments_append_slash (before after : String) :
    segments (before ++ "/" ++ after) = segments before ++ segments after := by
  have hlist : (before ++ "/" ++ after).toList = before.toList ++ '/' :: after.toList := by
    simp [String.toList_append]
  rw [segments, hlist, splitSlash_append_slash, List.map_append]
  rfl

/-! ## Names -/

/-- A text is one ordinary name: it has no slash, and it stands neither for the directory it is in
nor for the one above. -/
structure IsName (name : String) : Prop where
  slash : '/' ∉ name.toList
  not_still : isStill name = false
  ne_parent : name ≠ ".."

namespace IsName

variable {name : String}

theorem segments_eq (hname : IsName name) : segments name = [name] := by
  rw [segments, splitSlash_of_not_mem hname.slash, List.map_singleton, String.ofList_toList]

theorem isAbsolute_eq (hname : IsName name) : isAbsolute name = false := by
  rw [isAbsolute, beq_eq_false_iff_ne]
  intro hhead
  exact hname.slash (List.mem_of_head? hhead)

end IsName

/-- The segments of a path that lead somewhere. -/
def components (path : String) : List String :=
  (segments path).filter fun segment => !isStill segment

/-! ## Joining -/

/-- What is put between a directory and a relative path: a slash, if one is missing. -/
def divider (directory : String) : String :=
  if directory.toList.getLast? == some '/' || directory.isEmpty then "" else "/"

theorem join_eq {path : String} (hrelative : isAbsolute path = false) (directory : String) :
    join directory path = directory ++ divider directory ++ path := by
  rw [join, divider, hrelative, if_neg Bool.false_ne_true]
  split
  · rw [String.append_empty]
  · rfl

theorem join_of_isAbsolute {path : String} (habsolute : isAbsolute path = true)
    (directory : String) : join directory path = path := by
  rw [join, if_pos habsolute]

theorem divider_cases (directory : String) :
    directory = "" ∧ divider directory = "" ∨
      (∃ base, directory = base ++ "/" ∧ divider directory = "") ∨
      directory ≠ "" ∧ divider directory = "/" := by
  by_cases hempty : directory = ""
  · subst hempty
    exact .inl ⟨rfl, rfl⟩
  · by_cases hlast : directory.toList.getLast? = some '/'
    · obtain ⟨base, hbase⟩ := List.getLast?_eq_some_iff.mp hlast
      refine .inr (.inl ⟨String.ofList base, ?_, ?_⟩)
      · apply String.toList_injective
        rw [hbase, String.toList_append, String.toList_ofList]
        rfl
      · rw [divider, if_pos (by simp [hlast])]
    · refine .inr (.inr ⟨hempty, ?_⟩)
      rw [divider, if_neg (by simp [hlast, hempty])]

/-- The divider goes by the end of the directory. -/
theorem divider_append (first : String) {second : String} (hsecond : second ≠ "") :
    divider (first ++ second) = divider second := by
  have hlist : second.toList ≠ [] := fun hnil => hsecond (String.toList_eq_nil_iff.mp hnil)
  rw [divider, divider, String.toList_append, List.getLast?_append_of_ne_nil _ hlist]
  simp [hsecond]

theorem divider_append_divider (directory : String) :
    divider (directory ++ divider directory) = "" := by
  rcases divider_cases directory with ⟨rfl, hdivider⟩ | ⟨base, rfl, hdivider⟩ | ⟨-, hdivider⟩
  · rfl
  · rw [hdivider, String.append_empty, hdivider]
  · rw [hdivider, divider_append _ (by decide)]
    rfl

/-- The segments of a name in a directory are those of the directory, less an empty one at the end,
and the name. -/
theorem segments_join {name : String} (hname : IsName name) (directory : String) :
    ∃ base, segments (join directory name) = base ++ [name] ∧
      (segments directory = base ∨ segments directory = base ++ [""]) := by
  rw [join_eq hname.isAbsolute_eq]
  rcases divider_cases directory with ⟨rfl, hdivider⟩ | ⟨base, rfl, hdivider⟩ | ⟨-, hdivider⟩
  · refine ⟨[], ?_, .inr rfl⟩
    rw [hdivider, String.append_empty, String.empty_append, hname.segments_eq, List.nil_append]
  · refine ⟨segments base, ?_, .inr ?_⟩
    · rw [hdivider, String.append_empty, segments_append_slash, hname.segments_eq]
    · have hsegments := segments_append_slash base ""
      rwa [String.append_empty] at hsegments
  · refine ⟨segments directory, ?_, .inl rfl⟩
    rw [hdivider, segments_append_slash, hname.segments_eq]

theorem components_join {name : String} (hname : IsName name) (directory : String) :
    components (join directory name) = components directory ++ [name] := by
  obtain ⟨base, hjoin, hdirectory⟩ := segments_join hname directory
  have hlast : [name].filter (fun segment => !isStill segment) = [name] := by
    rw [List.filter_singleton, hname.not_still]
    rfl
  have hbase : components directory = base.filter fun segment => !isStill segment := by
    rw [components]
    rcases hdirectory with hdirectory | hdirectory
    · rw [hdirectory]
    · rw [hdirectory, List.filter_append]
      exact List.append_nil _
  rw [components, hjoin, List.filter_append, hlast, hbase]

theorem isAbsolute_append {path : String} (hpath : path ≠ "") (rest : String) :
    isAbsolute (path ++ rest) = isAbsolute path := by
  have hlist : path.toList ≠ [] := fun hnil => hpath (String.toList_eq_nil_iff.mp hnil)
  rw [isAbsolute, isAbsolute, String.toList_append, List.head?_append_of_ne_nil _ hlist]

/-- A relative path starts where its directory starts. -/
theorem isAbsolute_join {path : String} (hrelative : isAbsolute path = false)
    (directory : String) : isAbsolute (join directory path) = isAbsolute directory := by
  rw [join_eq hrelative]
  by_cases hempty : directory = ""
  · subst hempty
    have hplain : "" ++ divider "" ++ path = path := String.empty_append
    rw [hplain, hrelative]
    rfl
  · rw [String.append_assoc, isAbsolute_append hempty]

theorem join_inj {first second : String} (hfirst : isAbsolute first = false)
    (hsecond : isAbsolute second = false) (directory : String) :
    join directory first = join directory second ↔ first = second := by
  rw [join_eq hfirst, join_eq hsecond]
  exact String.append_right_inj _

/-- It does not matter in which order paths are put behind each other. -/
theorem join_join {path : String} (hrelative : isAbsolute path = false) (first second : String) :
    join (join first second) path = join first (join second path) := by
  cases hsecond : isAbsolute second with
  | true =>
      have habsolute : isAbsolute (join second path) = true := by
        rw [isAbsolute_join hrelative, hsecond]
      rw [join_of_isAbsolute hsecond, join_of_isAbsolute habsolute]
  | false =>
      have hjoined : isAbsolute (join second path) = false := by
        rw [isAbsolute_join hrelative, hsecond]
      have hdivider : divider (first ++ divider first ++ second) = divider second := by
        by_cases hempty : second = ""
        · rw [hempty, String.append_empty, divider_append_divider]
          rfl
        · exact divider_append _ hempty
      rw [join_eq hrelative, join_eq hsecond, join_eq hjoined, join_eq hrelative, hdivider]
      simp only [String.append_assoc]

end MatchingDecomp.Path
