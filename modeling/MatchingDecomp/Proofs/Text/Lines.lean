import Mathlib.Data.List.Forall2
import MatchingDecomp.Text.Lines

/-!
# Texts joined by a newline, and texts with other line endings

A newline ends a line, so the lines of two texts with a newline between them are nearly the lines of
the one and then those of the other (`lines_append_newline`).  They differ at the seam, in the line
that the newline ends (`Closes`): it is there even if it is empty, and it loses one carriage return
at its end.  For a reader of lines to whom neither makes a difference, the two texts can be read one
by one (`flatMap_lines_append_newline`).

A text with a carriage return put in front of every newline has as many lines as before
(`lines_withReturns`).  A line that ended in a carriage return already now has two of them, of which
one goes with the newline and the other one stays (`Returned`).  A reader to whom that makes no
difference finds the same on every line (`map_lines_withReturns`).
-/

namespace MatchingDecomp.Text

/-- A character that neither ends a line nor begins the ending of one goes to the first line. -/
theorem lines_cons {c : Char} {cs line : List Char} {rest : List (List Char)}
    (hnewline : c ≠ '\n') (hreturn : ¬ (c = '\r' ∧ cs.head? = some '\n'))
    (hlines : lines cs = line :: rest) : lines (c :: cs) = (c :: line) :: rest := by
  rw [lines, hlines]
  · exact hnewline
  · rintro cs' rfl rfl
    exact hreturn ⟨rfl, rfl⟩

theorem lines_ne_nil {text : List Char} (htext : text ≠ []) : lines text ≠ [] := by
  fun_cases lines text with
  | case1 => exact absurd rfl htext
  | _ => exact List.cons_ne_nil _ _

/-- What a newline makes of the line that it ends: the line as it was at the end of the text, if
there was one, and the line it is now. -/
inductive Closes : List (List Char) → List Char → Prop where
  | empty : Closes [] []
  | plain (line : List Char) : Closes [line] line
  | dropped (line : List Char) : Closes [line ++ ['\r']] line

theorem Closes.cons {old line : List Char} {others : List (List Char)}
    (hcloses : Closes (old :: others) line) (c : Char) :
    Closes ((c :: old) :: others) (c :: line) := by
  cases hcloses with
  | plain => exact .plain (c :: old)
  | dropped => exact .dropped (c :: line)

/-- The lines of two texts with a newline between them. -/
theorem lines_append_newline (text more : List Char) :
    ∃ before rest line, Closes rest line ∧ lines text = before ++ rest ∧
      lines (text ++ '\n' :: more) = before ++ line :: lines more := by
  fun_induction lines text with
  | case1 => exact ⟨[], [], [], .empty, rfl, rfl⟩
  | case2 cs ih =>
      obtain ⟨before, rest, line, hcloses, hold, hnew⟩ := ih
      refine ⟨[] :: before, rest, line, hcloses, ?_, ?_⟩
      · rw [hold, List.cons_append]
      · rw [List.cons_append, lines, hnew, List.cons_append]
  | case3 cs ih =>
      obtain ⟨before, rest, line, hcloses, hold, hnew⟩ := ih
      refine ⟨[] :: before, rest, line, hcloses, ?_, ?_⟩
      · rw [hold, List.cons_append]
      · rw [List.cons_append, List.cons_append, lines, hnew, List.cons_append]
  | case4 c cs hnewline _ hnone _ =>
      -- the text is a single character, which goes with the newline if it is a carriage return
      have hempty : cs = [] := Classical.not_not.mp fun hcs => lines_ne_nil hcs hnone
      subst hempty
      by_cases hc : c = '\r'
      · subst hc
        exact ⟨[], [['\r']], [], .dropped [], rfl, rfl⟩
      · refine ⟨[], [[c]], [c], .plain [c], rfl, ?_⟩
        exact lines_cons hnewline (fun hend => hc hend.1) rfl
  | case5 c cs hnewline hreturn first others hlines ih =>
      obtain ⟨before, rest, line, hcloses, hold, hnew⟩ := ih
      rw [hlines] at hold
      have hhead : ¬ (c = '\r' ∧ (cs ++ '\n' :: more).head? = some '\n') := by
        rintro ⟨rfl, hhead⟩
        cases cs with
        | nil => cases hlines
        | cons d cs =>
            obtain rfl : d = '\n' := Option.some.inj hhead
            exact hreturn cs rfl rfl
      cases before with
      | nil =>
          rw [List.nil_append] at hold
          subst hold
          exact ⟨[], (c :: first) :: others, c :: line, hcloses.cons c, rfl,
            lines_cons hnewline hhead hnew⟩
      | cons b before =>
          obtain ⟨rfl, rfl⟩ := List.cons.inj hold
          exact ⟨(c :: first) :: before, rest, line, hcloses, rfl,
            lines_cons hnewline hhead hnew⟩

theorem flatMap_lines_append_newline {α : Type} {read : List Char → List α} (hempty : read [] = [])
    (hreturn : ∀ line, read (line ++ ['\r']) = read line) (text more : List Char) :
    (lines (text ++ '\n' :: more)).flatMap read =
      (lines text).flatMap read ++ (lines more).flatMap read := by
  obtain ⟨before, rest, line, hcloses, hold, hnew⟩ := lines_append_newline text more
  have hseam : rest.flatMap read = read line := by
    cases hcloses with
    | empty => exact hempty.symm
    | plain => exact List.flatMap_singleton ..
    | dropped => rw [List.flatMap_singleton, hreturn]
  rw [hnew, hold, List.flatMap_append, List.flatMap_append, List.flatMap_cons, hseam,
    List.append_assoc]

/-! ## Carriage returns in front of the newlines -/

/-- The text with a carriage return in front of every newline. -/
def withReturns (text : List Char) : List Char :=
  text.flatMap fun c => if c = '\n' then ['\r', '\n'] else [c]

/-- A line, once with the carriage return that its ending left and once without. -/
inductive Returned : List Char → List Char → Prop where
  | same (line : List Char) : Returned line line
  | kept (line : List Char) : Returned (line ++ ['\r']) line

theorem Returned.cons {new old : List Char} (hreturned : Returned new old) (c : Char) :
    Returned (c :: new) (c :: old) := by
  cases hreturned with
  | same => exact .same (c :: new)
  | kept => exact .kept (c :: old)

theorem withReturns_newline (cs : List Char) :
    withReturns ('\n' :: cs) = '\r' :: '\n' :: withReturns cs := rfl

theorem withReturns_cons {c : Char} (hc : c ≠ '\n') (cs : List Char) :
    withReturns (c :: cs) = c :: withReturns cs := by
  rw [withReturns, List.flatMap_cons, if_neg hc, List.singleton_append, withReturns]

/-- No newline comes first: there is a carriage return in front of it. -/
theorem head?_withReturns (cs : List Char) : (withReturns cs).head? ≠ some '\n' := by
  cases cs with
  | nil => exact nofun
  | cons c cs =>
      by_cases hc : c = '\n'
      · subst hc
        rw [withReturns_newline, List.head?_cons]
        decide
      · rw [withReturns_cons hc, List.head?_cons]
        intro hhead
        exact hc (Option.some.inj hhead)

theorem lines_cons_withReturns {c : Char} (hc : c ≠ '\n') {cs line : List Char}
    {rest : List (List Char)} (hlines : lines (withReturns cs) = line :: rest) :
    lines (withReturns (c :: cs)) = (c :: line) :: rest := by
  rw [withReturns_cons hc]
  exact lines_cons hc (fun hend => head?_withReturns cs hend.2) hlines

/-- Putting carriage returns in front of the newlines keeps the lines, but for a carriage return
that is left at the end of some of them. -/
theorem lines_withReturns (text : List Char) :
    List.Forall₂ Returned (lines (withReturns text)) (lines text) := by
  fun_induction lines text with
  | case1 => exact .nil
  | case2 cs ih =>
      rw [withReturns_newline, lines]
      exact .cons (.same []) ih
  | case3 cs ih =>
      have hfirst : lines (withReturns ('\n' :: cs)) = [] :: lines (withReturns cs) := by
        rw [withReturns_newline, lines]
      rw [lines_cons_withReturns (by decide) hfirst]
      exact .cons (.kept []) ih
  | case4 c cs hnewline _ hnone _ =>
      have hempty : cs = [] := Classical.not_not.mp fun hcs => lines_ne_nil hcs hnone
      subst hempty
      have hline : lines [c] = [[c]] := by
        rw [lines, lines]
        · exact hnewline
        · exact nofun
      rw [withReturns_cons hnewline, withReturns, List.flatMap_nil, hline]
      exact .cons (.same [c]) .nil
  | case5 c cs hnewline _ first others hlines ih =>
      rw [hlines, List.forall₂_cons_right_iff] at ih
      obtain ⟨line, rest, hreturned, hrest, heq⟩ := ih
      rw [lines_cons_withReturns hnewline heq]
      exact .cons (hreturned.cons c) hrest

example : lines (withReturns "a:\r\n\n.fn b\r".toList) =
    ["a:\r".toList, [], ".fn b\r".toList] := by decide

theorem map_lines_withReturns {α : Type} {read : List Char → α}
    (hreturn : ∀ line, read (line ++ ['\r']) = read line) (text : List Char) :
    (lines (withReturns text)).map read = (lines text).map read := by
  have hread : ∀ new old, Returned new old → read new = read old := by
    intro new old hreturned
    cases hreturned with
    | same => rfl
    | kept => exact hreturn old
  have hmaps : List.Forall₂ (· = ·) ((lines (withReturns text)).map read)
      ((lines text).map read) := by
    rw [List.forall₂_map_left_iff, List.forall₂_map_right_iff]
    exact (lines_withReturns text).imp hread
  rwa [List.forall₂_eq_eq_eq] at hmaps

theorem allBlank_withReturns (text : List Char) : allBlank (withReturns text) = allBlank text := by
  induction text with
  | nil => rfl
  | cons c cs ih =>
      by_cases hc : c = '\n'
      · subst hc
        rw [withReturns_newline]
        exact ih
      · rw [withReturns_cons hc]
        exact congrArg (isBlank c && ·) ih

end MatchingDecomp.Text
