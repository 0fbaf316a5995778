import MatchingDecomp.Proofs.Source.Removal

/-!
# Comments and literals are inert

Put a whole comment or a whole literal into a source, at a place where the gate reads code, and the
gate comes to the same answer.  What stands in the comment or literal does not matter: brackets,
quotes, slashes.

There are two seams to look at.  Before the inserted text, a slash could join with the slash or star
that the text begins with, so the source may not end in a slash there.  Behind it there is nothing
to join: the text is closed, and after its last character the gate is back in plain code, with the
depths it had before (`Closed.foldl_read`).
-/

namespace MatchingDecomp.Source

/-- After code that does not end in a slash, no comment is about to begin. -/
theorem mode_eq_code {p : List Char} (hcode : (p.foldl Gate.read {}).mode.isCode = true)
    (hslash : ¬ ['/'] <:+ p) : (p.foldl Gate.read {}).mode = .code := by
  rw [mode_foldl_read] at hcode ⊢
  change (Mode.code.run p).isCode = true at hcode
  change Mode.code.run p = .code
  cases hmode : Mode.code.run p with
  | code => rfl
  | slash => exact absurd (Mode.suffix_of_run_eq_slash hmode) hslash
  | _ =>
      rw [hmode] at hcode
      cases hcode

/-- The gate is the same behind a closed text as before it. -/
theorem foldl_read_append_closed {p text : List Char}
    (hmode : (p.foldl Gate.read {}).mode = .code) (htext : Closed text) :
    (p ++ text).foldl Gate.read {} = p.foldl Gate.read {} := by
  rw [List.foldl_append]
  generalize p.foldl Gate.read {} = g at hmode ⊢
  have hgate : g = ⟨.code, g.depths⟩ := by rw [← hmode]
  calc text.foldl Gate.read g
      = text.foldl Gate.read ⟨.code, g.depths⟩ := by rw [← hgate]
    _ = ⟨.code, g.depths⟩ := htext.foldl_read g.depths
    _ = g := hgate.symm

/-- **Comments and literals are inert.**  Where the gate reads code, and not right behind a slash, a
comment or a literal that comes to its own end can be put into a source without any effect on
whether the source is balanced. -/
theorem insertion_inert (p text q : String)
    (hcode : (p.toList.foldl Gate.read {}).mode.isCode = true)
    (hslash : ¬ ['/'] <:+ p.toList) (htext : Closed text.toList) :
    isBalanced (p ++ text ++ q) = isBalanced (p ++ q) := by
  have hgate := foldl_read_append_closed (mode_eq_code hcode hslash) htext
  rw [isBalanced, isBalanced, balanced, balanced, String.toList_append, String.toList_append,
    String.toList_append, List.foldl_append, hgate, ← List.foldl_append]

/-- A comment that begins and ends with a slash and a star too many, put behind another comment. -/
theorem insertion_inert_comment :
    let p := "int f(int a[2]) \x7b // [\n"
    let text := "/*/ \x7d)] \" // ' **/"
    let q := "return '\\''; \x7d"
    isBalanced (p ++ text ++ q) = isBalanced (p ++ q) ∧ isBalanced (p ++ q) = true := by
  intro p text q
  have hbody : text.toList = '/' :: '*' :: "/ \x7d)] \" // ' *".toList ++ ['*', '/'] := by
    decide +kernel
  have htext : Closed text.toList := by
    rw [hbody]
    exact .blockComment (by decide +kernel)
  exact ⟨insertion_inert p text q (by decide +kernel) (by decide +kernel) htext,
    by decide +kernel⟩

/-- Right behind a slash a block comment becomes a line comment. -/
example : isBalanced "//* */(" = true ∧ isBalanced "/(" = false := by decide

end MatchingDecomp.Source
