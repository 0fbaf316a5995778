import MatchingDecomp.Proofs.Source.Balance

/-!
# A lost bracket is noticed

Take a bracket of code out of a balanced source, and the rest is not balanced.  Two runs of the gate
are compared, one over the source and one over the rest of it.

* Up to the bracket they are the same run.
* After the bracket they stay in step (`depths_foldl_read_of_isCode`).  The bracket brings the gate
  back to plain code, and without it the gate is in code as well.  The exception is a slash right
  before the bracket, which may begin a comment with the character right after it.
* The depths at the end tell the depths at any place before (`foldlM_read_inj`).  So if both runs
  ended with nothing open, the depths after the bracket would be those before it, and every bracket
  changes a depth.
-/

namespace MatchingDecomp.Source

/-! ## Depths, from the end -/

theorem foldlM_depthAfter_inj {opener closer : Char} (hne : opener ≠ closer) {cs : List Char}
    {depth other final : Nat}
    (hdepth : cs.foldlM (depthAfter opener closer) depth = some final)
    (hother : cs.foldlM (depthAfter opener closer) other = some final) : depth = other := by
  rw [foldlM_depthAfter_eq_some_iff hne] at hdepth hother
  have hcount := hdepth.2
  have hcount' := hother.2
  omega

/-- The depths at the start of a text can be told from the depths at its end. -/
theorem foldlM_read_inj {cs : List Char} {d other final : Depths}
    (hd : cs.foldlM Depths.read d = some final)
    (hother : cs.foldlM Depths.read other = some final) : d = other := by
  rw [foldlM_read_eq_some_iff] at hd hother
  obtain ⟨hbraces, hparens, hbrackets⟩ := hd
  obtain ⟨hbraces', hparens', hbrackets'⟩ := hother
  obtain ⟨braces, parens, brackets⟩ := d
  obtain ⟨braces', parens', brackets'⟩ := other
  rw [Depths.mk.injEq]
  exact ⟨foldlM_depthAfter_inj (by decide) hbraces hbraces',
    foldlM_depthAfter_inj (by decide) hparens hparens',
    foldlM_depthAfter_inj (by decide) hbrackets hbrackets'⟩

/-- Every bracket changes a depth. -/
theorem Depths.read_ne_self {b : Char} (hbracket : b ∈ Source.brackets) (d : Depths) :
    d.read b ≠ some d := by
  intro hread
  obtain ⟨hbraces, hparens, hbrackets⟩ := (d.read_eq_some_iff d b).mp hread
  have hopened (n : Nat) : some (n + 1) ≠ some n := by simp
  have hclosed (n : Nat) : close n ≠ some n := by cases n <;> simp [close]
  simp only [Source.brackets, List.mem_cons, List.not_mem_nil, or_false] at hbracket
  rcases hbracket with rfl | rfl | rfl | rfl | rfl | rfl
  · exact hopened _ hbraces
  · exact hclosed _ hbraces
  · exact hopened _ hparens
  · exact hclosed _ hparens
  · exact hopened _ hbrackets
  · exact hclosed _ hbrackets

/-! ## The mode around a bracket -/

namespace Mode

theorem next_of_mem_brackets {b : Char} (hbracket : b ∈ brackets) {m : Mode}
    (hcode : m.isCode = true) : m.next b = .code := by
  simp only [brackets, List.mem_cons, List.not_mem_nil, or_false] at hbracket
  cases m with
  | code => rcases hbracket with rfl | rfl | rfl | rfl | rfl | rfl <;> rfl
  | slash => rcases hbracket with rfl | rfl | rfl | rfl | rfl | rfl <;> rfl
  | _ => cases hcode

theorem next_ne_slash {c : Char} (hc : c ≠ '/') (m : Mode) : m.next c ≠ .slash := by
  cases m <;> simp only [next, afterCode, if_neg hc] <;> grind

/-- Only a slash brings the gate to the mode after a slash. -/
theorem suffix_of_run_eq_slash {cs : List Char} (hrun : code.run cs = .slash) : ['/'] <:+ cs := by
  rcases List.eq_nil_or_concat cs with rfl | ⟨before, c, rfl⟩
  · cases hrun
  · rw [List.concat_eq_append, run_append] at hrun
    by_cases hc : c = '/'
    · rw [hc, List.concat_eq_append]
      exact List.suffix_append before ['/']
    · exact absurd hrun (next_ne_slash hc _)

end Mode

theorem mode_foldl_read (cs : List Char) (g : Gate) :
    (cs.foldl Gate.read g).mode = g.mode.run cs := by
  induction cs generalizing g with
  | nil => rfl
  | cons c cs ih => rw [List.foldl_cons, ih, Mode.run_cons, Gate.read]

theorem opens_slash_iff (cs : List Char) : Opens ('/' :: cs) ↔ ['/'] <+: cs ∨ ['*'] <+: cs := by
  have hquote (quote : Char) (h : IsQuote quote) : ¬ [quote] <+: '/' :: cs := by
    rintro hstart
    rw [List.cons_prefix_cons] at hstart
    rcases h with rfl | rfl <;> exact absurd hstart.1 (by decide)
  rw [Opens, List.cons_prefix_cons, List.cons_prefix_cons]
  simp only [true_and]
  constructor
  · rintro (hslash | hstar | ⟨quote, h, hstart⟩)
    · exact .inl hslash
    · exact .inr hstar
    · exact absurd hstart (hquote quote h)
  · rintro (hslash | hstar)
    · exact .inl hslash
    · exact .inr (.inl hstar)

/-- As long as no comment begins with a slash that was just read, the gate goes on in the same way
from both modes of code. -/
theorem depths_foldl_read_of_isCode {m : Mode} (hcode : m.isCode = true) {cs : List Char}
    (hjoin : m = .slash → ¬ Opens ('/' :: cs)) (d : Option Depths) :
    (cs.foldl Gate.read ⟨m, d⟩).depths = (cs.foldl Gate.read ⟨.code, d⟩).depths := by
  cases m with
  | code => rfl
  | slash => exact depths_foldl_read_slash (hjoin rfl) d
  | _ => cases hcode

/-! ## Two runs -/

section

variable {p q : List Char} {tokens : List Token}

/-- The run over the source: the bracket is counted, and then the characters of code after it. -/
theorem depths_with_bracket {b : Char} (hbracket : b ∈ brackets)
    (hcode : (p.foldl Gate.read {}).mode.isCode = true) (hsplit : Split q tokens) :
    ((p ++ b :: q).foldl Gate.read {}).depths =
      ((p.foldl Gate.read {}).depths.bind (·.read b)).bind fun d =>
        (tokens.filterMap Token.code?).foldlM Depths.read d := by
  rw [List.foldl_append, List.foldl_cons, ← hsplit.depths_eq]
  generalize p.foldl Gate.read {} = g at hcode ⊢
  have hread : g.read b = ⟨.code, g.depths.bind (·.read b)⟩ := by
    rw [Gate.read, Mode.next_of_mem_brackets hbracket hcode, if_pos hcode]
  rw [hread]

/-- The run over the rest: the same characters of code are counted. -/
theorem depths_without_bracket (hcode : (p.foldl Gate.read {}).mode.isCode = true)
    (hjoin : ¬ (['/'] <:+ p ∧ (['/'] <+: q ∨ ['*'] <+: q))) (hsplit : Split q tokens) :
    ((p ++ q).foldl Gate.read {}).depths =
      (p.foldl Gate.read {}).depths.bind fun d =>
        (tokens.filterMap Token.code?).foldlM Depths.read d := by
  have hslash (hmode : (p.foldl Gate.read {}).mode = .slash) : ¬ Opens ('/' :: q) := by
    rw [mode_foldl_read] at hmode
    rw [opens_slash_iff]
    intro hopens
    exact hjoin ⟨Mode.suffix_of_run_eq_slash hmode, hopens⟩
  rw [List.foldl_append, ← hsplit.depths_eq]
  exact depths_foldl_read_of_isCode hcode hslash _

/-- A text and the text without a bracket are not both balanced. -/
theorem not_balanced_of_balanced {b : Char} (hbracket : b ∈ brackets)
    (hcode : (p.foldl Gate.read {}).mode.isCode = true)
    (hjoin : ¬ (['/'] <:+ p ∧ (['/'] <+: q ∨ ['*'] <+: q)))
    (hbalanced : balanced (p ++ b :: q) = true) : ¬ balanced (p ++ q) = true := by
  intro hrest
  obtain ⟨tokens, hsplit⟩ := exists_split q
  rw [balanced, beq_iff_eq, depths_with_bracket hbracket hcode hsplit] at hbalanced
  rw [balanced, beq_iff_eq, depths_without_bracket hcode hjoin hsplit] at hrest
  obtain ⟨d, hbefore, hend⟩ := Option.bind_eq_some_iff.mp hrest
  rw [hbefore, Option.bind_some] at hbalanced
  obtain ⟨after, hread, hend'⟩ := Option.bind_eq_some_iff.mp hbalanced
  obtain rfl : after = d := foldlM_read_inj hend' hend
  exact Depths.read_ne_self hbracket after hread

end

/-- **A lost bracket is noticed.**  Take one bracket out of a balanced source, at a place where the
gate reads code, and not from between a slash and a slash or star.  Then what is left is not
balanced. -/
theorem lost_bracket_noticed (p q : String) {b : Char} (hbracket : b ∈ brackets)
    (hcode : (p.toList.foldl Gate.read {}).mode.isCode = true)
    (hjoin : ¬ (['/'] <:+ p.toList ∧ (['/'] <+: q.toList ∨ ['*'] <+: q.toList)))
    (hbalanced : isBalanced (p ++ String.singleton b ++ q) = true) :
    isBalanced (p ++ q) = false := by
  have htext : (p ++ String.singleton b ++ q).toList = p.toList ++ b :: q.toList := by simp
  rw [isBalanced, htext] at hbalanced
  rw [isBalanced, String.toList_append, Bool.eq_false_iff]
  exact not_balanced_of_balanced hbracket hcode hjoin hbalanced

/-- A closing brace is lost among a literal and comments that hold braces of their own. -/
theorem lost_brace_noticed :
    let p := "int f() \x7b return '\x7b'; /* \x7b */"
    let q := " // \x7d\n"
    isBalanced (p ++ String.singleton '\x7d' ++ q) = true ∧ isBalanced (p ++ q) = false := by
  intro p q
  have hbalanced : isBalanced (p ++ String.singleton '\x7d' ++ q) = true := by decide +kernel
  exact ⟨hbalanced, lost_bracket_noticed p q (by decide) (by decide +kernel) (by decide +kernel)
    hbalanced⟩

/-- Between a slash and a star a lost parenthesis leaves a comment behind. -/
example : isBalanced "/(*)" = true ∧ isBalanced "/*)" = true := by decide

end MatchingDecomp.Source
