import Mathlib.Data.List.Infix
import MatchingDecomp.Proofs.Source.Tokens

/-!
# What the gate lets pass

The gate reads a source once, from left to right, and keeps three depths.  Here that is compared
with two questions that are asked one after the other: what are the tokens of the source, and are
the brackets matched in what is left when comments and literals are dropped?  Brackets of one kind
are matched if no beginning of the text has more closers than openers, and the whole text has as
many of the one as of the other.

The three kinds are counted by themselves (`foldlM_read_eq_some_iff`), so it is enough to look at
one of them, for which `foldlM_depthAfter_eq_some_iff` reads the depth off the counts.

Main statement: `isBalanced_iff_matched`.
-/

namespace MatchingDecomp.Source

/-- Brackets of one kind are matched in a text. -/
def Matched (opener closer : Char) (cs : List Char) : Prop :=
  (∀ p, p <+: cs → p.count closer ≤ p.count opener) ∧ cs.count opener = cs.count closer

/-! ## One kind of brackets -/

/-- The depth after a character, as far as one kind of brackets goes. -/
def depthAfter (opener closer : Char) (depth : Nat) (c : Char) : Option Nat :=
  if c = opener then some (depth + 1) else if c = closer then close depth else some depth

/-- A depth is reached if no beginning of the text closes more than is open, and then it is the
depth at the start, with the openers added and the closers taken away. -/
theorem foldlM_depthAfter_eq_some_iff {opener closer : Char} (hne : opener ≠ closer)
    (cs : List Char) (depth final : Nat) :
    cs.foldlM (depthAfter opener closer) depth = some final ↔
      (∀ p, p <+: cs → p.count closer ≤ depth + p.count opener) ∧
        final + cs.count closer = depth + cs.count opener := by
  induction cs generalizing depth with
  | nil => simp [eq_comm]
  | cons c cs ih =>
      -- the beginnings of the longer text are those of the shorter one, with `c` before them
      have hstart : (∀ p, p <+: c :: cs → p.count closer ≤ depth + p.count opener) ↔
          ∀ p, p <+: cs → (c :: p).count closer ≤ depth + (c :: p).count opener := by
        constructor
        · intro hall p hp
          exact hall (c :: p) (List.cons_prefix_cons.mpr ⟨rfl, hp⟩)
        · intro hall p hp
          rcases List.prefix_cons_iff.mp hp with rfl | ⟨rest, rfl, hrest⟩
          · simp
          · exact hall rest hrest
      rw [List.foldlM_cons, hstart]
      by_cases hopener : c = opener
      · have hstep : depthAfter opener closer depth c = some (depth + 1) := if_pos hopener
        rw [hstep]
        simp only [Option.bind_eq_bind, Option.bind_some, ih]
        simp only [hopener, List.count_cons_self, List.count_cons_of_ne hne]
        simp only [Nat.add_assoc, Nat.add_comm 1]
      · by_cases hcloser : c = closer
        · have hstep : depthAfter opener closer depth c = close depth := by
            rw [depthAfter, if_neg hopener, if_pos hcloser]
          have hcount : ∀ p : List Char, (c :: p).count closer = p.count closer + 1 ∧
              (c :: p).count opener = p.count opener := by
            intro p
            simp [hcloser, Ne.symm hne]
          rw [hstep]
          simp only [hcount]
          cases depth with
          | zero =>
              constructor
              · intro hnone
                cases hnone
              · rintro ⟨hall, -⟩
                have hnil := hall [] (List.nil_prefix)
                simp at hnil
          | succ depth =>
              simp only [close, Option.bind_eq_bind, Option.bind_some, ih]
              constructor
              · rintro ⟨hall, hfinal⟩
                refine ⟨?_, by omega⟩
                intro p hp
                have := hall p hp
                omega
              · rintro ⟨hall, hfinal⟩
                refine ⟨?_, by omega⟩
                intro p hp
                have := hall p hp
                omega
        · have hstep : depthAfter opener closer depth c = some depth := by
            rw [depthAfter, if_neg hopener, if_neg hcloser]
          rw [hstep]
          simp only [Option.bind_eq_bind, Option.bind_some, ih, List.count_cons_of_ne hopener,
            List.count_cons_of_ne hcloser]

/-! ## Three kinds of brackets -/

theorem Depths.read_eq_some_iff (d final : Depths) (c : Char) :
    d.read c = some final ↔
      depthAfter '{' '}' d.braces c = some final.braces ∧
        depthAfter '(' ')' d.parens c = some final.parens ∧
        depthAfter '[' ']' d.brackets c = some final.brackets := by
  obtain ⟨braces, parens, brackets⟩ := d
  obtain ⟨braces', parens', brackets'⟩ := final
  by_cases hbracket : c ∈ Source.brackets
  · -- one kind counts the character, and the other two do not
    simp only [Source.brackets, List.mem_cons, List.not_mem_nil, or_false] at hbracket
    rcases hbracket with rfl | rfl | rfl | rfl | rfl | rfl <;>
      simp [Depths.read, depthAfter, and_comm, and_assoc]
  · simp only [Source.brackets, List.mem_cons, List.not_mem_nil, or_false, not_or] at hbracket
    simp [Depths.read, depthAfter, hbracket]

/-- The three depths are reached together if each of them is reached. -/
theorem foldlM_read_eq_some_iff (cs : List Char) (d final : Depths) :
    cs.foldlM Depths.read d = some final ↔
      cs.foldlM (depthAfter '{' '}') d.braces = some final.braces ∧
        cs.foldlM (depthAfter '(' ')') d.parens = some final.parens ∧
        cs.foldlM (depthAfter '[' ']') d.brackets = some final.brackets := by
  induction cs generalizing d with
  | nil =>
      obtain ⟨braces, parens, brackets⟩ := d
      obtain ⟨braces', parens', brackets'⟩ := final
      simp
  | cons c cs ih =>
      simp only [List.foldlM_cons, Option.bind_eq_bind, Option.bind_eq_some_iff, ih]
      constructor
      · rintro ⟨next, hread, hbraces, hparens, hbrackets⟩
        obtain ⟨hbraces', hparens', hbrackets'⟩ := (d.read_eq_some_iff next c).mp hread
        exact ⟨⟨_, hbraces', hbraces⟩, ⟨_, hparens', hparens⟩, ⟨_, hbrackets', hbrackets⟩⟩
      · rintro ⟨⟨braces, hbraces', hbraces⟩, ⟨parens, hparens', hparens⟩,
          ⟨brackets, hbrackets', hbrackets⟩⟩
        refine ⟨⟨braces, parens, brackets⟩, ?_, hbraces, hparens, hbrackets⟩
        exact (d.read_eq_some_iff _ c).mpr ⟨hbraces', hparens', hbrackets'⟩

/-! ## The gate -/

theorem foldlM_depthAfter_eq_matched {opener closer : Char} (hne : opener ≠ closer)
    (cs : List Char) :
    cs.foldlM (depthAfter opener closer) 0 = some 0 ↔ Matched opener closer cs := by
  rw [foldlM_depthAfter_eq_some_iff hne, Matched]
  simp only [Nat.zero_add, eq_comm]

/-- **The gate in two phases.**  Every source has exactly one split into tokens, and the source is
balanced if and only if braces, parentheses and square brackets are each matched in the characters
of code among the tokens. -/
theorem isBalanced_iff_matched (source : String) :
    ∃ tokens, Split source.toList tokens ∧
      (∀ other, Split source.toList other → other = tokens) ∧
      (isBalanced source = true ↔
        Matched '{' '}' (tokens.filterMap Token.code?) ∧
          Matched '(' ')' (tokens.filterMap Token.code?) ∧
          Matched '[' ']' (tokens.filterMap Token.code?)) := by
  obtain ⟨tokens, hsplit⟩ := exists_split source.toList
  refine ⟨tokens, hsplit, fun other hother => hsplit.unique hother, ?_⟩
  have hdepths : (source.toList.foldl Gate.read {}).depths =
      (tokens.filterMap Token.code?).foldlM Depths.read {} :=
    hsplit.depths_eq (some {})
  rw [isBalanced, balanced, beq_iff_eq, hdepths, foldlM_read_eq_some_iff,
    foldlM_depthAfter_eq_matched (by decide), foldlM_depthAfter_eq_matched (by decide),
    foldlM_depthAfter_eq_matched (by decide)]

/-- A star that belongs to the beginning of a block comment does not end it, and a backslash takes
the next quote with it. -/
example : isBalanced "f(\"\\\")\"); /*/ \x7d */" = true := by decide

end MatchingDecomp.Source
