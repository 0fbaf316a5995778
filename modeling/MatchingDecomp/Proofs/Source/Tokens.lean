import Mathlib.Data.List.Infix
import MatchingDecomp.Source.Brackets

/-!
# Splitting a source into tokens

A source is a sequence of tokens: comments, literals, and single characters of code.  `Split` says
what a split is, without reference to how the gate reads: a token that is a comment or a literal is
given by its first characters and by the first place after them where it ends.

* `exists_split`: every source has a split;
* `Split.unique`: and only one.

The gate follows the split.  Inside a comment or a literal it is in a mode that is not code
(`Mode.Inside`), up to the last character of the token and no further, and there it counts nothing.
So what the gate counts are the characters of code (`Split.depths_eq`).
-/

namespace MatchingDecomp.Source

/-! ## Tokens -/

/-- The two characters that begin a literal. -/
def IsQuote (c : Char) : Prop := c = '"' ∨ c = '\''

/-- What stands between the quotes of a literal: a backslash goes together with the character after
it, whatever that is; the other characters are neither the quote nor a newline. -/
inductive LiteralBody (quote : Char) : List Char → Prop where
  | nil : LiteralBody quote []
  | plain {c : Char} {body : List Char} (hquote : c ≠ quote) (hbackslash : c ≠ '\\')
      (hnewline : c ≠ '\n') (hbody : LiteralBody quote body) : LiteralBody quote (c :: body)
  | escaped (c : Char) {body : List Char} (hbody : LiteralBody quote body) :
      LiteralBody quote ('\\' :: c :: body)

/-- A comment or a literal that comes to its own end: a line comment at the first newline, a block
comment at the first `*/`, a literal at the first quote or newline that is not escaped. -/
inductive Closed : List Char → Prop where
  | lineComment {body : List Char} (hbody : '\n' ∉ body) : Closed ('/' :: '/' :: body ++ ['\n'])
  | blockComment {body : List Char} (hbody : ¬ ['*', '/'] <:+: body) :
      Closed ('/' :: '*' :: body ++ ['*', '/'])
  | literal {quote last : Char} {body : List Char} (hquote : IsQuote quote)
      (hbody : LiteralBody quote body) (hlast : last = quote ∨ last = '\n') :
      Closed (quote :: body ++ [last])

/-- A comment or a literal that the end of the source cuts off.  A literal can be cut off after a
backslash. -/
inductive Cut : List Char → Prop where
  | lineComment {body : List Char} (hbody : '\n' ∉ body) : Cut ('/' :: '/' :: body)
  | blockComment {body : List Char} (hbody : ¬ ['*', '/'] <:+: body) : Cut ('/' :: '*' :: body)
  | literal {quote : Char} {body : List Char} (hquote : IsQuote quote)
      (hbody : LiteralBody quote body) : Cut (quote :: body)
  | escape {quote : Char} {body : List Char} (hquote : IsQuote quote)
      (hbody : LiteralBody quote body) : Cut (quote :: body ++ ['\\'])

/-- A text is a comment or a literal, if this is what comes after it. -/
def Skips (text rest : List Char) : Prop := Closed text ∨ Cut text ∧ rest = []

/-- A text begins with a comment or a literal. -/
def Opens (cs : List Char) : Prop :=
  ['/', '/'] <+: cs ∨ ['/', '*'] <+: cs ∨ ∃ quote, IsQuote quote ∧ [quote] <+: cs

/-- A token of a source. -/
inductive Token where
  | code (c : Char)
  /-- A comment or a literal. -/
  | skipped (text : List Char)
  deriving DecidableEq, Repr

/-- The character of code that a token is. -/
def Token.code? : Token → Option Char
  | .code c => some c
  | .skipped _ => none

/-- The tokens of a source, from left to right. -/
inductive Split : List Char → List Token → Prop where
  | nil : Split [] []
  | skipped {text rest : List Char} {tokens : List Token} (htext : Skips text rest)
      (hrest : Split rest tokens) : Split (text ++ rest) (.skipped text :: tokens)
  | code {c : Char} {rest : List Char} {tokens : List Token} (hcode : ¬ Opens (c :: rest))
      (hrest : Split rest tokens) : Split (c :: rest) (.code c :: tokens)

/-! ## Modes inside a token -/

namespace Mode

/-- The mode after some characters. -/
def run (m : Mode) (cs : List Char) : Mode := cs.foldl next m

@[simp] theorem run_nil (m : Mode) : m.run [] = m := rfl

@[simp] theorem run_cons (m : Mode) (c : Char) (cs : List Char) :
    m.run (c :: cs) = (m.next c).run cs := rfl

theorem run_append (m : Mode) (first second : List Char) :
    m.run (first ++ second) = (m.run first).run second :=
  List.foldl_append

/-- None of the characters is read as code. -/
def Inside (m : Mode) : List Char → Prop
  | [] => True
  | c :: cs => m.isCode = false ∧ (m.next c).Inside cs

theorem inside_append {m : Mode} {first second : List Char} :
    m.Inside (first ++ second) ↔ m.Inside first ∧ (m.run first).Inside second := by
  induction first generalizing m with
  | nil => simp [Inside]
  | cons c cs ih => simp only [List.cons_append, Inside, ih, run_cons, and_assoc]

theorem lineComment_inside {body : List Char} (hbody : '\n' ∉ body) :
    lineComment.Inside body ∧ lineComment.run body = .lineComment := by
  induction body with
  | nil => exact ⟨trivial, rfl⟩
  | cons c cs ih =>
      rw [List.mem_cons, not_or] at hbody
      have hnext : lineComment.next c = .lineComment := if_neg (Ne.symm hbody.1)
      rw [run_cons, Inside, hnext]
      exact ⟨⟨rfl, (ih hbody.2).1⟩, (ih hbody.2).2⟩

/-- In a block comment a star may be the beginning of the end, so the two modes of a block comment
are followed together. -/
theorem blockComment_inside (body : List Char) :
    (¬ ['*', '/'] <:+: body → blockComment.Inside body ∧
        (blockComment.run body = .blockComment ∨ blockComment.run body = .star)) ∧
      (¬ ['*', '/'] <:+: '*' :: body → star.Inside body ∧
        (star.run body = .blockComment ∨ star.run body = .star)) := by
  induction body with
  | nil => exact ⟨fun _ => ⟨trivial, .inl rfl⟩, fun _ => ⟨trivial, .inr rfl⟩⟩
  | cons c cs ih =>
      have htail : ∀ {first : Char} {rest : List Char}, ¬ ['*', '/'] <:+: first :: rest →
          ¬ ['*', '/'] <:+: rest :=
        fun hnot hrest => hnot (hrest.trans (List.suffix_cons _ _).isInfix)
      constructor
      · intro hbody
        rw [run_cons, Inside]
        by_cases hc : c = '*'
        · subst hc
          exact ⟨⟨rfl, (ih.2 hbody).1⟩, (ih.2 hbody).2⟩
        · have hnext : blockComment.next c = .blockComment := if_neg hc
          rw [hnext]
          exact ⟨⟨rfl, (ih.1 (htail hbody)).1⟩, (ih.1 (htail hbody)).2⟩
      · intro hbody
        have hslash : c ≠ '/' := by
          rintro rfl
          exact hbody (List.prefix_append ['*', '/'] cs).isInfix
        rw [run_cons, Inside]
        by_cases hc : c = '*'
        · subst hc
          exact ⟨⟨rfl, (ih.2 (htail hbody)).1⟩, (ih.2 (htail hbody)).2⟩
        · have hnext : star.next c = .blockComment := by simp [next, hslash, hc]
          rw [hnext]
          exact ⟨⟨rfl, (ih.1 (htail (htail hbody))).1⟩, (ih.1 (htail (htail hbody))).2⟩

theorem literal_inside {quote : Char} {body : List Char} (hbody : LiteralBody quote body) :
    (literal quote).Inside body ∧ (literal quote).run body = .literal quote := by
  induction hbody with
  | nil => exact ⟨trivial, rfl⟩
  | @plain c body hquote hbackslash hnewline hbody ih =>
      have hnext : (literal quote).next c = .literal quote := by
        simp [next, hquote, hbackslash, hnewline]
      rw [run_cons, Inside, hnext]
      exact ⟨⟨rfl, ih.1⟩, ih.2⟩
  | escaped c hbody ih => exact ⟨⟨rfl, rfl, ih.1⟩, ih.2⟩

end Mode

/-! ## What the gate counts -/

/-- The characters that the gate counts. -/
def brackets : List Char := ['{', '}', '(', ')', '[', ']']

namespace Gate

theorem read_of_not_isCode {m : Mode} (hmode : m.isCode = false) (d : Option Depths) (c : Char) :
    Gate.read ⟨m, d⟩ c = ⟨m.next c, d⟩ := by
  simp [Gate.read, hmode]

theorem read_of_not_mem_brackets {c : Char} (hc : c ∉ brackets) (m : Mode) (d : Option Depths) :
    Gate.read ⟨m, d⟩ c = ⟨m.next c, d⟩ := by
  have hread : ∀ depths : Depths, depths.read c = some depths := by
    intro depths
    simp only [brackets, List.mem_cons, not_or] at hc
    simp [Depths.read, hc]
  have hbind : d.bind (·.read c) = d := by
    cases d with
    | none => rfl
    | some depths => exact hread depths
  simp [Gate.read, hbind]

/-- Nothing is counted inside a token. -/
theorem foldl_read_of_inside {m : Mode} {cs : List Char} (hinside : m.Inside cs)
    (d : Option Depths) : cs.foldl Gate.read ⟨m, d⟩ = ⟨m.run cs, d⟩ := by
  induction cs generalizing m with
  | nil => rfl
  | cons c cs ih =>
      obtain ⟨hmode, hrest⟩ := hinside
      rw [List.foldl_cons, read_of_not_isCode hmode, ih hrest, Mode.run_cons]

end Gate

/-! ## Tokens that are skipped -/

/-- How a comment or a literal begins, and the mode into which that brings the gate. -/
inductive Opening : List Char → Mode → Prop where
  | lineComment : Opening ['/', '/'] .lineComment
  | blockComment : Opening ['/', '*'] .blockComment
  | literal {quote : Char} (hquote : IsQuote quote) : Opening [quote] (.literal quote)

namespace Opening

variable {start : List Char} {m : Mode}

theorem run_eq (hstart : Opening start m) : Mode.code.run start = m := by
  cases hstart with
  | lineComment => rfl
  | blockComment => rfl
  | literal hquote => rcases hquote with rfl | rfl <;> rfl

theorem length_le (hstart : Opening start m) : start.length ≤ 2 := by
  cases hstart <;> simp

theorem foldl_read (hstart : Opening start m) (d : Option Depths) :
    start.foldl Gate.read ⟨.code, d⟩ = ⟨m, d⟩ := by
  have hcounts : ∀ c ∈ start, c ∉ brackets := by
    cases hstart with
    | lineComment => simp [brackets]
    | blockComment => simp [brackets]
    | literal hquote => rcases hquote with rfl | rfl <;> simp [brackets]
  have hread : ∀ (cs : List Char) (first : Mode), (∀ c ∈ cs, c ∉ brackets) →
      cs.foldl Gate.read ⟨first, d⟩ = ⟨first.run cs, d⟩ := by
    intro cs
    induction cs with
    | nil => intro first _; rfl
    | cons c cs ih =>
        intro first hcs
        rw [List.foldl_cons, Gate.read_of_not_mem_brackets (hcs c List.mem_cons_self),
          ih _ fun d hd => hcs d (List.mem_cons_of_mem c hd), Mode.run_cons]
  rw [hread start .code hcounts, hstart.run_eq]

theorem opens (hstart : Opening start m) (rest : List Char) : Opens (start ++ rest) := by
  cases hstart with
  | lineComment => exact .inl (List.prefix_append _ _)
  | blockComment => exact .inr (.inl (List.prefix_append _ _))
  | literal hquote => exact .inr (.inr ⟨_, hquote, List.prefix_append _ _⟩)

end Opening

/-- After its first characters a token is read inside, and a token with an end of its own brings the
gate back to code. -/
theorem Closed.exists_opening {text : List Char} (htext : Closed text) :
    ∃ start m tail, text = start ++ tail ∧ Opening start m ∧ m.Inside tail ∧
      m.run tail = .code ∧ 2 ≤ text.length := by
  cases htext with
  | @lineComment body hbody =>
      obtain ⟨hinside, hrun⟩ := Mode.lineComment_inside hbody
      refine ⟨_, _, body ++ ['\n'], rfl, .lineComment, ?_, ?_, by simp⟩
      · rw [Mode.inside_append, hrun]
        exact ⟨hinside, rfl, trivial⟩
      · rw [Mode.run_append, hrun]
        rfl
  | @blockComment body hbody =>
      obtain ⟨hinside, hrun⟩ := (Mode.blockComment_inside body).1 hbody
      refine ⟨_, _, body ++ ['*', '/'], rfl, .blockComment, ?_, ?_, by simp⟩
      · rw [Mode.inside_append]
        rcases hrun with hrun | hrun <;> rw [hrun] <;> exact ⟨hinside, rfl, rfl, trivial⟩
      · rw [Mode.run_append]
        rcases hrun with hrun | hrun <;> rw [hrun] <;> rfl
  | @literal quote last body hquote hbody hlast =>
      obtain ⟨hinside, hrun⟩ := Mode.literal_inside hbody
      refine ⟨_, _, body ++ [last], rfl, .literal hquote, ?_, ?_, by simp⟩
      · rw [Mode.inside_append, hrun]
        exact ⟨hinside, rfl, trivial⟩
      · have hbackslash : last ≠ '\\' := by
          rcases hquote with rfl | rfl <;> rcases hlast with rfl | rfl <;> decide
        rw [Mode.run_append, hrun]
        simp [Mode.next, hbackslash, hlast]

theorem Cut.exists_opening {text : List Char} (htext : Cut text) :
    ∃ start m tail, text = start ++ tail ∧ Opening start m ∧ m.Inside tail := by
  cases htext with
  | @lineComment body hbody =>
      exact ⟨_, _, body, rfl, .lineComment, (Mode.lineComment_inside hbody).1⟩
  | @blockComment body hbody =>
      exact ⟨_, _, body, rfl, .blockComment, ((Mode.blockComment_inside body).1 hbody).1⟩
  | @literal quote body hquote hbody =>
      exact ⟨_, _, body, rfl, .literal hquote, (Mode.literal_inside hbody).1⟩
  | @escape quote body hquote hbody =>
      obtain ⟨hinside, hrun⟩ := Mode.literal_inside hbody
      refine ⟨_, _, body ++ ['\\'], rfl, .literal hquote, ?_⟩
      rw [Mode.inside_append, hrun]
      exact ⟨hinside, rfl, trivial⟩

theorem Skips.exists_opening {text rest : List Char} (htext : Skips text rest) :
    ∃ start m tail, text = start ++ tail ∧ Opening start m ∧ m.Inside tail := by
  rcases htext with hclosed | ⟨hcut, -⟩
  · obtain ⟨start, m, tail, hsplit, hopening, hinside, -⟩ := hclosed.exists_opening
    exact ⟨start, m, tail, hsplit, hopening, hinside⟩
  · exact hcut.exists_opening

/-- A comment or a literal that is closed is nothing to the gate. -/
theorem Closed.foldl_read {text : List Char} (htext : Closed text) (d : Option Depths) :
    text.foldl Gate.read ⟨.code, d⟩ = ⟨.code, d⟩ := by
  obtain ⟨start, m, tail, rfl, hopening, hinside, hrun, -⟩ := htext.exists_opening
  rw [List.foldl_append, hopening.foldl_read, Gate.foldl_read_of_inside hinside, hrun]

theorem Cut.foldl_read {text : List Char} (htext : Cut text) (d : Option Depths) :
    (text.foldl Gate.read ⟨.code, d⟩).depths = d := by
  obtain ⟨start, m, tail, rfl, hopening, hinside⟩ := htext.exists_opening
  rw [List.foldl_append, hopening.foldl_read, Gate.foldl_read_of_inside hinside]

/-! ## There is only one split -/

/-- A closed token is not the beginning of a longer token, because inside of that one the gate would
not be back at code. -/
theorem Closed.eq_nil_of_skips_append {text more rest : List Char} (hclosed : Closed text)
    (hskips : Skips (text ++ more) rest) : more = [] := by
  have hcode : Mode.code.run text = .code ∧ 2 ≤ text.length := by
    obtain ⟨start, m, tail, rfl, hopening, -, hrun, hlength⟩ := hclosed.exists_opening
    rw [Mode.run_append, hopening.run_eq]
    exact ⟨hrun, hlength⟩
  obtain ⟨start, m, tail, hsplit, hopening, hinside⟩ := hskips.exists_opening
  -- both tokens begin in the same way
  have hstart : start <+: text := by
    have hwhole : start <+: text ++ more := by
      rw [hsplit]
      exact List.prefix_append _ _
    exact List.prefix_of_prefix_length_le hwhole (List.prefix_append _ _)
      (hopening.length_le.trans hcode.2)
  obtain ⟨middle, rfl⟩ := hstart
  rw [List.append_assoc] at hsplit
  obtain rfl := List.append_cancel_left hsplit
  rw [Mode.inside_append, ← hopening.run_eq, ← Mode.run_append, hcode.1] at hinside
  cases more with
  | nil => rfl
  | cons c cs => exact absurd hinside.2.1 (by decide)

theorem Skips.append_inj {first second rest other : List Char} (hfirst : Skips first rest)
    (hsecond : Skips second other) (heq : first ++ rest = second ++ other) :
    first = second ∧ rest = other := by
  -- the shorter of two different tokens would be closed, since something comes after it
  have hlonger : ∀ {text more after : List Char}, Skips text (more ++ after) →
      Skips (text ++ more) after → more = [] := by
    intro text more after hshort hlong
    rcases hshort with hclosed | ⟨-, hnil⟩
    · exact hclosed.eq_nil_of_skips_append hlong
    · exact (List.append_eq_nil_iff.mp hnil).1
  rcases List.append_eq_append_iff.mp heq with ⟨more, rfl, rfl⟩ | ⟨more, rfl, rfl⟩
  · obtain rfl := hlonger hfirst hsecond
    simp
  · obtain rfl := hlonger hsecond hfirst
    simp

theorem Skips.opens {text rest : List Char} (htext : Skips text rest) : Opens (text ++ rest) := by
  obtain ⟨start, m, tail, rfl, hopening, -⟩ := htext.exists_opening
  rw [List.append_assoc]
  exact hopening.opens _

theorem Skips.ne_nil {text rest : List Char} (htext : Skips text rest) : text ≠ [] := by
  obtain ⟨start, m, tail, rfl, hopening, -⟩ := htext.exists_opening
  cases hopening <;> simp

theorem Split.eq_nil_of_nil {tokens : List Token} (hsplit : Split [] tokens) : tokens = [] := by
  generalize hcs : ([] : List Char) = cs at hsplit
  cases hsplit with
  | nil => rfl
  | skipped htext hrest => exact absurd (List.append_eq_nil_iff.mp hcs.symm).1 htext.ne_nil
  | code hcode hrest => cases hcs

theorem Split.of_skips {text rest : List Char} {tokens : List Token}
    (hsplit : Split (text ++ rest) tokens) (htext : Skips text rest) :
    ∃ tail, tokens = .skipped text :: tail ∧ Split rest tail := by
  generalize hcs : text ++ rest = cs at hsplit
  cases hsplit with
  | nil => exact absurd (List.append_eq_nil_iff.mp hcs).1 htext.ne_nil
  | skipped hother hrest =>
      obtain ⟨rfl, rfl⟩ := htext.append_inj hother hcs
      exact ⟨_, rfl, hrest⟩
  | code hcode hrest => exact absurd (hcs ▸ htext.opens) hcode

theorem Split.of_not_opens {c : Char} {rest : List Char} {tokens : List Token}
    (hsplit : Split (c :: rest) tokens) (hcode : ¬ Opens (c :: rest)) :
    ∃ tail, tokens = .code c :: tail ∧ Split rest tail := by
  generalize hcs : c :: rest = cs at hsplit
  cases hsplit with
  | nil => cases hcs
  | skipped htext hrest => exact absurd (hcs ▸ htext.opens) hcode
  | code _ hrest =>
      obtain ⟨rfl, rfl⟩ := List.cons.inj hcs
      exact ⟨_, rfl, hrest⟩

theorem Split.unique {cs : List Char} {tokens : List Token} (hsplit : Split cs tokens) :
    ∀ {other : List Token}, Split cs other → other = tokens := by
  induction hsplit with
  | nil => exact Split.eq_nil_of_nil
  | skipped htext hrest ih =>
      intro other hother
      obtain ⟨tail, rfl, htail⟩ := hother.of_skips htext
      rw [ih htail]
  | code hcode hrest ih =>
      intro other hother
      obtain ⟨tail, rfl, htail⟩ := hother.of_not_opens hcode
      rw [ih htail]

/-! ## There is a split -/

/-- If a pair of characters stands in a text, there is a first place where it does. -/
theorem exists_first_pair {first second : Char} {cs : List Char}
    (hpair : [first, second] <:+: cs) :
    ∃ before after, cs = before ++ first :: second :: after ∧ ¬ [first, second] <:+: before := by
  induction cs with
  | nil => simp at hpair
  | cons c cs ih =>
      by_cases hhere : [first, second] <+: c :: cs
      · obtain ⟨after, hafter⟩ := hhere
        exact ⟨[], after, hafter.symm, by simp⟩
      · have hlater : [first, second] <:+: cs := by
          rcases List.infix_cons_iff.mp hpair with hstart | hlater
          · exact absurd hstart hhere
          · exact hlater
        obtain ⟨before, after, rfl, hbefore⟩ := ih hlater
        refine ⟨c :: before, after, rfl, ?_⟩
        intro hinside
        rcases List.infix_cons_iff.mp hinside with hstart | hlater
        · exact hhere (hstart.trans (List.prefix_append (c :: before) _))
        · exact hbefore hlater

/-- The text after a quote: the literal is cut off in it, after a backslash or not, or it ends. -/
theorem exists_literalBody (quote : Char) : ∀ cs : List Char,
    LiteralBody quote cs ∨ (∃ body, cs = body ++ ['\\'] ∧ LiteralBody quote body) ∨
      ∃ body last rest, cs = body ++ last :: rest ∧ LiteralBody quote body ∧
        (last = quote ∨ last = '\n')
  | [] => .inl .nil
  | [c] => by
      by_cases hbackslash : c = '\\'
      · subst hbackslash
        exact .inr (.inl ⟨[], rfl, .nil⟩)
      by_cases hlast : c = quote ∨ c = '\n'
      · exact .inr (.inr ⟨[], c, [], rfl, .nil, hlast⟩)
      · rw [not_or] at hlast
        exact .inl (.plain hlast.1 hbackslash hlast.2 .nil)
  | c :: next :: cs => by
      by_cases hbackslash : c = '\\'
      · subst hbackslash
        obtain hbody | ⟨body, rfl, hbody⟩ | ⟨body, last, rest, rfl, hbody, hlast⟩ :=
          exists_literalBody quote cs
        · exact .inl (.escaped next hbody)
        · exact .inr (.inl ⟨'\\' :: next :: body, rfl, .escaped next hbody⟩)
        · exact .inr (.inr ⟨'\\' :: next :: body, last, rest, rfl, .escaped next hbody, hlast⟩)
      by_cases hlast : c = quote ∨ c = '\n'
      · exact .inr (.inr ⟨[], c, next :: cs, rfl, .nil, hlast⟩)
      rw [not_or] at hlast
      obtain hbody | ⟨body, hsplit, hbody⟩ | ⟨body, last, rest, hsplit, hbody, hend⟩ :=
        exists_literalBody quote (next :: cs)
      · exact .inl (.plain hlast.1 hbackslash hlast.2 hbody)
      · refine .inr (.inl ⟨c :: body, ?_, .plain hlast.1 hbackslash hlast.2 hbody⟩)
        rw [hsplit, List.cons_append]
      · refine .inr (.inr ⟨c :: body, last, rest, ?_,
          .plain hlast.1 hbackslash hlast.2 hbody, hend⟩)
        rw [hsplit, List.cons_append]

/-- Where a comment or a literal begins, one stands. -/
theorem Opens.exists_skips {cs : List Char} (hopens : Opens cs) :
    ∃ text rest, cs = text ++ rest ∧ Skips text rest := by
  rcases hopens with ⟨tail, rfl⟩ | ⟨tail, rfl⟩ | ⟨quote, hquote, tail, rfl⟩
  · by_cases hnewline : '\n' ∈ tail
    · obtain ⟨body, rest, rfl, hbody⟩ := List.eq_append_cons_of_mem hnewline
      exact ⟨_, rest, by simp, .inl (.lineComment hbody)⟩
    · exact ⟨_, [], (List.append_nil _).symm, .inr ⟨.lineComment hnewline, rfl⟩⟩
  · by_cases hpair : ['*', '/'] <:+: tail
    · obtain ⟨body, rest, rfl, hbody⟩ := exists_first_pair hpair
      exact ⟨_, rest, by simp, .inl (.blockComment hbody)⟩
    · exact ⟨_, [], (List.append_nil _).symm, .inr ⟨.blockComment hpair, rfl⟩⟩
  · obtain hbody | ⟨body, rfl, hbody⟩ | ⟨body, last, rest, rfl, hbody, hlast⟩ :=
      exists_literalBody quote tail
    · exact ⟨_, [], (List.append_nil _).symm, .inr ⟨.literal hquote hbody, rfl⟩⟩
    · exact ⟨_, [], (List.append_nil _).symm, .inr ⟨.escape hquote hbody, rfl⟩⟩
    · exact ⟨_, rest, by simp, .inl (.literal hquote hbody hlast)⟩

theorem exists_split (cs : List Char) : ∃ tokens, Split cs tokens := by
  induction hlength : cs.length using Nat.strong_induction_on generalizing cs with
  | _ n ih =>
      subst hlength
      by_cases hopens : Opens cs
      · obtain ⟨text, rest, rfl, hskips⟩ := hopens.exists_skips
        have hshorter : rest.length < (text ++ rest).length := by
          have hpos := List.length_pos_of_ne_nil hskips.ne_nil
          rw [List.length_append]
          omega
        obtain ⟨tokens, hsplit⟩ := ih _ hshorter rest rfl
        exact ⟨_, .skipped hskips hsplit⟩
      · cases cs with
        | nil => exact ⟨[], .nil⟩
        | cons c rest =>
            obtain ⟨tokens, hsplit⟩ := ih _ (Nat.lt_succ_self _) rest rfl
            exact ⟨_, .code hopens hsplit⟩

/-! ## The gate follows the split -/

/-- After a slash that begins no comment the gate goes on as in code. -/
theorem depths_foldl_read_slash {cs : List Char} (hopens : ¬ Opens ('/' :: cs))
    (d : Option Depths) :
    (cs.foldl Gate.read ⟨.slash, d⟩).depths = (cs.foldl Gate.read ⟨.code, d⟩).depths := by
  cases cs with
  | nil => rfl
  | cons c cs =>
      have hslash : c ≠ '/' := by
        rintro rfl
        exact hopens (.inl (List.prefix_append _ _))
      have hstar : c ≠ '*' := by
        rintro rfl
        exact hopens (.inr (.inl (List.prefix_append _ _)))
      have hread : Gate.read ⟨.slash, d⟩ c = Gate.read ⟨.code, d⟩ c := by
        simp [Gate.read, Mode.next, Mode.isCode, hslash, hstar]
      rw [List.foldl_cons, List.foldl_cons, hread]

/-- A character that begins neither a comment nor a literal is counted, and the gate goes on in
code. -/
theorem depths_foldl_read_cons {c : Char} {cs : List Char} (hopens : ¬ Opens (c :: cs))
    (d : Option Depths) :
    ((c :: cs).foldl Gate.read ⟨.code, d⟩).depths =
      (cs.foldl Gate.read ⟨.code, d.bind (·.read c)⟩).depths := by
  have hquote : ¬ (c = '"' ∨ c = '\'') :=
    fun hquote => hopens (.inr (.inr ⟨c, hquote, List.prefix_append [c] cs⟩))
  rw [List.foldl_cons]
  by_cases hslash : c = '/'
  · subst hslash
    exact depths_foldl_read_slash hopens _
  · have hafter : Mode.afterCode c = .code := by
      rw [Mode.afterCode, if_neg hslash, if_neg hquote]
    have hread : Gate.read ⟨.code, d⟩ c = ⟨.code, d.bind (·.read c)⟩ := by
      simp [Gate.read, Mode.next, Mode.isCode, hafter]
    rw [hread]

/-- The gate counts the characters of code, and nothing else. -/
theorem Split.depths_eq {cs : List Char} {tokens : List Token} (hsplit : Split cs tokens)
    (d : Option Depths) :
    (cs.foldl Gate.read ⟨.code, d⟩).depths =
      d.bind fun depths => (tokens.filterMap Token.code?).foldlM Depths.read depths := by
  induction hsplit generalizing d with
  | nil => cases d <;> rfl
  | @skipped text rest tokens htext hrest ih =>
      have hcodes : (Token.skipped text :: tokens).filterMap Token.code? =
          tokens.filterMap Token.code? := rfl
      rw [hcodes, ← ih d, List.foldl_append]
      rcases htext with hclosed | ⟨hcut, rfl⟩
      · rw [hclosed.foldl_read]
      · exact hcut.foldl_read d
  | @code c rest tokens hcode hrest ih =>
      have hcodes : (Token.code c :: tokens).filterMap Token.code? =
          c :: tokens.filterMap Token.code? := rfl
      rw [depths_foldl_read_cons hcode, ih, hcodes, Option.bind_assoc]
      rfl

end MatchingDecomp.Source
