/-!
# The bracket gate

Before candidate source reaches a compiler its brackets are counted. Comments and string or
character literals do not count. Each of the three kinds of brackets is counted by itself: a closer
may not come before its opener, and nothing may be open at the end.

The gate reads one character at a time. A slash in code and a star in a block comment are only
understood with the character after them, so each has a mode of its own; a backslash in a literal
takes the next character with it.
-/

namespace MatchingDecomp.Source

/-- What the gate is reading. -/
inductive Mode where
  | code
  /-- Code, after a slash. -/
  | slash
  | lineComment
  | blockComment
  /-- A block comment, after a star. -/
  | star
  /-- A string or character literal, up to its quote. -/
  | literal (quote : Char)
  /-- A literal, after a backslash. -/
  | escape (quote : Char)
  deriving DecidableEq, Repr

/-- How many brackets of each kind are open. -/
structure Depths where
  braces : Nat := 0
  parens : Nat := 0
  brackets : Nat := 0
  deriving DecidableEq, Repr

/-- A depth after a closer, if an opener is there to be closed. -/
def close : Nat → Option Nat
  | 0 => none
  | n + 1 => some n

/-- The depths after a code character. -/
def Depths.read (d : Depths) (c : Char) : Option Depths :=
  if c = '{' then some { d with braces := d.braces + 1 }
  else if c = '}' then (close d.braces).map fun n => { d with braces := n }
  else if c = '(' then some { d with parens := d.parens + 1 }
  else if c = ')' then (close d.parens).map fun n => { d with parens := n }
  else if c = '[' then some { d with brackets := d.brackets + 1 }
  else if c = ']' then (close d.brackets).map fun n => { d with brackets := n }
  else some d

/-- The mode after a character that starts no comment. -/
def Mode.afterCode (c : Char) : Mode :=
  if c = '/' then .slash
  else if c = '"' ∨ c = '\'' then .literal c
  else .code

/-- The mode after one more character. -/
def Mode.next (m : Mode) (c : Char) : Mode :=
  match m with
  | .code => .afterCode c
  | .slash => if c = '/' then .lineComment else if c = '*' then .blockComment else .afterCode c
  | .lineComment => if c = '\n' then .code else .lineComment
  | .blockComment => if c = '*' then .star else .blockComment
  | .star => if c = '/' then .code else if c = '*' then .star else .blockComment
  | .literal q => if c = '\\' then .escape q else if c = q ∨ c = '\n' then .code else .literal q
  | .escape q => .literal q

/-- Whether characters are read as code. -/
def Mode.isCode : Mode → Bool
  | .code => true
  | .slash => true
  | _ => false

/-- The gate: its mode, and the depths as long as no closer came before its opener. -/
structure Gate where
  mode : Mode := .code
  depths : Option Depths := some {}
  deriving DecidableEq, Repr

/-- The gate after one more character. -/
def Gate.read (g : Gate) (c : Char) : Gate where
  mode := g.mode.next c
  depths := if g.mode.isCode then g.depths.bind (·.read c) else g.depths

/-- Whether the brackets of a text are balanced. -/
def balanced (cs : List Char) : Bool :=
  (cs.foldl Gate.read {}).depths == some {}

/-- Whether the brackets of a source are balanced. -/
def isBalanced (source : String) : Bool :=
  balanced source.toList

end MatchingDecomp.Source
