import MatchingDecomp.Text.CaseTables

/-!
# Lower-casing

Full Unicode lower-casing. Every character maps by itself, with two exceptions of the standard: the
dotted capital I becomes two characters, and a capital sigma becomes the final form at the end of a
word.
-/

namespace MatchingDecomp.Text

/-- Whether `n` lies in one of the closed ranges. -/
def inRanges (rs : List (Nat × Nat)) (n : Nat) : Bool :=
  rs.any fun r => r.1 ≤ n && n ≤ r.2

/-- The lower-case mapping of one character by itself. -/
def lowerChar (c : Char) : Char :=
  let n := c.toNat
  match lowerRanges.find? fun r => r.1 ≤ n && n ≤ r.2.1 && (n - r.1) % r.2.2.1 == 0 with
  | some r => Char.ofNat (r.2.2.2 + (n - r.1))
  | none => c

/-- Whether the first character that is not case-ignorable is cased. -/
def casedNext (cs : List Char) : Bool :=
  match cs.dropWhile fun c => inRanges caseIgnorableRanges c.toNat with
  | [] => false
  | c :: _ => inRanges casedRanges c.toNat

/-- The lower-case form of a text whose already read part is `before`, last character first. A
capital sigma is final when a cased character stands before it and none after it, case-ignorable
characters aside. -/
def lowerFrom (before : List Char) : List Char → List Char
  | [] => []
  | c :: cs =>
    let low :=
      if c = 'Σ' then
        if casedNext before && !casedNext cs then ['ς'] else ['σ']
      else if c = 'İ' then ['i', '\u0307']
      else [lowerChar c]
    low ++ lowerFrom (c :: before) cs

/-- The lower-case form of a text. -/
def lower (cs : List Char) : List Char :=
  lowerFrom [] cs

end MatchingDecomp.Text
