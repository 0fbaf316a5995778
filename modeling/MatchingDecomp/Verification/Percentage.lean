import MatchingDecomp.Binary.Format
import MatchingDecomp.Decimal.Digits
import MatchingDecomp.Text.Word

/-!
# Percentages in a report

The first number in a text that a percent sign follows. The number is read as a 64-bit float and
rounded down, so that a decimal which is nearer to a whole number than the format can tell counts as
that number.
-/

namespace MatchingDecomp.Percentage

open Text

/-- The largest score that a report can give. -/
def limit : Nat := 4294967295

/-- Whether a character can stand in front of a percent sign. -/
def isNumeric (c : Char) : Bool :=
  isDigit c || c == '.'

/-- The digits before and after the point, if the text has at least one digit before the point and
at most one point. -/
def parts? (cs : List Char) : Option (List Char × List Char) :=
  let whole := cs.takeWhile isDigit
  if whole.isEmpty then none
  else
    match cs.drop whole.length with
    | [] => some (whole, [])
    | '.' :: fraction => if fraction.all isDigit then some (whole, fraction) else none
    | _ => none

/-- The value of a decimal as a 64-bit float, rounded down. -/
def floor (whole fraction : List Char) : Nat :=
  let n := Decimal.value (whole ++ fraction)
  match Binary.Format.double.round n (Decimal.tenPow fraction.length) with
  | some x => min x.floor limit
  | none => limit

/-- The value of the characters in front of a percent sign. Leading points are passed over. -/
def value? (run : List Char) : Option Nat :=
  (parts? (run.dropWhile (· == '.'))).map fun (whole, fraction) => floor whole fraction

/-- The first percentage in a text, where `run` holds the digits and points just read, last one
first. -/
def parseFrom (run : List Char) : List Char → Option Nat
  | [] => none
  | c :: cs =>
    if c = '%' then (value? run.reverse).or (parseFrom [] cs)
    else if isNumeric c then parseFrom (c :: run) cs
    else parseFrom [] cs

/-- The first percentage in a text, rounded down. -/
def parse? (text : String) : Option Nat :=
  parseFrom [] text.toList

end MatchingDecomp.Percentage
