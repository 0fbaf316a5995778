import MatchingDecomp.Decimal.Digits
import MatchingDecomp.Text.Blank
import MatchingDecomp.Text.Word

/-!
# Instants

Points in time, counted in seconds and nanoseconds from the start of 1970 in UTC, with the proleptic
Gregorian calendar. A leap second is kept as the second before it with a nanosecond count past a
thousand million, so that it is written as second 60 again.

The written form is the date and time profile of the Internet, `2024-01-01T00:00:00Z`, with zero,
three, six or nine digits for the fraction of the second, whichever is the shortest exact. The
reader is more liberal: fields may be shorter than their width and stand apart from their
separators, the date and the time may be separated by a space, and the offset may be `Z`, `UTC`, or
hours and minutes with or without a colon.
-/

namespace MatchingDecomp

/-- A point in time in UTC. -/
structure Instant where
  seconds : Int
  nanos : Nat := 0
  deriving DecidableEq, Repr

namespace Instant

/-- The whole milliseconds from the start of 1970 to an instant. -/
def millis (t : Instant) : Int :=
  t.seconds * 1000 + (t.nanos / 1000000 : Nat)

/-! ### The calendar -/

/-- Whether a year has 366 days. -/
def isLeap (year : Int) : Bool :=
  year % 4 == 0 && (year % 100 != 0 || year % 400 == 0)

/-- The days of a month. -/
def monthDays (year : Int) (month : Nat) : Nat :=
  if month == 2 then (if isLeap year then 29 else 28)
  else if month == 4 || month == 6 || month == 9 || month == 11 then 30
  else 31

/-- The days from the start of 1970 to a date. Years are counted from March, so that the leap day is
the last one of its year. -/
def daysOf (year : Int) (month day : Nat) : Int :=
  let y := if month ≤ 2 then year - 1 else year
  let era := y / 400
  let yearOfEra := y - era * 400
  let monthFromMarch : Int := if month ≤ 2 then (month : Int) + 9 else (month : Int) - 3
  let dayOfYear := (153 * monthFromMarch + 2) / 5 + (day : Int) - 1
  let dayOfEra := yearOfEra * 365 + yearOfEra / 4 - yearOfEra / 100 + dayOfYear
  era * 146097 + dayOfEra - 719468

/-- The date that lies a number of days after the start of 1970: year, month and day. -/
def dateOf (days : Int) : Int × Nat × Nat :=
  let z := days + 719468
  let era := z / 146097
  let dayOfEra := z - era * 146097
  let yearOfEra :=
    (dayOfEra - dayOfEra / 1460 + dayOfEra / 36524 - dayOfEra / 146096) / 365
  let dayOfYear := dayOfEra - (365 * yearOfEra + yearOfEra / 4 - yearOfEra / 100)
  let monthFromMarch := (5 * dayOfYear + 2) / 153
  let day := dayOfYear - (153 * monthFromMarch + 2) / 5 + 1
  let month := if monthFromMarch < 10 then monthFromMarch + 3 else monthFromMarch - 9
  let year := yearOfEra + era * 400 + if month ≤ 2 then 1 else 0
  (year, month.toNat, day.toNat)

/-! ### Writing -/

/-- A year has four digits; outside of them it carries its sign. -/
def yearText (year : Int) : List Char :=
  if 0 ≤ year ∧ year ≤ 9999 then Decimal.padded 4 year.toNat
  else (if year < 0 then '-' else '+') :: Decimal.padded 4 year.natAbs

/-- The fraction of a second with zero, three, six or nine digits. -/
def fractionText (nanos : Nat) : List Char :=
  if nanos = 0 then []
  else if nanos % 1000000 = 0 then '.' :: Decimal.padded 3 (nanos / 1000000)
  else if nanos % 1000 = 0 then '.' :: Decimal.padded 6 (nanos / 1000)
  else '.' :: Decimal.padded 9 nanos

/-- The written form of an instant, up to the offset. -/
def localText (t : Instant) : List Char :=
  let days := t.seconds / 86400
  let second := (t.seconds % 86400).toNat
  let (year, month, day) := dateOf days
  let leap := if 1000000000 ≤ t.nanos then 1 else 0
  yearText year ++ '-' :: Decimal.padded 2 month ++ '-' :: Decimal.padded 2 day ++
    'T' :: Decimal.padded 2 (second / 3600) ++ ':' :: Decimal.padded 2 (second / 60 % 60) ++
    ':' :: Decimal.padded 2 (second % 60 + leap) ++ fractionText (t.nanos % 1000000000)

/-- The written form of an instant, as records hold it. -/
def text (t : Instant) : String :=
  String.ofList (t.localText ++ ['Z'])

/-- The written form of an instant, as reports hold it. -/
def stamp (t : Instant) : String :=
  String.ofList (t.localText ++ "+00:00".toList)

/-! ### Reading -/

/-- A number of at most `width` digits. -/
def readNumber (width : Nat) (cs : List Char) : Option (Nat × List Char) :=
  let ds := (cs.take width).takeWhile Text.isDigit
  if ds.isEmpty then none else some (Decimal.value ds, cs.drop ds.length)

/-- A number of any length. -/
def readLong (cs : List Char) : Option (Nat × List Char) :=
  readNumber cs.length cs

/-- A year: four digits, or any number after a sign. -/
def readYear (cs : List Char) : Option (Int × List Char) :=
  match Text.trimStart cs with
  | '-' :: rest => (readLong rest).map fun (n, rest) => (-(n : Int), rest)
  | '+' :: rest => (readLong rest).map fun (n, rest) => ((n : Int), rest)
  | rest => (readNumber 4 rest).map fun (n, rest) => ((n : Int), rest)

/-- A field of two digits between two bounds. -/
def readField (low high : Nat) (cs : List Char) : Option (Nat × List Char) := do
  let (n, rest) ← readNumber 2 (Text.trimStart cs)
  if low ≤ n ∧ n ≤ high then some (n, rest) else none

/-- A separator, which blanks may precede. -/
def readMark (c : Char) (cs : List Char) : Option (List Char) :=
  match Text.trimStart cs with
  | d :: rest => if d = c then some rest else none
  | [] => none

/-- A fraction of a second in nanoseconds; digits past the ninth are passed over. -/
def readFraction : List Char → Option (Nat × List Char)
  | '.' :: rest =>
    let ds := rest.takeWhile Text.isDigit
    if ds.isEmpty then none
    else
      let kept := ds.take 9
      some (Decimal.value kept * Decimal.tenPow (9 - kept.length), rest.drop ds.length)
  | cs => some (0, cs)

/-- Two digits side by side. -/
def readPair : List Char → Option (Nat × List Char)
  | a :: b :: rest =>
    if Text.isDigit a && Text.isDigit b then some (Decimal.value [a, b], rest) else none
  | _ => none

/-- Hours and minutes of an offset, in seconds. -/
def readHoursMinutes (cs : List Char) : Option (Nat × List Char) := do
  let (hours, rest) ← readPair cs
  let (minutes, rest) ← readPair (rest.dropWhile fun c => c == ':' || Text.isBlank c)
  if 59 < minutes then none else some (hours * 3600 + minutes * 60, rest)

/-- The offset from UTC in seconds. -/
def readOffset (cs : List Char) : Option (Int × List Char) :=
  let cs := Text.trimStart cs
  if (cs.take 3).map Text.asciiLower = ['u', 't', 'c'] then some (0, cs.drop 3)
  else
    match cs with
    | 'Z' :: rest => some (0, rest)
    | 'z' :: rest => some (0, rest)
    | '+' :: rest => (readHoursMinutes rest).map fun (n, rest) => ((n : Int), rest)
    | '-' :: rest => (readHoursMinutes rest).map fun (n, rest) => (-(n : Int), rest)
    | '−' :: rest => (readHoursMinutes rest).map fun (n, rest) => (-(n : Int), rest)
    | _ => none

/-- The character between the date and the time. -/
def readDivider : List Char → Option (List Char)
  | c :: rest => if c == 'T' || c == 't' || c == ' ' then some rest else none
  | [] => none

/-- The calendar covers the years from `-yearLimit` up to, not including, `yearLimit`. -/
def yearLimit : Int := 262143

/-- Whether a year is one of the calendar's. -/
def coversYear (year : Int) : Bool :=
  -yearLimit ≤ year && year < yearLimit

/-- Whether the date of an instant in UTC is one of the calendar's. -/
def inCalendar (t : Instant) : Bool :=
  coversYear (dateOf (t.seconds / 86400)).1

/-- The instant that a text denotes. The calendar has to cover both the date as it is written and
the date in UTC, which an offset can carry into a neighbouring year. -/
def parse? (s : String) : Option Instant := do
  let (year, cs) ← readYear s.toList
  let (month, cs) ← readField 1 12 (← readMark '-' cs)
  let (day, cs) ← readField 1 31 (← readMark '-' cs)
  let (hour, cs) ← readField 0 23 (← readDivider cs)
  let (minute, cs) ← readField 0 59 (← readMark ':' cs)
  let (second, cs) ← readField 0 60 (← readMark ':' cs)
  let (nanos, cs) ← readFraction cs
  let (offset, cs) ← readOffset cs
  if !coversYear year || monthDays year month < day || 86400 ≤ offset.natAbs || !Text.allBlank cs
  then none
  else
    let leap := second == 60
    let clock := hour * 3600 + minute * 60 + if leap then 59 else second
    let t : Instant :=
      { seconds := daysOf year month day * 86400 + clock - offset
        nanos := nanos + if leap then 1000000000 else 0 }
    if t.inCalendar then some t else none

end Instant

end MatchingDecomp
