import MatchingDecomp.Json.Value

/-!
# Records in JSON

A record is read from an object by the names of its fields, or from an array by their order. In an
object unknown members are passed over, whatever they hold, but a known name may stand only once and
every name must be legible. In an array no element may be left over; whether trailing fields may be
missing is for the record to say.
-/

namespace MatchingDecomp.Json

/-- Whether an array may hold fewer elements than the record has fields. -/
inductive Trailing where
  | required
  | optional
  deriving DecidableEq, Repr

/-- The values of the named fields, in their order, with `none` for a field that is missing. -/
def fields? (names : List String) (trailing : Trailing) : Value → Option (List (Option Value))
  | .object ms =>
    if ms.any (fun m => m.1.isNone) then none
    else if names.any (fun n => 1 < ms.countP (fun m => m.1 == some n)) then none
    else some (names.map fun n => (ms.find? fun m => m.1 == some n).map Prod.snd)
  | .array vs =>
    if names.length < vs.length then none
    else if vs.length < names.length ∧ trailing = .required then none
    else some (vs.map some ++ List.replicate (names.length - vs.length) none)
  | _ => none

namespace Value

/-- The text of a legible string. -/
def text? : Value → Option String
  | .text s => some s
  | _ => none

/-- A truth value. -/
def bool? : Value → Option Bool
  | .bool b => some b
  | _ => none

/-- A natural number below a limit, written as a plain integer. -/
def natBelow? (limit : Nat) : Value → Option Nat
  | .number n => n.toNat?.filter (· < limit)
  | _ => none

/-- A 32-bit float. -/
def single? : Value → Option Single
  | .number n => n.toSingle?
  | _ => none

/-- A list, every element of which is read in the same way. -/
def list? {α : Type} (read : Value → Option α) : Value → Option (List α)
  | .array vs => vs.mapM read
  | _ => none

/-- A list of texts. -/
def texts? (v : Value) : Option (List String) :=
  v.list? text?

/-- One of a list of named choices: its name, or an object that maps the name to null. -/
def choice? {α : Type} (choices : List (String × α)) : Value → Option α
  | .text s => choices.lookup s
  | .object [(some s, .null)] => choices.lookup s
  | _ => none

end Value

/-- A field that must be present. -/
def required {α : Type} (read : Value → Option α) (v : Option Value) : Option α :=
  v.bind read

/-- A field that may be missing or null. -/
def optional {α : Type} (read : Value → Option α) : Option Value → Option (Option α)
  | none => some none
  | some .null => some none
  | some v => (read v).map some

/-- A field that has a default when it is missing. -/
def withDefault {α : Type} (read : Value → Option α) (default : α) : Option Value → Option α
  | none => some default
  | some v => read v

end MatchingDecomp.Json
