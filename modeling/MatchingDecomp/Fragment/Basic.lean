import MatchingDecomp.Fragment.Identifier
import MatchingDecomp.Json.Record

/-!
# Fragments

A fragment is a piece of assembly text together with the name of the function it defines and a note
of where it came from. The name is settled when the fragment is made: a usable hint, else the name
that the text gives, else a placeholder.
-/

namespace MatchingDecomp

open Text

/-- A piece of assembly text to decompile. -/
structure Fragment where
  text : String
  identifier : String
  origin : Option String := none
  deriving DecidableEq, Repr

namespace Fragment

/-- The name of a function that nothing names. -/
def placeholder : String := "decompiled_function"

/-- The fragment of a text, named by the text itself. -/
def ofText (text : String) : Fragment :=
  { text, identifier := (extractIdentifier text).getD placeholder }

/-- The fragment of a text with a proposed name. A hint that is no C identifier, blanks around it
aside, is passed over. -/
def withHint (text hint : String) : Fragment :=
  let name := trim hint.toList
  if isIdentifier name then { ofText text with identifier := String.ofList name } else ofText text

/-- The fragment with a note of where it came from. -/
def withOrigin (f : Fragment) (origin : String) : Fragment :=
  { f with origin := some origin }

/-- Whether there is nothing in the fragment but blanks. -/
def isBlank (f : Fragment) : Bool :=
  isBlankText f.text

/-- Whether the fragment has a name of its own. -/
def isNamed (f : Fragment) : Bool :=
  f.identifier != placeholder

/-! ### As JSON -/

/-- The record of a fragment. -/
def toJson (f : Fragment) : Json.Value :=
  .record [("text", .text f.text), ("identifier", .text f.identifier),
    ("origin", .optText f.origin)]

/-- The fragment of a record. Its name is taken as it is. -/
def ofJson? (v : Json.Value) : Option Fragment := do
  match ← Json.fields? ["text", "identifier", "origin"] .required v with
  | [text, identifier, origin] =>
    return {
      text := ← Json.required Json.Value.text? text
      identifier := ← Json.required Json.Value.text? identifier
      origin := ← Json.optional Json.Value.text? origin }
  | _ => none

end Fragment

end MatchingDecomp
