import MatchingDecomp.Text.Blank
import MatchingDecomp.Text.Word

/-!
# Options of the command line

The arguments after the file. An option with a value takes the argument after it, whatever that is;
the last value of an option counts. Arguments that are no option are noted and passed over. The
first option whose value is missing or is no function name ends the reading.
-/

namespace MatchingDecomp.CommandLine

open Text

/-- What an argument is. -/
inductive OptionName where
  | function
  | json
  | report
  | config
  deriving DecidableEq, Repr

/-- The option that an argument names. -/
def OptionName.ofArgument? (argument : String) : Option OptionName :=
  [("--function", .function), ("-f", .function), ("--json", .json), ("--report", .report),
    ("-r", .report), ("--config", .config), ("-c", .config)].lookup argument

/-- The full name of an option. -/
def OptionName.label : OptionName → String
  | .function => "--function"
  | .json => "--json"
  | .report => "--report"
  | .config => "--config"

/-- What the options ask for. -/
structure Options where
  function : Option String := none
  json : Bool := false
  report : Option String := none
  config : Option String := none
  /-- The arguments that are no option, in order. -/
  unknown : List String := []
  deriving DecidableEq, Repr

/-- Why the options cannot be used. -/
inductive OptionError where
  | missingValue (name : OptionName)
  | invalidFunction (value : String)
  deriving DecidableEq, Repr

/-- The text of the reason. -/
def OptionError.message : OptionError → String
  | .missingValue name => "Missing value for " ++ name.label
  | .invalidFunction value => "--function must be a C identifier, got '" ++ value ++ "'"

/-- Whether a text is a function name, blanks around it aside. -/
def isFunctionName (value : String) : Bool :=
  isIdentifier (trim value.toList)

/-- The options with a value given to one of them. -/
def Options.take (o : Options) (name : OptionName) (value : String) : Except OptionError Options :=
  match name with
  | .function =>
    if isFunctionName value then .ok { o with function := some value }
    else .error (.invalidFunction value)
  | .json => .ok o
  | .report => .ok { o with report := some value }
  | .config => .ok { o with config := some value }

/-- Read the arguments after the file. -/
def Options.read (o : Options) : List String → Options × Option OptionError
  | [] => (o, none)
  | argument :: rest =>
    match OptionName.ofArgument? argument with
    | none => Options.read { o with unknown := o.unknown ++ [argument] } rest
    | some .json => Options.read { o with json := true } rest
    | some name =>
      match rest with
      | [] => (o, some (.missingValue name))
      | value :: rest =>
        match o.take name value with
        | .ok o => Options.read o rest
        | .error e => (o, some e)

end MatchingDecomp.CommandLine
