import MatchingDecomp.Proofs.CommandLine.Agreement

/-!
# Options are read group by group

The arguments after the file fall into groups (`Group`): an option and its value, the flag `--json`,
or a single argument that names no option.  This is how any list of arguments is read, from the
front and as far as it goes (`exists_groups`); what may be left over is an option whose value is
missing or is no function name (`Fault`).  The value of an option belongs to its group whatever it
is, so it does not matter if it looks like an option itself.

* `read_group`: one group is entered into the options, and the reading goes on behind it;
* `read_groups`: so are any number of groups, one after the other;
* `foldl_enter`: entering groups one after the other leaves the last value of each option;
* `read_fault`: the reading ends at a fault.

The arguments can also be read by their places, one turn of a loop after the other (`turn`).  Each
turn goes on at a later place or is the last one, so there are at most as many turns as arguments
and one more, and the loop ends with the same options (`ends_read`).

Main statement: `options_compositional`.
-/

namespace MatchingDecomp.CommandLine

open Text

/-! ## Spellings -/

namespace OptionName

/-- The ways to write an option. -/
def spellings : OptionName → List String
  | function => ["--function", "-f"]
  | json => ["--json"]
  | report => ["--report", "-r"]
  | config => ["--config", "-c"]

theorem ofArgument?_eq_some_iff {argument : String} {name : OptionName} :
    ofArgument? argument = some name ↔ argument ∈ name.spellings := by
  by_cases hknown : argument ∈ ["--function", "-f", "--json", "--report", "-r", "--config", "-c"]
  · simp only [List.mem_cons, List.not_mem_nil, or_false] at hknown
    rcases hknown with rfl | rfl | rfl | rfl | rfl | rfl | rfl <;> cases name <;> decide
  · have hnone : ofArgument? argument = none := by
      rw [ofArgument?, List.lookup_eq_none_iff]
      simpa using hknown
    rw [hnone]
    refine iff_of_false nofun ?_
    intro hspelling
    apply hknown
    cases name <;> simp [spellings] at hspelling ⊢ <;> tauto

theorem ofArgument?_eq_none_iff {argument : String} :
    ofArgument? argument = none ↔ ∀ name : OptionName, argument ∉ name.spellings := by
  simp only [Option.eq_none_iff_forall_ne_some, ne_eq, ofArgument?_eq_some_iff]

end OptionName

/-! ## Groups -/

/-- Arguments that are read together. -/
inductive Group where
  /-- An option with its value; a value for `--function` has to be a function name. -/
  | valued (name : OptionName) (spelling value : String) (hname : name ≠ .json)
      (hspelling : spelling ∈ name.spellings)
      (hvalue : name = .function → isIdentifier (trim value.toList) = true)
  | flag
  /-- An argument that names no option. -/
  | unknown (argument : String) (hunknown : ∀ name : OptionName, argument ∉ name.spellings)

namespace Group

/-- The arguments of a group. -/
def arguments : Group → List String
  | valued _ spelling value .. => [spelling, value]
  | flag => ["--json"]
  | unknown argument _ => [argument]

/-- The option of a group. -/
def option? : Group → Option OptionName
  | valued name .. => some name
  | flag => some .json
  | unknown .. => none

/-- The value in a group. -/
def value? : Group → Option String
  | valued _ _ value .. => some value
  | flag | unknown .. => none

/-- The argument of a group without an option. -/
def unknown? : Group → Option String
  | unknown argument _ => some argument
  | valued .. | flag => none

end Group

/-- The arguments of groups, one group after the other. -/
def argumentsOf (groups : List Group) : List String :=
  groups.flatMap Group.arguments

/-- What the groups of an option give, in order; a flag gives no value. -/
def given (name : OptionName) (groups : List Group) : List (Option String) :=
  (groups.filter fun g => g.option? = some name).map Group.value?

/-- The value in the last group of an option. -/
def lastValue? (name : OptionName) (groups : List Group) : Option String :=
  (given name groups).getLast?.join

/-- What groups ask for: of each option the last value, and the flag if it is there at all. -/
def optionsOf (groups : List Group) : Options where
  function := lastValue? .function groups
  json := groups.any fun g => g.option? = some .json
  report := lastValue? .report groups
  config := lastValue? .config groups
  unknown := groups.filterMap Group.unknown?

/-- The options with a value that is taken as it is. -/
def Options.put (o : Options) (name : OptionName) (value : String) : Options :=
  match name with
  | .function => { o with function := some value }
  | .json => o
  | .report => { o with report := some value }
  | .config => { o with config := some value }

/-- The options with one more group. -/
def Group.enter (o : Options) : Group → Options
  | .valued name _ value .. => o.put name value
  | .flag => { o with json := true }
  | .unknown argument _ => { o with unknown := o.unknown ++ [argument] }

/-! ## Entering groups -/

theorem given_concat (name : OptionName) (groups : List Group) (g : Group) :
    given name (groups ++ [g]) =
      given name groups ++ (if g.option? = some name then [g.value?] else []) := by
  rw [given, List.filter_append, List.map_append, given]
  congr 1
  by_cases hname : g.option? = some name <;> simp [hname]

theorem lastValue?_concat (name : OptionName) (groups : List Group) (g : Group) :
    lastValue? name (groups ++ [g]) =
      if g.option? = some name then g.value? else lastValue? name groups := by
  rw [lastValue?, given_concat]
  split
  · rw [List.getLast?_concat]
    rfl
  · rw [List.append_nil, lastValue?]

theorem optionsOf_concat (groups : List Group) (g : Group) :
    optionsOf (groups ++ [g]) = g.enter (optionsOf groups) := by
  simp only [optionsOf, lastValue?_concat, List.any_append, List.any_cons, List.any_nil,
    List.filterMap_append, Bool.or_false]
  cases g with
  | valued name spelling value hname hspelling hvalue =>
      cases name with
      | json => exact absurd rfl hname
      | function | report | config =>
          simp [Group.option?, Group.value?, Group.unknown?, Group.enter, Options.put]
  | flag => simp [Group.option?, Group.unknown?, Group.enter]
  | unknown argument hunknown => simp [Group.option?, Group.unknown?, Group.enter]

theorem foldl_enter (groups : List Group) : groups.foldl Group.enter {} = optionsOf groups := by
  induction groups using List.reverseRecOn with
  | nil => rfl
  | append_singleton groups g ih => rw [List.foldl_concat, ih, optionsOf_concat]

/-! ## Reading groups -/

theorem Options.take_eq_ok {name : OptionName} {value : String}
    (hvalue : name = .function → isIdentifier (trim value.toList) = true) (o : Options) :
    o.take name value = .ok (o.put name value) := by
  cases name with
  | function => exact if_pos (hvalue rfl)
  | json | report | config => rfl

theorem Options.read_spelling {name : OptionName} {spelling : String} (hname : name ≠ .json)
    (hspelling : spelling ∈ name.spellings) (o : Options) (rest : List String) :
    o.read (spelling :: rest) =
      match rest with
      | [] => (o, some (.missingValue name))
      | value :: rest =>
        match o.take name value with
        | .ok o => o.read rest
        | .error e => (o, some e) := by
  rw [Options.read.eq_def]
  dsimp only
  rw [OptionName.ofArgument?_eq_some_iff.mpr hspelling]
  cases name with
  | json => exact absurd rfl hname
  | function | report | config => rfl

/-- A group is entered, and the reading goes on behind it. -/
theorem read_group (o : Options) (g : Group) (rest : List String) :
    o.read (g.arguments ++ rest) = (g.enter o).read rest := by
  cases g with
  | valued name spelling value hname hspelling hvalue =>
      change o.read (spelling :: value :: rest) = (o.put name value).read rest
      rw [Options.read_spelling hname hspelling]
      dsimp only
      rw [Options.take_eq_ok hvalue]
  | flag =>
      change o.read ("--json" :: rest) = _
      rw [Options.read.eq_def]
      rfl
  | unknown argument hunknown =>
      change o.read (argument :: rest) = _
      rw [Options.read.eq_def]
      dsimp only
      rw [OptionName.ofArgument?_eq_none_iff.mpr hunknown]
      rfl

theorem read_groups (o : Options) (groups : List Group) (rest : List String) :
    o.read (argumentsOf groups ++ rest) = (groups.foldl Group.enter o).read rest := by
  induction groups generalizing o with
  | nil => rfl
  | cons g groups ih =>
      rw [argumentsOf, List.flatMap_cons, List.append_assoc, read_group, List.foldl_cons]
      exact ih (g.enter o)

/-! ## Faults -/

/-- Arguments at which the reading ends. -/
inductive Fault where
  /-- An option at the very end, without its value. -/
  | valueMissing (name : OptionName) (spelling : String) (hname : name ≠ .json)
      (hspelling : spelling ∈ name.spellings)
  /-- A value for `--function` that is no function name, with whatever comes after it. -/
  | nameInvalid (spelling value : String) (rest : List String)
      (hspelling : spelling ∈ OptionName.function.spellings)
      (hvalue : isIdentifier (trim value.toList) = false)

namespace Fault

/-- The arguments of a fault, up to the last one. -/
def arguments : Fault → List String
  | valueMissing _ spelling .. => [spelling]
  | nameInvalid spelling value rest .. => spelling :: value :: rest

/-- What is wrong. -/
def error : Fault → OptionError
  | valueMissing name .. => .missingValue name
  | nameInvalid _ value .. => .invalidFunction value

end Fault

theorem read_fault (o : Options) (fault : Fault) :
    o.read fault.arguments = (o, some fault.error) := by
  cases fault with
  | valueMissing name spelling hname hspelling => exact Options.read_spelling hname hspelling o []
  | nameInvalid spelling value rest hspelling hvalue =>
      have htake : o.take .function value = .error (.invalidFunction value) :=
        if_neg (Bool.eq_false_iff.mp hvalue)
      have hname : OptionName.function ≠ .json := nofun
      change o.read (spelling :: value :: rest) = _
      rw [Options.read_spelling hname hspelling]
      dsimp only
      rw [htake]
      rfl

theorem read_argumentsOf (groups : List Group) :
    Options.read {} (argumentsOf groups) = (optionsOf groups, none) := by
  have hread := read_groups {} groups []
  rwa [List.append_nil, foldl_enter, Options.read] at hread

theorem read_argumentsOf_fault (groups : List Group) (fault : Fault) :
    Options.read {} (argumentsOf groups ++ fault.arguments) =
      (optionsOf groups, some fault.error) := by
  rw [read_groups, foldl_enter, read_fault]

/-! ## Finding the groups -/

/-- Arguments fall into groups, with or without a fault behind them. -/
def Grouped (arguments : List String) : Prop :=
  ∃ groups, arguments = argumentsOf groups ∨
    ∃ fault : Fault, arguments = argumentsOf groups ++ fault.arguments

theorem Grouped.cons (g : Group) {rest : List String} (hrest : Grouped rest) :
    Grouped (g.arguments ++ rest) := by
  obtain ⟨groups, rfl | ⟨fault, rfl⟩⟩ := hrest
  · exact ⟨g :: groups, .inl rfl⟩
  · exact ⟨g :: groups, .inr ⟨fault, (List.append_assoc ..).symm⟩⟩

theorem Fault.grouped (fault : Fault) : Grouped fault.arguments :=
  ⟨[], .inr ⟨fault, rfl⟩⟩

/-- A value is refused only if it is one for `--function` and no function name. -/
theorem Options.take_eq_error {o : Options} {name : OptionName} {value : String} {e : OptionError}
    (htake : o.take name value = .error e) :
    name = .function ∧ isIdentifier (trim value.toList) = false := by
  by_cases hvalue : name = .function → isIdentifier (trim value.toList) = true
  · rw [take_eq_ok hvalue] at htake
    cases htake
  · rw [Classical.not_imp, Bool.not_eq_true] at hvalue
    exact hvalue

theorem Options.isIdentifier_of_take {o o' : Options} {value : String}
    (htake : o.take .function value = .ok o') : isIdentifier (trim value.toList) = true := by
  by_contra hvalue
  have herror : o.take .function value = .error (.invalidFunction value) := if_neg hvalue
  rw [herror] at htake
  cases htake

/-- Any arguments fall into groups, and are read in these groups. -/
theorem exists_groups (arguments : List String) : Grouped arguments := by
  fun_induction Options.read {} arguments with
  | case1 => exact ⟨[], .inl rfl⟩
  | case2 o argument rest hnone ih =>
      exact ih.cons (.unknown argument (OptionName.ofArgument?_eq_none_iff.mp hnone))
  | case3 o argument rest hjson ih =>
      obtain rfl := List.mem_singleton.mp (OptionName.ofArgument?_eq_some_iff.mp hjson)
      exact ih.cons .flag
  | case4 o argument name hname hoption =>
      have hspelling := OptionName.ofArgument?_eq_some_iff.mp hoption
      exact (Fault.valueMissing name argument hname hspelling).grouped
  | case5 o argument name hname hoption value rest o' htake ih =>
      have hspelling := OptionName.ofArgument?_eq_some_iff.mp hoption
      have hvalue : name = .function → isIdentifier (trim value.toList) = true := by
        intro hfunction
        rw [hfunction] at htake
        exact Options.isIdentifier_of_take htake
      exact ih.cons (.valued name argument value hname hspelling hvalue)
  | case6 o argument name hname hoption value rest e htake =>
      obtain ⟨rfl, hvalue⟩ := Options.take_eq_error htake
      have hspelling := OptionName.ofArgument?_eq_some_iff.mp hoption
      exact (Fault.nameInvalid argument value rest hspelling hvalue).grouped

/-! ## Reading by places -/

/-- What comes of one turn: the reading goes on at a place, or it is over. -/
inductive Turn where
  | onward (place : Nat) (o : Options)
  | over (o : Options) (error : Option OptionError)

/-- One turn of a reading that keeps its place among the arguments. -/
def turn (arguments : List String) (place : Nat) (o : Options) : Turn :=
  match arguments[place]? with
  | none => .over o none
  | some argument =>
    match OptionName.ofArgument? argument with
    | none => .onward (place + 1) { o with unknown := o.unknown ++ [argument] }
    | some .json => .onward (place + 1) { o with json := true }
    | some name =>
      match arguments[place + 1]? with
      | none => .over o (some (.missingValue name))
      | some value =>
        match o.take name value with
        | .ok o => .onward (place + 2) o
        | .error e => .over o (some e)

/-- The reading goes on for a number of turns, and the turn after that is the last one. -/
inductive Ends (arguments : List String) :
    Nat → Nat → Options → Options × Option OptionError → Prop where
  | last {place : Nat} {o o' : Options} {error : Option OptionError}
      (hturn : turn arguments place o = .over o' error) :
      Ends arguments 0 place o (o', error)
  | onward {turns place place' : Nat} {o o' : Options} {result : Options × Option OptionError}
      (hturn : turn arguments place o = .onward place' o')
      (hends : Ends arguments turns place' o' result) :
      Ends arguments (turns + 1) place o result

section

variable {arguments : List String} {place : Nat} {argument : String}

theorem getElem?_of_drop {rest : List String} (hdrop : arguments.drop place = argument :: rest) :
    arguments[place]? = some argument := by
  rw [← List.head?_drop, hdrop, List.head?_cons]

theorem drop_succ_of_drop {rest : List String} (hdrop : arguments.drop place = argument :: rest) :
    arguments.drop (place + 1) = rest := by
  rw [← List.tail_drop, hdrop, List.tail_cons]

theorem turn_of_option {name : OptionName} (hname : name ≠ .json)
    (hargument : arguments[place]? = some argument)
    (hoption : OptionName.ofArgument? argument = some name) (o : Options) :
    turn arguments place o =
      match arguments[place + 1]? with
      | none => .over o (some (.missingValue name))
      | some value =>
        match o.take name value with
        | .ok o => .onward (place + 2) o
        | .error e => .over o (some e) := by
  rw [turn, hargument]
  dsimp only
  rw [hoption]
  cases name with
  | json => exact absurd rfl hname
  | function | report | config => rfl

end

/-- From any place, the reading ends with what is read from the arguments that are left there. -/
theorem ends_read (arguments : List String) (o : Options) (rest : List String) :
    ∀ place, arguments.drop place = rest →
      ∃ turns ≤ rest.length, Ends arguments turns place o (o.read rest) := by
  fun_induction Options.read o rest with
  | case1 o =>
      intro place hdrop
      have hend : arguments[place]? = none := by
        rw [← List.head?_drop, hdrop, List.head?_nil]
      refine ⟨0, Nat.le_refl 0, .last ?_⟩
      rw [turn, hend]
  | case2 o argument rest hnone ih =>
      intro place hdrop
      obtain ⟨turns, hturns, hends⟩ := ih (place + 1) (drop_succ_of_drop hdrop)
      refine ⟨turns + 1, Nat.succ_le_succ hturns, .onward ?_ hends⟩
      rw [turn, getElem?_of_drop hdrop]
      dsimp only
      rw [hnone]
  | case3 o argument rest hjson ih =>
      intro place hdrop
      obtain ⟨turns, hturns, hends⟩ := ih (place + 1) (drop_succ_of_drop hdrop)
      refine ⟨turns + 1, Nat.succ_le_succ hturns, .onward ?_ hends⟩
      rw [turn, getElem?_of_drop hdrop]
      dsimp only
      rw [hjson]
  | case4 o argument name hname hoption =>
      intro place hdrop
      have hend : arguments[place + 1]? = none := by
        rw [← List.head?_drop, drop_succ_of_drop hdrop, List.head?_nil]
      refine ⟨0, Nat.zero_le _, .last ?_⟩
      rw [turn_of_option hname (getElem?_of_drop hdrop) hoption, hend]
  | case5 o argument name hname hoption value rest o' htake ih =>
      intro place hdrop
      have hafter := drop_succ_of_drop hdrop
      obtain ⟨turns, hturns, hends⟩ := ih (place + 2) (drop_succ_of_drop hafter)
      refine ⟨turns + 1, ?_, .onward ?_ hends⟩
      · rw [List.length_cons, List.length_cons]
        omega
      · rw [turn_of_option hname (getElem?_of_drop hdrop) hoption, getElem?_of_drop hafter]
        dsimp only
        rw [htake]
  | case6 o argument name hname hoption value rest e htake =>
      intro place hdrop
      refine ⟨0, Nat.zero_le _, .last ?_⟩
      rw [turn_of_option hname (getElem?_of_drop hdrop) hoption,
        getElem?_of_drop (drop_succ_of_drop hdrop)]
      dsimp only
      rw [htake]

/-! ## The main statement -/

/-- What the options ask for, the arguments that are no option aside. -/
def Options.settings (o : Options) : Options :=
  { o with unknown := [] }

/-- Groups that give each option the same values, in the same order, ask for the same. -/
theorem settings_optionsOf_congr {groups others : List Group}
    (hgiven : ∀ name, given name groups = given name others) :
    (optionsOf groups).settings = (optionsOf others).settings := by
  have hjson (groups : List Group) :
      (groups.any fun g => g.option? = some .json) = !(given .json groups).isEmpty := by
    rw [Bool.eq_iff_iff]
    simp [given]
  simp only [Options.settings, optionsOf, lastValue?, hjson, hgiven]

/-- A command whose options cannot be used does nothing: what it prints is settled before it looks
at the machine or the environment. -/
theorem run_of_fault (program : String) {first : String} (hfirst : first.toList.head? ≠ some '-')
    {rest : List String} {o : Options} {e : OptionError}
    (hoptions : Options.read {} rest = (o, some e)) (env : Config.Environment) (m : Machine) :
    run program (first :: rest) env m =
      ({ output := notes o ++ ["Error: " ++ e.message] }, m) := by
  obtain ⟨hversion, husage⟩ := names_file hfirst
  simp only [run, hversion, husage, hoptions, Bool.false_eq_true, if_false]
  rfl

/-- **Options are read group by group.**  The loop over the arguments, from the place at which the
options begin, ends after at most one more turn than there are arguments left, and these fall into
groups, with or without a fault behind them.  Groups ask for the last value of each option, for the
flag if it is among them, and for nothing else; so only the values of each option and their order
count, and neither how an option is written nor how the groups of different options are mixed.  A
fault ends the reading, and the command with it: what it prints depends on nothing but its
arguments, and the machine stays as it is. -/
theorem options_compositional :
    (∀ before rest : List String, Grouped rest ∧
      ∃ turns ≤ rest.length,
        Ends (before ++ rest) turns before.length {} (Options.read {} rest)) ∧
      (∀ groups : List Group,
        Options.read {} (argumentsOf groups) = (optionsOf groups, none)) ∧
      (∀ groups others : List Group, (∀ name, given name groups = given name others) →
        (Options.read {} (argumentsOf groups)).1.settings =
          (Options.read {} (argumentsOf others)).1.settings) ∧
      (∀ (groups : List Group) (fault : Fault) (program first : String) (env : Config.Environment)
        (m : Machine), first.toList.head? ≠ some '-' →
          Options.read {} (argumentsOf groups ++ fault.arguments) =
              (optionsOf groups, some fault.error) ∧
            run program (first :: (argumentsOf groups ++ fault.arguments)) env m =
              ({ output := notes (optionsOf groups) ++ ["Error: " ++ fault.error.message] },
                m)) := by
  refine ⟨?_, read_argumentsOf, ?_, ?_⟩
  · intro before rest
    exact ⟨exists_groups rest, ends_read (before ++ rest) {} rest before.length List.drop_left⟩
  · intro groups others hgiven
    rw [read_argumentsOf, read_argumentsOf]
    exact settings_optionsOf_congr hgiven
  · intro groups fault program first env m hfirst
    have hread := read_argumentsOf_fault groups fault
    exact ⟨hread, run_of_fault program hfirst hread env m⟩

/-- Values that look like options, the last one of which counts, and a function name that is none
behind them. -/
theorem options_of_misleading_values :
    let arguments := ["--report", "--json", "x", "-r", "-f"]
    Options.read {} arguments = ({ report := some "-f", unknown := ["x"] }, none) ∧
      run "decomp" ("f.s" :: (arguments ++ ["--function", "9lives", "-c", "c.json"]))
          (fun _ => none) {} =
        ({ output := ["Unknown argument: x",
            "Error: --function must be a C identifier, got '9lives'"] }, {}) := by
  intro arguments
  have hunknown : ∀ name : OptionName, "x" ∉ name.spellings := by
    intro name
    cases name <;> decide
  let groups : List Group :=
    [.valued .report "--report" "--json" nofun (by decide) nofun, .unknown "x" hunknown,
      .valued .report "-r" "-f" nofun (by decide) nofun]
  let fault : Fault := .nameInvalid "--function" "9lives" ["-c", "c.json"] (by decide) (by decide)
  have hasked : optionsOf groups = { report := some "-f", unknown := ["x"] } := rfl
  obtain ⟨-, hgroups, -, hfault⟩ := options_compositional
  constructor
  · have hread := hgroups groups
    rwa [hasked] at hread
  · have hfirst : "f.s".toList.head? ≠ some '-' := by decide
    exact (hfault groups fault "decomp" "f.s" (fun _ => none) {} hfirst).2

end MatchingDecomp.CommandLine
