import MatchingDecomp.Config.Json
import MatchingDecomp.Proofs.Json.Record

/-!
# Configuration files that mention some of the settings

A configuration file may give any of the settings, in any order and in any spelling, and anything
else beside them.  What it gives is taken from the file, and what it does not give is the default.

The members of such a file are a part of the full record of a configuration (`settings`) with other
members around it.  The reader of records has been followed through such a part already
(`fields?_of_perm`), so each setting is read by itself here: it is there or it is not, and if it is,
it reads back as it was written.

Main statement: `load_overrides`.
-/

namespace MatchingDecomp.Config

open Json

/-! ## Settings -/

/-- The settings of a configuration, as a file gives them. -/
def settings (c : Config) : List (String × Value) :=
  fieldNames.zip
    [.optText c.apiKey, .text c.baseUrl, .text c.modelProvider, .nat c.timeoutMs, .bool c.debug,
      .text c.generatorBackend.label, .text c.compilerBackend.label, .text c.verifierBackend.label,
      .text c.compilerPath, .texts c.compilerArgs, .text c.objdiffPath, .optText c.referenceDir,
      .nat c.historyLimit]

theorem toJson_eq (c : Config) : c.toJson = .record c.settings := rfl

theorem map_fst_settings (c : Config) : c.settings.map Prod.fst = fieldNames := rfl

theorem proper_toJson (c : Config) : c.toJson.Proper := by
  apply proper_record
  simp only [List.forall_mem_cons]
  exact ⟨Value.proper_optText _, .text _, .text _, .number (Numeral.proper_ofNat _), .bool _,
    .text _, .text _, .text _, .text _, Value.proper_texts _, .text _, Value.proper_optText _,
    .number (Numeral.proper_ofNat _), List.forall_mem_nil _⟩

/-- The numbers of a configuration fit into their settings. -/
structure Fits (c : Config) : Prop where
  timeout : c.timeoutMs < countLimit
  historyLimit : c.historyLimit < countLimit

/-- The configuration that has the named settings of another one, and the defaults elsewhere. -/
def overriding (c : Config) (given : List String) : Config :=
  let giver (name : String) : Config := if name ∈ given then c else {}
  { apiKey := (giver "api_key").apiKey
    baseUrl := (giver "base_url").baseUrl
    modelProvider := (giver "model_provider").modelProvider
    timeoutMs := (giver "timeout_ms").timeoutMs
    debug := (giver "debug").debug
    generatorBackend := (giver "generator_backend").generatorBackend
    compilerBackend := (giver "compiler_backend").compilerBackend
    verifierBackend := (giver "verifier_backend").verifierBackend
    compilerPath := (giver "compiler_path").compilerPath
    compilerArgs := (giver "compiler_args").compilerArgs
    objdiffPath := (giver "objdiff_path").objdiffPath
    referenceDir := (giver "reference_dir").referenceDir
    historyLimit := (giver "history_limit").historyLimit }

theorem overriding_fieldNames (c : Config) : c.overriding fieldNames = c := rfl

/-! ## Reading -/

section

variable {c : Config} {given : List String}

theorem choice?_label (kind : BackendKind) :
    (Value.text kind.label).choice? BackendKind.labels = some kind := by
  cases kind <;> rfl

/-- A setting is read from the file if it is there, and otherwise it is the default. -/
theorem withDefault_setting {α : Type} {read : Value → Option α} {v : Value} (field : Config → α)
    (hread : read v = some (field c)) (name : String) :
    withDefault read (field {}) (if name ∈ given then some v else none) =
      some (field (if name ∈ given then c else {})) := by
  split
  · exact hread
  · rfl

theorem optional_setting (field : Config → Option String) (hnone : field {} = none)
    (name : String) :
    optional Value.text? (if name ∈ given then some (.optText (field c)) else none) =
      some (field (if name ∈ given then c else {})) := by
  split
  · exact optional_optText (field c)
  · exact congrArg some hnone.symm

/-- Some of the settings, in any order and with other members around them. -/
theorem ofJson?_part (hfits : c.Fits) {extras members : List (String × Value)}
    (hextras : ∀ e ∈ extras, e.1 ∉ fieldNames)
    (hperm : members.Perm (c.settings.filter (fun m => m.1 ∈ given) ++ extras)) :
    ofJson? (.record members) = some (c.overriding given) := by
  have hnodup : (c.settings.map Prod.fst).Nodup := by
    rw [map_fst_settings]
    decide
  have hfields : fields? fieldNames .optional (.record members) =
      some (c.settings.map fun m => if m.1 ∈ given then some m.2 else none) :=
    fields?_of_perm hnodup hextras hperm .optional
  have htext (s : String) : (Value.text s).text? = some s := rfl
  have hbool (b : Bool) : (Value.bool b).bool? = some b := rfl
  rw [ofJson?, hfields]
  dsimp only [Option.bind_eq_bind, Option.bind_some]
  simp only [settings, fieldNames, List.zip_cons_cons, List.zip_nil_right, List.map_cons,
    List.map_nil]
  simp only [optional_setting apiKey rfl, optional_setting referenceDir rfl,
    withDefault_setting baseUrl (htext _), withDefault_setting modelProvider (htext _),
    withDefault_setting compilerPath (htext _), withDefault_setting objdiffPath (htext _),
    withDefault_setting generatorBackend (choice?_label _),
    withDefault_setting compilerBackend (choice?_label _),
    withDefault_setting verifierBackend (choice?_label _),
    withDefault_setting timeoutMs (natBelow?_nat hfits.timeout),
    withDefault_setting historyLimit (natBelow?_nat hfits.historyLimit),
    withDefault_setting compilerArgs (texts?_texts _), withDefault_setting debug (hbool _),
    Option.bind_some]
  rfl

end

theorem load_of_parse {m : Machine} {path text : String} {v : Value} {c : Config}
    (hfile : m.readText path = some text) (hparse : parse? text = some v)
    (hread : ofJson? v = some c) : load m path = .ok c := by
  rw [load, hfile]
  dsimp only
  rw [hparse, Option.bind_some, hread]

/-! ## The main statement -/

/-- **A configuration file overrides exactly what it mentions.**  A file that gives some settings
of a configuration, in any order, in any spelling and with any other members around them, is loaded
as the configuration with these settings and the defaults elsewhere.  So the two written forms of a
configuration, which give all settings, are loaded as that configuration. -/
theorem load_overrides {c : Config} (hfits : c.Fits) (m : Machine) (path : String) :
    (∀ (given : List String) (extras members : List (String × Value)) (text : String),
      (∀ e ∈ extras, e.1 ∉ fieldNames) →
      members.Perm (c.settings.filter (fun s => s.1 ∈ given) ++ extras) →
      Document (.record members) text → m.readText path = some text →
        load m path = .ok (c.overriding given)) ∧
      (m.readText path = some c.toJson.compact ∨ m.readText path = some c.toJson.pretty →
        load m path = .ok c) := by
  constructor
  · intro given extras members text hextras hperm hdocument hfile
    exact load_of_parse hfile hdocument.parse?_eq (ofJson?_part hfits hextras hperm)
  · intro hfile
    have hall : c.settings.Perm (c.settings.filter (fun s => s.1 ∈ fieldNames) ++ []) :=
      .of_eq (by rfl)
    have hread : ofJson? c.toJson = some c := by
      rw [toJson_eq, ofJson?_part hfits (List.forall_mem_nil _) hall, overriding_fieldNames]
    rcases hfile with hcompact | hpretty
    · exact load_of_parse hcompact c.proper_toJson.parse?_compact hread
    · exact load_of_parse hpretty c.proper_toJson.parse?_pretty hread

/-- Two settings out of order, and between them a member of which nothing is known. -/
def partialMembers : List (String × Value) :=
  [("history_limit", .nat 7), ("notes", .record [("debug", .array [.record [], .null])]),
    ("api_key", .text "k")]

/-- A machine with these members in a file. -/
def partialMachine : Machine where
  files := ⟨[(["c.json"], .file (Utf8.ofString (Value.record partialMembers).pretty))]⟩

/-- Of a configuration with four settings of its own, a file that gives two of them. -/
theorem load_partialMembers :
    let c : Config :=
      { apiKey := some "k", debug := true, referenceDir := some "ref", historyLimit := 7 }
    c.Fits ∧ load partialMachine "c.json" = .ok { apiKey := some "k", historyLimit := 7 } := by
  intro c
  let given := ["history_limit", "api_key"]
  let notes : String × Value := ("notes", .record [("debug", .array [.record [], .null])])
  have hfits : c.Fits := ⟨by decide, by decide⟩
  have hnotes : ∀ e ∈ [notes], e.1 ∉ fieldNames := List.forall_mem_singleton.mpr (by decide)
  have hpart : c.settings.filter (fun s => s.1 ∈ given) =
      [("api_key", .text "k"), ("history_limit", .nat 7)] := rfl
  have hperm : partialMembers.Perm (c.settings.filter (fun s => s.1 ∈ given) ++ [notes]) := by
    rw [hpart]
    change ([_, _] ++ [_]).Perm ([_] ++ [_, _])
    exact List.perm_append_comm
  have hproper : (Value.record partialMembers).Proper := by
    have hitems : (Value.array [.record [], .null]).Proper := by
      apply Value.Proper.array
      simp only [List.forall_mem_cons]
      exact ⟨.object (List.forall_mem_nil _), .null, List.forall_mem_nil _⟩
    apply Value.Proper.object
    simp only [partialMembers, List.map_cons, List.map_nil, List.forall_mem_cons]
    exact ⟨.number (Numeral.proper_ofNat 7), .object (List.forall_mem_singleton.mpr hitems),
      .text "k", List.forall_mem_nil _⟩
  have hfile : partialMachine.readText "c.json" = some (Value.record partialMembers).pretty := by
    decide +kernel
  have hload := (load_overrides hfits partialMachine "c.json").1 given [notes] partialMembers
  exact ⟨hfits, hload _ hnotes hperm (hproper.spelled_prettyAt 0).document hfile⟩

end MatchingDecomp.Config
