import Mathlib.Data.List.Nodup
import Mathlib.Logic.Function.Basic
import MatchingDecomp.Config.Environment
import MatchingDecomp.Proofs.Text.Blank

/-!
# Each variable sets one setting

A configuration has thirteen settings, and each of them has a variable of its own (`Setting`).  What
the environment makes of a setting is one and the same for all of them (`of_ofEnvironment`):

  the value of its variable, if that is not blank and can be read, and otherwise the default.

So a setting depends on its own variable and on no other one, and whatever cannot be read leaves the
default.  How a value is read differs from setting to setting (`Setting.read`).  Seven of the
readers do not mind blanks around the value: six look at it through `trim`, and one takes it apart
into words.  Which texts are numbers and which are kinds of backends is said here without the
readers (`IsCount`, `IsKind`).

Main statement: `variables_independent`.
-/

namespace MatchingDecomp.Config

open Text

/-! ## Settings and their variables -/

/-- What can be set in a configuration. -/
inductive Setting where
  | apiKey
  | baseUrl
  | modelProvider
  | timeoutMs
  | debug
  | generatorBackend
  | compilerBackend
  | verifierBackend
  | compilerPath
  | compilerArgs
  | objdiffPath
  | referenceDir
  | historyLimit
  deriving DecidableEq

namespace Setting

/-- What a setting can be set to. -/
def Value : Setting → Type
  | apiKey | referenceDir => Option String
  | baseUrl | modelProvider | compilerPath | objdiffPath => String
  | timeoutMs | historyLimit => Nat
  | debug => Bool
  | generatorBackend | compilerBackend | verifierBackend => BackendKind
  | compilerArgs => List String

/-- The setting in a configuration. -/
def of : (s : Setting) → Config → s.Value
  | apiKey => Config.apiKey
  | baseUrl => Config.baseUrl
  | modelProvider => Config.modelProvider
  | timeoutMs => Config.timeoutMs
  | debug => Config.debug
  | generatorBackend => Config.generatorBackend
  | compilerBackend => Config.compilerBackend
  | verifierBackend => Config.verifierBackend
  | compilerPath => Config.compilerPath
  | compilerArgs => Config.compilerArgs
  | objdiffPath => Config.objdiffPath
  | referenceDir => Config.referenceDir
  | historyLimit => Config.historyLimit

/-- The variable of a setting. -/
def variableName : Setting → String
  | apiKey => "DECOMP_API_KEY"
  | baseUrl => "DECOMP_BASE_URL"
  | modelProvider => "DECOMP_MODEL_PROVIDER"
  | timeoutMs => "DECOMP_TIMEOUT_MS"
  | debug => "DECOMP_DEBUG"
  | generatorBackend => "DECOMP_GENERATOR"
  | compilerBackend => "DECOMP_COMPILER"
  | verifierBackend => "DECOMP_VERIFIER"
  | compilerPath => "DECOMP_COMPILER_PATH"
  | compilerArgs => "DECOMP_COMPILER_ARGS"
  | objdiffPath => "DECOMP_OBJDIFF_PATH"
  | referenceDir => "DECOMP_REFERENCE_DIR"
  | historyLimit => "DECOMP_HISTORY_LIMIT"

/-- Every setting, in order. -/
def all : List Setting :=
  [apiKey, baseUrl, modelProvider, timeoutMs, debug, generatorBackend, compilerBackend,
    verifierBackend, compilerPath, compilerArgs, objdiffPath, referenceDir, historyLimit]

theorem mem_all (s : Setting) : s ∈ all := by
  cases s <;> decide

theorem map_variableName_all : all.map variableName = variableNames := rfl

theorem variableName_mem (s : Setting) : s.variableName ∈ variableNames :=
  List.mem_map_of_mem (mem_all s)

theorem variableName_ne {s t : Setting} (hne : t ≠ s) : t.variableName ≠ s.variableName := by
  have hnodup : (all.map variableName).Nodup := by
    rw [map_variableName_all]
    decide
  intro hname
  exact hne (List.inj_on_of_nodup_map hnodup (mem_all t) (mem_all s) hname)

/-- A configuration is its settings. -/
theorem ext_of {c d : Config} (hsettings : ∀ s : Setting, s.of c = s.of d) : c = d := by
  cases c
  cases d
  rw [Config.mk.injEq]
  exact ⟨hsettings apiKey, hsettings baseUrl, hsettings modelProvider, hsettings timeoutMs,
    hsettings debug, hsettings generatorBackend, hsettings compilerBackend,
    hsettings verifierBackend, hsettings compilerPath, hsettings compilerArgs,
    hsettings objdiffPath, hsettings referenceDir, hsettings historyLimit⟩

/-! ## Reading a setting -/

/-- What a value that is not blank sets a setting to, if it can be read. -/
def read : (s : Setting) → String → Option s.Value
  | apiKey | referenceDir => fun text => some (some text)
  | baseUrl | modelProvider | compilerPath | objdiffPath => fun text => some text
  | timeoutMs | historyLimit => parseCount?
  | debug => fun text => some (parseFlag text)
  | generatorBackend | compilerBackend | verifierBackend => parseKind?
  | compilerArgs => fun text => some (parseWords text)

/-- A setting is read from its own variable, and from no other one. -/
theorem of_ofEnvironment (env : Environment) (s : Setting) :
    s.of (ofEnvironment env) = ((given? env s.variableName).bind s.read).getD (s.of {}) := by
  cases s <;> simp only [of, ofEnvironment, variableName, read] <;>
    cases given? env _ <;> rfl

/-- A setting that is not given, or whose value cannot be read, has its default. -/
theorem of_ofEnvironment_of_unread {env : Environment} {s : Setting}
    (hunread : ∀ text, env s.variableName = some text → isBlankText text = false →
      s.read text = none) :
    s.of (ofEnvironment env) = s.of {} := by
  have hnone : (given? env s.variableName).bind s.read = none := by
    rw [Option.bind_eq_none_iff]
    intro text hgiven
    rw [given?, Option.filter_eq_some_iff, Bool.not_eq_true'] at hgiven
    exact hunread text hgiven.1 hgiven.2
  rw [of_ofEnvironment, hnone, Option.getD_none]

end Setting

/-! ## Numbers and kinds -/

/-- A text is a number, blanks around it aside: digits, with a plus sign in front of them or not,
whose value fits into a setting. -/
def IsCount (text : String) (n : Nat) : Prop :=
  ∃ sign digits, trim text.toList = sign ++ digits ∧ (sign = [] ∨ sign = ['+']) ∧
    digits ≠ [] ∧ (∀ c ∈ digits, isDigit c = true) ∧ Decimal.value digits = n ∧ n < countLimit

/-- A text is the name of a kind, blanks around it and the case of its letters aside. -/
def IsKind (text : String) (kind : BackendKind) : Prop :=
  (trim text.toList).map asciiLower = kind.label.toList

/-- What is left of a text without the plus sign it may start with. -/
def unsigned : List Char → List Char
  | '+' :: rest => rest
  | cs => cs

theorem exists_sign (cs : List Char) :
    ∃ sign, cs = sign ++ unsigned cs ∧ (sign = [] ∨ sign = ['+']) := by
  unfold unsigned
  split
  · exact ⟨['+'], rfl, .inr rfl⟩
  · exact ⟨[], rfl, .inl rfl⟩

theorem unsigned_append {sign digits : List Char} (hsign : sign = [] ∨ sign = ['+'])
    (hdigits : ∀ c ∈ digits, isDigit c = true) : unsigned (sign ++ digits) = digits := by
  rcases hsign with rfl | rfl
  · rw [List.nil_append]
    unfold unsigned
    split
    · -- a plus sign is no digit
      exact absurd (hdigits '+' List.mem_cons_self) (by decide)
    · rfl
  · rfl

theorem parseCount?_eq (text : String) :
    parseCount? text =
      if (unsigned (trim text.toList)).isEmpty ||
          !(unsigned (trim text.toList)).all isDigit then none
      else (some (Decimal.value (unsigned (trim text.toList)))).filter (· < countLimit) := rfl

theorem parseCount?_eq_some_iff {text : String} {n : Nat} :
    parseCount? text = some n ↔ IsCount text n := by
  rw [parseCount?_eq, Option.ite_none_left_eq_some, Option.filter_eq_some_iff]
  simp only [Bool.or_eq_true, List.isEmpty_iff, Bool.not_eq_true', not_or, Bool.not_eq_false,
    List.all_eq_true, Option.some.injEq, decide_eq_true_eq]
  constructor
  · rintro ⟨⟨hne, hdigits⟩, hvalue, hfits⟩
    obtain ⟨sign, htrim, hsign⟩ := exists_sign (trim text.toList)
    exact ⟨sign, _, htrim, hsign, hne, hdigits, hvalue, hfits⟩
  · rintro ⟨sign, digits, htrim, hsign, hne, hdigits, hvalue, hfits⟩
    rw [htrim, unsigned_append hsign hdigits]
    exact ⟨⟨hne, hdigits⟩, hvalue, hfits⟩

theorem parseCount?_eq_none_iff {text : String} :
    parseCount? text = none ↔ ∀ n, ¬ IsCount text n := by
  simp only [Option.eq_none_iff_forall_ne_some, ne_eq, parseCount?_eq_some_iff]

theorem parseKind?_eq_some_iff {text : String} {kind : BackendKind} :
    parseKind? text = some kind ↔ IsKind text kind := by
  have hkeyword : IsKind text kind ↔ keyword text = kind.label := by
    rw [IsKind, keyword, ← String.toList_inj, String.toList_ofList]
  rw [hkeyword, parseKind?]
  by_cases hmock : keyword text = "mock"
  · rw [hmock]
    cases kind <;> decide
  · by_cases hreal : keyword text = "real"
    · rw [hreal]
      cases kind <;> decide
    · have hnone : BackendKind.labels.lookup (keyword text) = none := by
        rw [List.lookup_eq_none_iff]
        simp [BackendKind.labels, hmock, hreal]
      rw [hnone]
      cases kind with
      | mock => exact iff_of_false nofun hmock
      | real => exact iff_of_false nofun hreal

theorem parseKind?_eq_none_iff {text : String} :
    parseKind? text = none ↔ ∀ kind, ¬ IsKind text kind := by
  simp only [Option.eq_none_iff_forall_ne_some, ne_eq, parseKind?_eq_some_iff]

namespace Setting

/-- A text is no value of a setting.  Of most settings, every text is a value. -/
def Illegible : Setting → String → Prop
  | timeoutMs, text | historyLimit, text => ∀ n, ¬ IsCount text n
  | generatorBackend, text | compilerBackend, text | verifierBackend, text =>
    ∀ kind, ¬ IsKind text kind
  | _, _ => False

/-- A variable gives its setting nothing: it is not there, or it is blank, or it holds no value of
the setting. -/
inductive GivesNothing (s : Setting) : Option String → Prop where
  | missing : GivesNothing s none
  | blank {text : String} (hblank : isBlankText text = true) : GivesNothing s (some text)
  | illegible {text : String} (hillegible : s.Illegible text) : GivesNothing s (some text)

theorem read_eq_none_of_illegible {s : Setting} {text : String} (hillegible : s.Illegible text) :
    s.read text = none := by
  cases s with
  | timeoutMs | historyLimit => exact parseCount?_eq_none_iff.mpr hillegible
  | generatorBackend | compilerBackend | verifierBackend =>
      exact parseKind?_eq_none_iff.mpr hillegible
  | apiKey | baseUrl | modelProvider | debug | compilerPath | compilerArgs | objdiffPath
  | referenceDir => exact hillegible.elim

theorem GivesNothing.of_ofEnvironment_eq {env : Environment} {s : Setting}
    (hnothing : s.GivesNothing (env s.variableName)) : s.of (ofEnvironment env) = s.of {} := by
  apply of_ofEnvironment_of_unread
  intro text htext hblank
  rw [htext] at hnothing
  cases hnothing with
  | blank hallBlank =>
      rw [hallBlank] at hblank
      cases hblank
  | illegible hillegible => exact read_eq_none_of_illegible hillegible

/-! ## Blanks around a value -/

/-- Whether blanks around the value of a setting are passed over. -/
def passesOverBlanks : Setting → Bool
  | timeoutMs | historyLimit | generatorBackend | compilerBackend | verifierBackend | debug
  | compilerArgs => true
  | _ => false

theorem read_padded {s : Setting} (hs : s.passesOverBlanks = true) {lead tail : String}
    (hlead : isBlankText lead = true) (htail : isBlankText tail = true) (text : String) :
    s.read (lead ++ text ++ tail) = s.read text := by
  have htrim : trim (lead ++ text ++ tail).toList = trim text.toList := by
    rw [String.toList_append, String.toList_append, trim_append_blanks htail,
      trim_blanks_append hlead]
  have hwords : words (lead ++ text ++ tail).toList = words text.toList := by
    rw [String.toList_append, String.toList_append, words_append_blanks htail,
      words_blanks_append hlead]
  have hkeyword : keyword (lead ++ text ++ tail) = keyword text := by
    rw [keyword, htrim, keyword]
  have hcount : parseCount? (lead ++ text ++ tail) = parseCount? text := by
    rw [parseCount?_eq, htrim, parseCount?_eq]
  have hkind : parseKind? (lead ++ text ++ tail) = parseKind? text := by
    rw [parseKind?, hkeyword, parseKind?]
  cases s with
  | timeoutMs | historyLimit => exact hcount
  | generatorBackend | compilerBackend | verifierBackend => exact hkind
  | debug =>
      change some (parseFlag _) = some (parseFlag _)
      rw [parseFlag, hkeyword, parseFlag]
  | compilerArgs =>
      change some (parseWords _) = some (parseWords _)
      rw [parseWords, hwords, parseWords]
  | apiKey | baseUrl | modelProvider | compilerPath | objdiffPath | referenceDir => cases hs

theorem isBlankText_padded {lead tail : String} (hlead : isBlankText lead = true)
    (htail : isBlankText tail = true) (text : String) :
    isBlankText (lead ++ text ++ tail) = isBlankText text := by
  unfold isBlankText at hlead htail ⊢
  rw [String.toList_append, String.toList_append, allBlank_append, allBlank_append, hlead, htail,
    Bool.and_true, Bool.true_and]

theorem of_ofEnvironment_padded {s : Setting} (hs : s.passesOverBlanks = true) {lead tail : String}
    (hlead : isBlankText lead = true) (htail : isBlankText tail = true) {text : String}
    {env other : Environment} (henv : env s.variableName = some (lead ++ text ++ tail))
    (hother : other s.variableName = some text) :
    s.of (ofEnvironment env) = s.of (ofEnvironment other) := by
  rw [of_ofEnvironment, of_ofEnvironment, given?, given?, henv, hother, Option.filter_some,
    Option.filter_some, isBlankText_padded hlead htail]
  split
  · rw [Option.bind_some, Option.bind_some, read_padded hs hlead htail]
  · rfl

end Setting

/-! ## The main statement -/

theorem of_ofEnvironment_congr {env other : Environment} {t : Setting}
    (hsame : env t.variableName = other t.variableName) :
    t.of (ofEnvironment env) = t.of (ofEnvironment other) := by
  rw [Setting.of_ofEnvironment, Setting.of_ofEnvironment, given?, given?, hsame]

/-- **Each variable sets one setting.**  Two environments that agree on every variable but that of
one setting give configurations that agree on every other setting, and if they agree on that one,
too, they give the same configuration.  A variable that is missing, or blank, or holds no value of
its setting leaves the default of the setting.  Where blanks are passed over, blanks around a value
change nothing in the configuration. -/
theorem variables_independent :
    (∀ (env other : Environment) (s : Setting),
      (∀ name ∈ variableNames, name ≠ s.variableName → env name = other name) →
        (∀ t, t ≠ s → t.of (ofEnvironment env) = t.of (ofEnvironment other)) ∧
          (env s.variableName = other s.variableName → ofEnvironment env = ofEnvironment other)) ∧
      (∀ (env : Environment) (s : Setting) (value : Option String), s.GivesNothing value →
        s.of (ofEnvironment (Function.update env s.variableName value)) = s.of {}) ∧
      (∀ (env : Environment) (s : Setting) (lead text tail : String), s.passesOverBlanks = true →
        isBlankText lead = true → isBlankText tail = true →
          ofEnvironment (Function.update env s.variableName (some (lead ++ text ++ tail))) =
            ofEnvironment (Function.update env s.variableName (some text))) := by
  have hothers : ∀ (env other : Environment) (s : Setting),
      (∀ name ∈ variableNames, name ≠ s.variableName → env name = other name) →
        ∀ t, t ≠ s → t.of (ofEnvironment env) = t.of (ofEnvironment other) := by
    intro env other s hagree t ht
    exact of_ofEnvironment_congr (hagree _ t.variableName_mem (Setting.variableName_ne ht))
  refine ⟨?_, ?_, ?_⟩
  · intro env other s hagree
    refine ⟨hothers env other s hagree, ?_⟩
    intro hsame
    apply Setting.ext_of
    intro t
    by_cases ht : t = s
    · subst ht
      exact of_ofEnvironment_congr hsame
    · exact hothers env other s hagree t ht
  · intro env s value hnothing
    apply Setting.GivesNothing.of_ofEnvironment_eq
    rwa [Function.update_self]
  · intro env s lead text tail hs hlead htail
    apply Setting.ext_of
    intro t
    by_cases ht : t = s
    · subst ht
      exact Setting.of_ofEnvironment_padded hs hlead htail (Function.update_self ..)
        (Function.update_self ..)
    · have hne := Setting.variableName_ne ht
      apply of_ofEnvironment_congr
      rw [Function.update_of_ne hne, Function.update_of_ne hne]

/-- A number that is too large by one, and blanks around a number that fits. -/
theorem variables_independent_of_timeout :
    let keyed : Environment := fun name => if name = "DECOMP_API_KEY" then some " k " else none
    let giving (value : String) : Environment :=
      Function.update keyed Setting.timeoutMs.variableName (some value)
    Setting.timeoutMs.Illegible "18446744073709551616" ∧
      (ofEnvironment (giving "18446744073709551616")).timeoutMs = 30000 ∧
      (ofEnvironment (giving "18446744073709551616")).apiKey = (ofEnvironment keyed).apiKey ∧
      ofEnvironment (giving ("\t" ++ "+5000" ++ "\u2003")) = ofEnvironment (giving "+5000") := by
  intro keyed giving
  obtain ⟨hothers, hdefault, hblanks⟩ := variables_independent
  have hillegible : Setting.timeoutMs.Illegible "18446744073709551616" :=
    parseCount?_eq_none_iff.mp (by decide)
  refine ⟨hillegible, ?_, ?_, ?_⟩
  · exact hdefault keyed .timeoutMs _ (.illegible hillegible)
  · have hagree : ∀ name ∈ variableNames, name ≠ Setting.timeoutMs.variableName →
        giving "18446744073709551616" name = keyed name := by
      intro name _ hname
      exact Function.update_of_ne hname ..
    exact (hothers _ _ .timeoutMs hagree).1 .apiKey nofun
  · exact hblanks keyed .timeoutMs "\t" "+5000" "\u2003" rfl (by decide) (by decide)

end MatchingDecomp.Config
