import Mathlib.Logic.Basic
import MatchingDecomp.Config.Backends

/-!
# A configuration gets the backends that it asks for

Two fallbacks stand in the way of that.  A comparison of objects that has no directory of references
would be replaced by the heuristic, and a history that is to keep no run keeps one.  Neither of them
is ever taken: the rules for configurations exclude them, and backends are only made for a
configuration that breaks none of the rules.  Nothing else can go wrong, since a client of the
service can always be made.

The rules are told once more, each with the condition under which it is broken (`Rule`).  The
problems of a configuration are the texts of the rules that it breaks, in order (`problems_eq`).
What a backend is, a service, a toolchain or a comparison of objects, can be seen from the outside:
the stand-ins go by other names, and the compiler among them claims to have a version before it is
asked for one (`not_isToolchain_standIn`).

Main statement: `backends_as_asked`.
-/

namespace MatchingDecomp.Config

open Text

/-! ## Rules -/

/-- What a configuration has to comply with. -/
inductive Rule where
  | keyForService
  | timeoutInRange
  | roomForHistory
  | referencesForComparison
  | objectsForComparison
  deriving DecidableEq

namespace Rule

/-- Every rule, in the order in which they are looked at. -/
def all : List Rule :=
  [keyForService, timeoutInRange, roomForHistory, referencesForComparison, objectsForComparison]

/-- A configuration breaks a rule. -/
def Broken (c : Config) : Rule → Prop
  | keyForService => c.generatorBackend = .real ∧ ∀ key ∈ c.apiKey, isBlankText key = true
  | timeoutInRange => c.timeoutMs < 1000 ∨ 300000 < c.timeoutMs
  | roomForHistory => c.historyLimit = 0
  | referencesForComparison => c.verifierBackend = .real ∧ c.referenceDir = none
  | objectsForComparison => c.verifierBackend = .real ∧ c.compilerBackend = .mock

instance (c : Config) : DecidablePred (Broken c)
  | keyForService => inferInstanceAs (Decidable (_ ∧ _))
  | timeoutInRange => inferInstanceAs (Decidable (_ ∨ _))
  | roomForHistory => inferInstanceAs (Decidable (_ = _))
  | referencesForComparison => inferInstanceAs (Decidable (_ ∧ _))
  | objectsForComparison => inferInstanceAs (Decidable (_ ∧ _))

/-- How a configuration is told that it breaks a rule. -/
def text (c : Config) : Rule → String
  | keyForService => "API key is required for the remote generator"
  | timeoutInRange =>
    "timeout must be between 1000 and 300000 ms, got " ++ Decimal.text c.timeoutMs
  | roomForHistory => "history limit must be greater than zero"
  | referencesForComparison => "reference directory is required for the objdiff verifier"
  | objectsForComparison =>
    "the objdiff verifier needs real object files from the subprocess compiler"

theorem mem_all (r : Rule) : r ∈ all := by
  cases r <;> decide

end Rule

/-- The rules that a configuration breaks, in order. -/
def brokenRules (c : Config) : List Rule :=
  Rule.all.filter fun r => r.Broken c

theorem problemIf_eq {broken : Bool} {p : Prop} [Decidable p] (hbroken : broken = true ↔ p)
    (text : String) : problemIf broken text = if p then [text] else [] := by
  rw [problemIf]
  by_cases hp : p
  · rw [if_pos hp, if_pos (hbroken.mpr hp)]
  · rw [if_neg hp, if_neg (hbroken.not.mpr hp)]

theorem map_text_filter (c : Config) (rules : List Rule) :
    (rules.filter fun r => r.Broken c).map (Rule.text c) =
      rules.flatMap fun r => if r.Broken c then [r.text c] else [] := by
  induction rules with
  | nil => rfl
  | cons r rules ih =>
      rw [List.flatMap_cons, ← ih, List.filter_cons]
      by_cases hr : r.Broken c <;> simp [hr]

/-- The problems of a configuration are the rules that it breaks, in order. -/
theorem problems_eq (c : Config) : c.problems = c.brokenRules.map (Rule.text c) := by
  have hkey : (c.generatorBackend == .real && c.apiKey.all isBlankText) = true ↔
      Rule.keyForService.Broken c := by
    simp [Rule.Broken, Option.all_eq_true]
  have htimeout : (!(minTimeoutMs ≤ c.timeoutMs && c.timeoutMs ≤ maxTimeoutMs)) = true ↔
      Rule.timeoutInRange.Broken c := by
    rw [Bool.not_eq_true', Bool.and_eq_false_iff, decide_eq_false_iff_not, decide_eq_false_iff_not,
      Nat.not_le, Nat.not_le]
    exact Iff.rfl
  have hhistory : (c.historyLimit == 0) = true ↔ Rule.roomForHistory.Broken c := beq_iff_eq
  have hreferences : (c.verifierBackend == .real && c.referenceDir.isNone) = true ↔
      Rule.referencesForComparison.Broken c := by
    simp [Rule.Broken]
  have hobjects : (c.verifierBackend == .real && c.compilerBackend == .mock) = true ↔
      Rule.objectsForComparison.Broken c := by
    simp [Rule.Broken]
  have htext : "timeout must be between " ++ Decimal.text minTimeoutMs ++ " and " ++
      Decimal.text maxTimeoutMs ++ " ms, got " =
        "timeout must be between 1000 and 300000 ms, got " := by
    decide
  rw [problems, problemIf_eq hkey, problemIf_eq htimeout, problemIf_eq hhistory,
    problemIf_eq hreferences, problemIf_eq hobjects, htext, brokenRules, map_text_filter, Rule.all]
  simp only [List.flatMap_cons, List.flatMap_nil, List.append_nil, List.append_assoc]
  rfl

theorem problems_eq_nil_iff (c : Config) : c.problems = [] ↔ ∀ r : Rule, ¬ r.Broken c := by
  rw [problems_eq, List.map_eq_nil_iff, brokenRules, List.filter_eq_nil_iff]
  simp [Rule.mem_all]

/-! ## What a backend is -/

/-- A generator that asks a service. -/
def IsService (g : Generator Workbench) : Prop :=
  ∃ client : Remote.Client, g = client.generator.lift Workbench.machinePart

/-- A compiler that runs an external program. -/
def IsToolchain (k : Compiler Workbench) : Prop :=
  ∃ t : Toolchain, k = t.compiler

/-- A compiler that runs nothing. -/
def IsStandIn (k : Compiler Workbench) : Prop :=
  ∃ tempDirectory, k = StandIn.compiler Workbench tempDirectory

/-- A verifier that compares objects with references. -/
def IsComparison (v : Verifier Workbench) : Prop :=
  ∃ d : ObjectDiff, v = d.verifier.lift Workbench.machinePart

theorem not_isService_template : ¬ IsService (Template.generator Workbench) := by
  rintro ⟨client, hclient⟩
  have hname : "template" = "remote" := congrArg Generator.name hclient
  exact absurd hname (by decide)

theorem not_isToolchain_standIn (tempDirectory : String) :
    ¬ IsToolchain (StandIn.compiler Workbench tempDirectory) := by
  rintro ⟨t, ht⟩
  -- at a workbench where nothing was asked for, a toolchain does not know its version yet
  have hversion : some "Mock Compiler v1.0.0" = none :=
    congrArg (fun k : Compiler Workbench => (k.describe {}).version) ht
  cases hversion

theorem not_isComparison_heuristic (h : Heuristic) :
    ¬ IsComparison (Heuristic.verifier Workbench h) := by
  rintro ⟨d, hd⟩
  have hname : "heuristic" = "objdiff" := congrArg Verifier.name hd
  exact absurd hname (by decide)

theorem IsToolchain.not_isStandIn {k : Compiler Workbench} (hk : IsToolchain k) :
    ¬ IsStandIn k := by
  rintro ⟨tempDirectory, rfl⟩
  exact not_isToolchain_standIn tempDirectory hk

/-! ## The backends of a configuration -/

/-- These are the backends that a configuration asks for: an outside one for every stage for which
it asks for a real one, reached in the way that it says and given the time that it says, and the
stand-in for every other stage. -/
structure Equips (c : Config) (tempDirectory : String) (b : Backends Workbench) : Prop where
  isService_iff : IsService b.generator ↔ c.generatorBackend = .real
  isToolchain_iff : IsToolchain b.compiler ↔ c.compilerBackend = .real
  isComparison_iff : IsComparison b.verifier ↔ c.verifierBackend = .real
  service_eq : c.generatorBackend = .real →
    b.generator = Generator.lift Workbench.machinePart (Remote.Client.generator
      { baseUrl := c.baseUrl
        apiKey := c.apiKey
        model := c.modelProvider
        timeout := .ofMillis c.timeoutMs })
  toolchain_eq : c.compilerBackend = .real →
    b.compiler = Toolchain.compiler
      { path := c.compilerPath
        arguments := c.compilerArgs
        timeout := .ofMillis c.timeoutMs }
  comparison_eq : c.verifierBackend = .real → ∃ directory, c.referenceDir = some directory ∧
    b.verifier = Verifier.lift Workbench.machinePart (ObjectDiff.verifier
      { path := c.objdiffPath
        referenceDirectory := directory
        timeout := .ofMillis c.timeoutMs })
  template_eq : c.generatorBackend = .mock → b.generator = Template.generator Workbench
  standIn_eq : c.compilerBackend = .mock → b.compiler = StandIn.compiler Workbench tempDirectory
  heuristic_eq : c.verifierBackend = .mock → b.verifier = Heuristic.verifier Workbench {}
  not_paired : ¬ (IsComparison b.verifier ∧ IsStandIn b.compiler)
  timeout_mem : 1000 ≤ c.timeoutMs ∧ c.timeoutMs ≤ 300000

theorem backends_eq_ok_iff {c : Config} {tempDirectory : String} {b : Backends Workbench} :
    c.backends tempDirectory = .ok b ↔ c.problems = [] ∧
      { generator := c.generator, compiler := c.compiler tempDirectory, verifier := c.verifier } =
        b := by
  rw [backends]
  cases c.problems <;> simp

section

variable {c : Config}

theorem generator_of_real (hreal : c.generatorBackend = .real) :
    c.generator = c.client.generator.lift Workbench.machinePart := by
  rw [generator, hreal]

theorem generator_of_mock (hmock : c.generatorBackend = .mock) :
    c.generator = Template.generator Workbench := by
  rw [generator, hmock]

theorem compiler_of_real (hreal : c.compilerBackend = .real) (tempDirectory : String) :
    c.compiler tempDirectory = c.toolchain.compiler := by
  rw [compiler, hreal]

theorem compiler_of_mock (hmock : c.compilerBackend = .mock) (tempDirectory : String) :
    c.compiler tempDirectory = StandIn.compiler Workbench tempDirectory := by
  rw [compiler, hmock]

theorem verifier_of_real (hreal : c.verifierBackend = .real) {directory : String}
    (hdirectory : c.referenceDir = some directory) :
    c.verifier = (c.objectDiff directory).verifier.lift Workbench.machinePart := by
  rw [verifier, hreal, hdirectory]

theorem verifier_of_mock (hmock : c.verifierBackend = .mock) :
    c.verifier = Heuristic.verifier Workbench {} := by
  rw [verifier, hmock]

theorem isService_generator_iff : IsService c.generator ↔ c.generatorBackend = .real := by
  cases hkind : c.generatorBackend with
  | mock =>
      rw [generator_of_mock hkind]
      exact iff_of_false not_isService_template nofun
  | real => exact iff_of_true ⟨c.client, generator_of_real hkind⟩ rfl

theorem isToolchain_compiler_iff (tempDirectory : String) :
    IsToolchain (c.compiler tempDirectory) ↔ c.compilerBackend = .real := by
  cases hkind : c.compilerBackend with
  | mock =>
      rw [compiler_of_mock hkind]
      exact iff_of_false (not_isToolchain_standIn tempDirectory) nofun
  | real => exact iff_of_true ⟨c.toolchain, compiler_of_real hkind tempDirectory⟩ rfl

theorem exists_directory (hreferences : ¬ Rule.referencesForComparison.Broken c)
    (hreal : c.verifierBackend = .real) : ∃ directory, c.referenceDir = some directory := by
  apply Option.ne_none_iff_exists'.mp
  intro hnone
  exact hreferences ⟨hreal, hnone⟩

/-- With a directory of references, the heuristic is not taken in place of a comparison. -/
theorem isComparison_verifier_iff (hreferences : ¬ Rule.referencesForComparison.Broken c) :
    IsComparison c.verifier ↔ c.verifierBackend = .real := by
  cases hkind : c.verifierBackend with
  | mock =>
      rw [verifier_of_mock hkind]
      exact iff_of_false (not_isComparison_heuristic {}) nofun
  | real =>
      obtain ⟨directory, hdirectory⟩ := exists_directory hreferences hkind
      exact iff_of_true ⟨c.objectDiff directory, verifier_of_real hkind hdirectory⟩ rfl

/-- Objects are only compared if a toolchain makes them. -/
theorem not_isStandIn_of_isComparison (hproblems : ∀ r : Rule, ¬ r.Broken c)
    (hcomparison : IsComparison c.verifier) (tempDirectory : String) :
    ¬ IsStandIn (c.compiler tempDirectory) := by
  have hreal : c.verifierBackend = .real :=
    (isComparison_verifier_iff (hproblems .referencesForComparison)).mp hcomparison
  have hcompiler : c.compilerBackend = .real := by
    cases hkind : c.compilerBackend with
    | mock => exact absurd ⟨hreal, hkind⟩ (hproblems .objectsForComparison)
    | real => rfl
  exact ((isToolchain_compiler_iff tempDirectory).mpr hcompiler).not_isStandIn

theorem equips_of_problems_eq_nil (hproblems : c.problems = []) (tempDirectory : String) :
    c.Equips tempDirectory
      { generator := c.generator
        compiler := c.compiler tempDirectory
        verifier := c.verifier } := by
  have hkept := (problems_eq_nil_iff c).mp hproblems
  refine
    { isService_iff := isService_generator_iff
      isToolchain_iff := isToolchain_compiler_iff tempDirectory
      isComparison_iff := isComparison_verifier_iff (hkept .referencesForComparison)
      service_eq := generator_of_real
      toolchain_eq := fun hreal => compiler_of_real hreal tempDirectory
      comparison_eq := ?_
      template_eq := generator_of_mock
      standIn_eq := fun hmock => compiler_of_mock hmock tempDirectory
      heuristic_eq := verifier_of_mock
      not_paired := ?_
      timeout_mem := ?_ }
  · intro hreal
    obtain ⟨directory, hdirectory⟩ := exists_directory (hkept .referencesForComparison) hreal
    exact ⟨directory, hdirectory, verifier_of_real hreal hdirectory⟩
  · rintro ⟨hcomparison, hstandIn⟩
    exact not_isStandIn_of_isComparison hkept hcomparison tempDirectory hstandIn
  · have hrange : ¬ (c.timeoutMs < 1000 ∨ 300000 < c.timeoutMs) := hkept .timeoutInRange
    omega

end

/-- A history that is to keep some run keeps as many as it is to. -/
theorem newStore_eq {c : Config} (hroom : ¬ Rule.roomForHistory.Broken c) :
    c.newStore = { limit := c.historyLimit } := by
  have hlimit : 1 ≤ c.historyLimit := Nat.one_le_iff_ne_zero.mpr hroom
  rw [newStore, Store.withLimit, Nat.max_eq_left hlimit]

/-- **A configuration gets the backends that it asks for.**  There are backends exactly for the
configurations without problems.  They are then the ones that the configuration asks for, and its
history keeps as many runs as it says.  The problems are the rules that the configuration breaks,
all of them and in order, and so says the answer to a configuration that breaks any. -/
theorem backends_as_asked (c : Config) (tempDirectory : String) :
    ((∃ b, c.backends tempDirectory = .ok b) ↔ c.problems = []) ∧
      (∀ b, c.backends tempDirectory = .ok b →
        c.Equips tempDirectory b ∧ c.newStore = { limit := c.historyLimit }) ∧
      c.problems = (Rule.all.filter fun r => r.Broken c).map (Rule.text c) ∧
      (c.problems ≠ [] → c.backends tempDirectory = .error c.problems) ∧
      refusal c.problems =
        "Invalid configuration: " ++
          String.intercalate "; " ((Rule.all.filter fun r => r.Broken c).map (Rule.text c)) := by
  refine ⟨?_, ?_, problems_eq c, ?_, ?_⟩
  · constructor
    · rintro ⟨b, hb⟩
      exact (backends_eq_ok_iff.mp hb).1
    · intro hproblems
      exact ⟨_, backends_eq_ok_iff.mpr ⟨hproblems, rfl⟩⟩
  · intro b hb
    obtain ⟨hproblems, rfl⟩ := backends_eq_ok_iff.mp hb
    have hkept := (problems_eq_nil_iff c).mp hproblems
    exact ⟨equips_of_problems_eq_nil hproblems tempDirectory, newStore_eq (hkept .roomForHistory)⟩
  · intro hproblems
    rw [backends, if_neg (by simpa using hproblems)]
  · unfold refusal
    rw [problems_eq, brokenRules]

/-- A configuration with an outside backend for every stage, at the lower ends of its limits, and
one that breaks every rule at once. -/
theorem backends_of_extremes :
    let real : Config :=
      { apiKey := some "k", timeoutMs := 1000, generatorBackend := .real, compilerBackend := .real,
        verifierBackend := .real, referenceDir := some "refs", historyLimit := 1 }
    let broken : Config :=
      { apiKey := some " ", timeoutMs := 300001, generatorBackend := .real,
        verifierBackend := .real, historyLimit := 0 }
    (∃ b, real.backends "/tmp" = .ok b ∧ IsService b.generator ∧ IsToolchain b.compiler ∧
      IsComparison b.verifier ∧ real.newStore.limit = 1) ∧
      broken.backends "/tmp" = .error
        ["API key is required for the remote generator",
          "timeout must be between 1000 and 300000 ms, got 300001",
          "history limit must be greater than zero",
          "reference directory is required for the objdiff verifier",
          "the objdiff verifier needs real object files from the subprocess compiler"] := by
  intro real broken
  constructor
  · obtain ⟨hok, hasked, -⟩ := backends_as_asked real "/tmp"
    obtain ⟨b, hb⟩ := hok.mpr (by decide)
    obtain ⟨hequips, hstore⟩ := hasked b hb
    refine ⟨b, hb, hequips.isService_iff.mpr rfl, hequips.isToolchain_iff.mpr rfl,
      hequips.isComparison_iff.mpr rfl, ?_⟩
    rw [hstore]
  · obtain ⟨-, -, hlisted, hrefused, -⟩ := backends_as_asked broken "/tmp"
    have hall : (Rule.all.filter fun r => r.Broken broken) = Rule.all := by decide
    have hsome : broken.problems ≠ [] := by
      rw [hlisted, hall]
      exact List.cons_ne_nil _ _
    rw [hrefused hsome, hlisted, hall, Except.error.injEq]
    decide

end MatchingDecomp.Config
