import MatchingDecomp.Generation.Remote
import MatchingDecomp.Proofs.Json.Record
import MatchingDecomp.Report.Save

/-!
# Exported data reads back

Fragments, runs and the requests to the generation service are written as records.  A record whose
names are all different gives each name the value that was written for it (`fields?_record`), so
that reading a record is reading its fields one by one.

Main statement: `exports_read_back`.
-/

namespace MatchingDecomp

open Json

/-! ## Fragments -/

theorem Fragment.toJson_eq (f : Fragment) :
    f.toJson = .record (["text", "identifier", "origin"].zip
      [.text f.text, .text f.identifier, .optText f.origin]) := rfl

theorem Fragment.proper_toJson (f : Fragment) : f.toJson.Proper := by
  rw [toJson_eq]
  apply proper_record
  simp only [List.forall_mem_cons]
  exact ⟨.text _, .text _, Value.proper_optText _, List.forall_mem_nil _⟩

theorem Fragment.ofJson?_toJson (f : Fragment) : Fragment.ofJson? f.toJson = some f := by
  unfold Fragment.ofJson?
  rw [toJson_eq, fields?_record (by decide) _ rfl]
  simp only [Option.bind_eq_bind, Option.bind_some, List.map_cons, List.map_nil,
    optional_optText]
  rfl

/-! ## Runs -/

/-- A run whose record loses nothing: the confidence is finite, and its shortest decimal and the
written form of the time read back as they are; the match percentage fits in a byte. -/
structure Run.Portable (r : Run) : Prop where
  finite : r.confidence.finite?.isSome = true
  decimal : ∀ x, r.confidence.finite? = some x →
    (Numeral.ofFinite r.confidence.isNegative x).toSingle? = some r.confidence
  percentage : ∀ n, r.matchPercentage = some n → n < 256
  createdAt : Instant.parse? r.createdAt.text = some r.createdAt

theorem Run.proper_toJson (r : Run) : r.toJson.Proper := by
  have hpercentage : (optNat r.matchPercentage).Proper := by
    cases r.matchPercentage with
    | none => exact .null
    | some n => exact .number (Numeral.proper_ofNat n)
  have hdiscrepancies : (optTexts r.discrepancies).Proper := by
    cases r.discrepancies with
    | none => exact .null
    | some xs => exact Value.proper_texts xs
  apply proper_record
  simp only [List.forall_mem_cons]
  exact ⟨.text _, .text _, Value.proper_optText _, .text _, Value.proper_single _, .text _,
    hpercentage, .text _, hdiscrepancies, Value.proper_texts _, Value.proper_texts _,
    Value.proper_optText _, List.forall_mem_nil _⟩

theorem Run.Portable.ofJson?_toJson {r : Run} (hportable : r.Portable) :
    Run.ofJson? r.toJson = some r := by
  have hconfidence : required Value.single? (some (.single r.confidence)) = some r.confidence := by
    obtain ⟨x, hx⟩ := Option.isSome_iff_exists.mp hportable.finite
    rw [required, Option.bind_some, Value.single, hx]
    exact hportable.decimal x hx
  have hstatus : required (Value.choice? RunStatus.labels) (some (.text r.status.label)) =
      some r.status := by
    cases r.status <;> rfl
  have hpercentage : optional (Value.natBelow? 256) (some (optNat r.matchPercentage)) =
      some r.matchPercentage := by
    cases hmatch : r.matchPercentage with
    | none => rfl
    | some n => exact congrArg (Option.map some) (natBelow?_nat (hportable.percentage n hmatch))
  have hdiscrepancies : optional Value.texts? (some (optTexts r.discrepancies)) =
      some r.discrepancies := by
    cases r.discrepancies with
    | none => rfl
    | some xs => exact congrArg (Option.map some) (texts?_texts xs)
  have htexts (xs : List String) : required Value.texts? (some (.texts xs)) = some xs :=
    texts?_texts xs
  have htext (s : String) : required Value.text? (some (.text s)) = some s := rfl
  have hfields : fields? fieldNames .required r.toJson =
      some [some (.text r.id.text), some (.text r.fragmentIdentifier),
        some (.optText r.sourceFragmentRef), some (.text r.candidateSource),
        some (.single r.confidence), some (.text r.status.label),
        some (optNat r.matchPercentage), some (.text r.createdAt.text),
        some (optTexts r.discrepancies), some (.texts r.compileErrors),
        some (.texts r.compileWarnings), some (.optText r.detailedDiff)] :=
    fields?_record (by decide) _ rfl .required
  rw [Run.ofJson?, hfields]
  dsimp only [Option.bind_eq_bind, Option.bind_some]
  simp only [hconfidence, hstatus, hpercentage, hdiscrepancies, htexts, htext, optional_optText,
    hportable.createdAt, Option.bind_some]
  rfl

/-! ## The main statement -/

/-- **Exported data reads back.**  A fragment is read back from its compact form, runs that lose
nothing in their records are read back from an export and from their compact forms, and the body of
a request to the generation service has its three members and no others. -/
theorem exports_read_back :
    (∀ f : Fragment, (parse? f.toJson.compact).bind Fragment.ofJson? = some f) ∧
      (∀ runs : List Run, (∀ r ∈ runs, r.Portable) →
        (parse? (Report.exportText runs)).bind (Value.list? Run.ofJson?) = some runs ∧
          ∀ r ∈ runs, (parse? r.toJson.compact).bind Run.ofJson? = some r) ∧
      ∀ (c : Remote.Client) (f : Fragment), parse? (c.request f).body =
        some (.object [(some "assembly", .text f.text), (some "function_name", .text f.identifier),
          (some "model", .text c.model)]) := by
  refine ⟨?_, ?_, ?_⟩
  · intro f
    rw [f.proper_toJson.parse?_compact]
    exact f.ofJson?_toJson
  · intro runs hportable
    have hexport : (Value.array (runs.map Run.toJson)).Proper := by
      apply Value.Proper.array
      intro item hitem
      obtain ⟨r, -, rfl⟩ := List.mem_map.mp hitem
      exact r.proper_toJson
    constructor
    · rw [Report.exportText, hexport.parse?_pretty]
      exact list?_map fun r hr => (hportable r hr).ofJson?_toJson
    · intro r hr
      rw [r.proper_toJson.parse?_compact]
      exact (hportable r hr).ofJson?_toJson
  · intro c f
    have hvalues : ∀ v ∈ [Value.text f.text, .text f.identifier, .text c.model], v.Proper := by
      simp only [List.forall_mem_cons]
      exact ⟨.text _, .text _, .text _, List.forall_mem_nil _⟩
    have hbody : (c.body f).Proper :=
      proper_record ["assembly", "function_name", "model"] hvalues
    exact hbody.parse?_compact

/-- A run with every kind of field: an odd name, a leap second, a full percentage. -/
def oddRun : Run where
  id := ⟨"run-1"⟩
  fragmentIdentifier := "f\x00\"\\\x1f"
  sourceFragmentRef := none
  candidateSource := "char c = '\n'; // 𝄞"
  confidence := ⟨0x3DCCCCCD⟩
  status := .warning
  matchPercentage := some 255
  createdAt := ⟨1483228799, 1500000000⟩
  discrepancies := some []
  compileErrors := []
  compileWarnings := ["", "warning"]
  detailedDiff := some ""

/-- An export with that run in it, twice. -/
theorem export_of_oddRun :
    oddRun.Portable ∧
      (parse? (Report.exportText [oddRun, oddRun])).bind (Value.list? Run.ofJson?) =
        some [oddRun, oddRun] := by
  have hfinite : oddRun.confidence.finite? = some ⟨13421773, -27⟩ := by decide +kernel
  have hdecimal : (Numeral.ofFinite oddRun.confidence.isNegative ⟨13421773, -27⟩).toSingle? =
      some oddRun.confidence := by
    decide +kernel
  have hportable : oddRun.Portable := by
    refine ⟨by rw [hfinite]; rfl, ?_, by decide, by decide +kernel⟩
    intro x hx
    obtain rfl := Option.some.inj (hfinite.symm.trans hx)
    exact hdecimal
  have hall : ∀ r ∈ [oddRun, oddRun], r.Portable := by
    simp only [List.forall_mem_cons]
    exact ⟨hportable, hportable, List.forall_mem_nil _⟩
  exact ⟨hportable, (exports_read_back.2.1 [oddRun, oddRun] hall).1⟩

end MatchingDecomp
