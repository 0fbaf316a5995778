import Mathlib.Data.List.Nodup
import MatchingDecomp.Json.Record
import MatchingDecomp.Proofs.Json.Reading

/-!
# Records and their fields

The reader of a record goes by the names of the members.  So a record is followed through it as a
list of members in no particular order: some members of the full record, and other members, whose
names are not among its names (`fields?_of_perm`).  A record that is written as it stands is the
case in which every member is there and no others are (`fields?_record`).  Reading a record is then
reading its fields one by one.
-/

namespace MatchingDecomp.Json

/-! ## Records -/

section

variable {full extras members : List (String × Value)} {given : List String}
  (hnodup : (full.map Prod.fst).Nodup) (hextras : ∀ e ∈ extras, e.1 ∉ full.map Prod.fst)
  (hperm : members.Perm (full.filter (fun m => m.1 ∈ given) ++ extras))

include hnodup hextras hperm

/-- In a part of a record with other members around it, a name of the record stands for what the
record has under that name. -/
theorem eq_of_mem_part {m other : String × Value} (hm : m ∈ full)
    (hother : other ∈ members) (hname : other.1 = m.1) : other = m ∧ m.1 ∈ given := by
  have hmem := hperm.mem_iff.mp hother
  rw [List.mem_append, List.mem_filter, decide_eq_true_eq] at hmem
  rcases hmem with ⟨hfull, hgiven⟩ | hextra
  · have heq : other = m := List.inj_on_of_nodup_map hnodup hfull hm hname
    exact ⟨heq, heq ▸ hgiven⟩
  · have hknown : other.1 ∈ full.map Prod.fst := hname ▸ List.mem_map_of_mem hm
    exact absurd hknown (hextras other hextra)

theorem find?_of_perm {m : String × Value} (hm : m ∈ full) :
    members.find? (fun other => other.1 == m.1) = if m.1 ∈ given then some m else none := by
  cases hfound : members.find? (fun other => other.1 == m.1) with
  | some other =>
      have hname : other.1 = m.1 := by simpa using List.find?_some hfound
      obtain ⟨rfl, hgiven⟩ :=
        eq_of_mem_part hnodup hextras hperm hm (List.mem_of_find?_eq_some hfound) hname
      rw [if_pos hgiven]
  | none =>
      rw [if_neg]
      intro hgiven
      have hmember : m ∈ members := by
        apply hperm.mem_iff.mpr
        rw [List.mem_append, List.mem_filter, decide_eq_true_eq]
        exact .inl ⟨hm, hgiven⟩
      exact absurd (beq_self_eq_true m.1) (List.find?_eq_none.mp hfound m hmember)

theorem countP_le_one_of_perm {name : String} (hname : name ∈ full.map Prod.fst) :
    members.countP (fun m => m.1 == name) ≤ 1 := by
  have hextra : extras.countP (fun m => m.1 == name) = 0 := by
    rw [List.countP_eq_zero]
    intro e he hsame
    exact hextras e he (eq_of_beq hsame ▸ hname)
  have hfull : full.countP (fun m => m.1 == name) ≤ 1 := by
    have hcount := List.nodup_iff_count.mp hnodup name
    rwa [List.count, List.countP_map] at hcount
  calc members.countP (fun m => m.1 == name)
      = (full.filter (fun m => m.1 ∈ given)).countP (fun m => m.1 == name) := by
        rw [hperm.countP_eq, List.countP_append, hextra, Nat.add_zero]
    _ ≤ full.countP (fun m => m.1 == name) := List.filter_sublist.countP_le
    _ ≤ 1 := hfull

/-- The fields of a record that is given in part, in any order and with other members around it. -/
theorem fields?_of_perm (trailing : Trailing) :
    fields? (full.map Prod.fst) trailing (.record members) =
      some (full.map fun m => if m.1 ∈ given then some m.2 else none) := by
  have hlegible : ¬ (members.map fun m => (some m.1, m.2)).any (fun m => m.1.isNone) = true := by
    simp
  have honce : ¬ (full.map Prod.fst).any (fun name => decide (1 < (members.map
      fun m => (some m.1, m.2)).countP fun m => m.1 == some name)) = true := by
    rw [List.any_eq_true]
    rintro ⟨name, hname, hcount⟩
    rw [decide_eq_true_eq, List.countP_map] at hcount
    exact absurd (countP_le_one_of_perm hnodup hextras hperm hname) (Nat.not_le.mpr hcount)
  rw [Value.record, fields?, if_neg hlegible, if_neg honce, List.map_map]
  congr 1
  apply List.map_congr_left
  intro m hm
  have hfind := find?_of_perm hnodup hextras hperm hm
  have hsame : ((fun other : Option String × Value => other.1 == some m.1) ∘
      fun other : String × Value => (some other.1, other.2)) = fun other => other.1 == m.1 := rfl
  rw [Function.comp_apply, List.find?_map, hsame, hfind]
  split <;> rfl

end

/-- A record with different names gives its values back. -/
theorem fields?_record {names : List String} (hnodup : names.Nodup) (values : List Value)
    (hlength : values.length = names.length) (trailing : Trailing) :
    fields? names trailing (.record (names.zip values)) = some (values.map some) := by
  have hnames : (names.zip values).map Prod.fst = names :=
    List.map_fst_zip (Nat.le_of_eq hlength.symm)
  have hvalues : (names.zip values).map Prod.snd = values :=
    List.map_snd_zip (Nat.le_of_eq hlength)
  have hall : ∀ m ∈ names.zip values, m.1 ∈ names := fun m hm => (List.of_mem_zip hm).1
  have hfull : (names.zip values).filter (fun m => m.1 ∈ names) ++ [] = names.zip values := by
    rw [List.append_nil, List.filter_eq_self]
    exact fun m hm => decide_eq_true (hall m hm)
  have hread := fields?_of_perm (hnames.symm ▸ hnodup) (List.forall_mem_nil _)
    (List.Perm.of_eq hfull.symm) trailing
  rw [hnames] at hread
  calc fields? names trailing (.record (names.zip values))
      = some ((names.zip values).map fun m => if m.1 ∈ names then some m.2 else none) := hread
    _ = some ((names.zip values).map (some ∘ Prod.snd)) := by
        rw [List.map_congr_left fun m hm => if_pos (hall m hm)]
        rfl
    _ = some (values.map some) := by rw [← List.map_map, hvalues]

theorem proper_record (names : List String) {values : List Value}
    (hproper : ∀ v ∈ values, v.Proper) : (Value.record (names.zip values)).Proper := by
  apply Value.Proper.object
  intro member hmember
  obtain ⟨⟨name, value⟩, hm, rfl⟩ := List.mem_map.mp hmember
  exact hproper value (List.of_mem_zip hm).2

/-! ## Fields -/

theorem Value.proper_optText (s : Option String) : (Value.optText s).Proper := by
  cases s with
  | none => exact .null
  | some s => exact .text s

theorem Value.proper_texts (xs : List String) : (Value.texts xs).Proper := by
  apply Proper.array
  intro item hitem
  obtain ⟨s, -, rfl⟩ := List.mem_map.mp hitem
  exact .text s

theorem Value.proper_single (x : Single) : (Value.single x).Proper := by
  unfold Value.single
  split
  · exact .number (Numeral.proper_ofFinite _ _)
  · exact .null

theorem optional_optText (s : Option String) :
    optional Value.text? (some (.optText s)) = some s := by
  cases s <;> rfl

theorem list?_map {α : Type} {write : α → Value} {read : Value → Option α} {xs : List α}
    (hread : ∀ x ∈ xs, read (write x) = some x) :
    (Value.array (xs.map write)).list? read = some xs := by
  rw [Value.list?]
  induction xs with
  | nil => rfl
  | cons x xs ih =>
      have hrest := ih fun y hy => hread y (List.mem_cons_of_mem x hy)
      rw [List.map_cons, List.mapM_cons, hread x List.mem_cons_self, hrest]
      rfl

theorem texts?_texts (xs : List String) : (Value.texts xs).texts? = some xs :=
  list?_map fun _ _ => rfl

theorem natBelow?_nat {limit n : Nat} (hn : n < limit) :
    (Value.nat n).natBelow? limit = some n := by
  have hvalue : (Numeral.ofNat n).toNat? = some n := by
    rw [Numeral.toNat?, if_neg (by exact Bool.false_ne_true)]
    exact congrArg some (Decimal.value_digits n)
  rw [Value.nat, Value.natBelow?, hvalue, Option.filter_some, if_pos (decide_eq_true hn)]

end MatchingDecomp.Json
