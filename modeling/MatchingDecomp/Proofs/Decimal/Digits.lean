import Mathlib.Algebra.Group.Nat.Defs
import MatchingDecomp.Decimal.Digits
import MatchingDecomp.Proofs.Fragment.Name

/-!
# Digits and the numbers they denote

Writing a number and reading the digits gives the number back (`value_digits`, `value_padded`).
Between texts of digits of the same width the order of texts is the order of numbers
(`lt_iff_value_lt`), which is what padding with zeros is for.
-/

namespace MatchingDecomp.Decimal

open Text (isDigit isDigit_iff)

/-! ## The digits of a number -/

theorem isDigit_of_mem_digits {n : Nat} {c : Char} (hc : c ∈ digits n) : isDigit c = true := by
  have hdigit := Nat.isDigit_of_mem_toDigits (by omega) (by omega) hc
  simp only [Char.isDigit, Bool.and_eq_true, decide_eq_true_eq, UInt32.le_iff_toNat_le] at hdigit
  rw [isDigit_iff]
  exact hdigit

theorem digits_ne_nil (n : Nat) : digits n ≠ [] :=
  Nat.toDigits_ne_nil

theorem length_digits_le {width n : Nat} (hwidth : 0 < width) (hn : n < 10 ^ width) :
    (digits n).length ≤ width :=
  (Nat.length_toDigits_le_iff (by omega) hwidth).mpr hn

/-- Only the number zero is written with a zero in front. -/
theorem head?_digits {n : Nat} (hn : n ≠ 0) : (digits n).head? ≠ some '0' := by
  induction n using Nat.strongRecOn with
  | ind n ih =>
      rw [digits, Nat.toDigits_eq_if (by omega)]
      split
      · rename_i hlt
        intro hhead
        have hzero : n.digitChar = '0' := by simpa using hhead
        have hvalue := Nat.toNat_digitChar_of_lt_ten hlt
        rw [hzero] at hvalue
        change 48 = 48 + n at hvalue
        omega
      · rename_i hge
        have hfirst : (Nat.toDigits 10 (n / 10) ++ [(n % 10).digitChar]).head? =
            (digits (n / 10)).head? := by
          rw [List.head?_append_of_ne_nil _ Nat.toDigits_ne_nil]
          rfl
        rw [hfirst]
        exact ih (n / 10) (by omega) (by omega)

/-! ## The number of some digits -/

theorem value_eq_ofDigitChars (ds : List Char) : value ds = Nat.ofDigitChars 10 ds 0 := by
  have hstep : (fun (n : Nat) c => n * 10 + digitValue c) =
      fun n c => 10 * n + (c.toNat - '0'.toNat) := by
    funext n c
    rw [Nat.mul_comm, digitValue]
  rw [value, Nat.ofDigitChars_eq_foldl, hstep]

theorem value_append (ds es : List Char) :
    value (ds ++ es) = value ds * 10 ^ es.length + value es := by
  rw [value_eq_ofDigitChars, Nat.ofDigitChars_append, Nat.ofDigitChars_eq_ofDigitChars_zero,
    ← value_eq_ofDigitChars, ← value_eq_ofDigitChars, Nat.mul_comm]

theorem value_cons (c : Char) (ds : List Char) :
    value (c :: ds) = digitValue c * 10 ^ ds.length + value ds := by
  have hone : value [c] = digitValue c := by
    rw [value, List.foldl_cons, List.foldl_nil]
    omega
  rw [← List.singleton_append, value_append, hone]

theorem value_digits (n : Nat) : value (digits n) = n := by
  rw [value_eq_ofDigitChars, digits, Nat.ofDigitChars_ten_toDigits]

theorem value_replicate_zero (n : Nat) : value (List.replicate n '0') = 0 := by
  rw [value_eq_ofDigitChars, Nat.ofDigitChars_replicate_zero, Nat.mul_zero]

theorem digitValue_lt {c : Char} (hc : isDigit c = true) : digitValue c < 10 := by
  rw [isDigit_iff] at hc
  change c.toNat - 48 < 10
  omega

theorem value_lt {ds : List Char} (hds : ∀ c ∈ ds, isDigit c = true) :
    value ds < 10 ^ ds.length := by
  induction ds with
  | nil => exact Nat.one_pos
  | cons c ds ih =>
      have hc := digitValue_lt (hds c List.mem_cons_self)
      have hrest := ih fun d hd => hds d (List.mem_cons_of_mem c hd)
      rw [value_cons, List.length_cons, Nat.pow_succ]
      have hbound : digitValue c * 10 ^ ds.length ≤ 9 * 10 ^ ds.length :=
        Nat.mul_le_mul_right _ (by omega)
      omega

/-! ## The order of digits -/

theorem digitValue_lt_iff {c d : Char} (hc : isDigit c = true) (hd : isDigit d = true) :
    c < d ↔ digitValue c < digitValue d := by
  rw [isDigit_iff] at hc hd
  have hlt : c < d ↔ c.toNat < d.toNat := Iff.rfl
  have hvalue : digitValue c < digitValue d ↔ c.toNat - 48 < d.toNat - 48 := Iff.rfl
  rw [hlt, hvalue]
  omega

theorem digitValue_inj {c d : Char} (hc : isDigit c = true) (hd : isDigit d = true)
    (heq : digitValue c = digitValue d) : c = d := by
  rw [isDigit_iff] at hc hd
  apply Char.toNat_inj.mp
  change c.toNat - 48 = d.toNat - 48 at heq
  omega

/-- Digits of the same width are ordered like the numbers they denote. -/
theorem lt_iff_value_lt {ds es : List Char} (hlength : ds.length = es.length)
    (hds : ∀ c ∈ ds, isDigit c = true) (hes : ∀ c ∈ es, isDigit c = true) :
    ds < es ↔ value ds < value es := by
  induction ds generalizing es with
  | nil =>
      obtain rfl : es = [] := List.length_eq_zero_iff.mp hlength.symm
      simp
  | cons c ds ih =>
      cases es with
      | nil => cases hlength
      | cons d es =>
          have hwidth : ds.length = es.length := by simpa using hlength
          have hc := hds c List.mem_cons_self
          have hd := hes d List.mem_cons_self
          have hds' : ∀ x ∈ ds, isDigit x = true :=
            fun x hx => hds x (List.mem_cons_of_mem c hx)
          have hes' : ∀ x ∈ es, isDigit x = true :=
            fun x hx => hes x (List.mem_cons_of_mem d hx)
          have hsmall := value_lt hds'
          have hsmall' := value_lt hes'
          rw [List.cons_lt_cons_iff, ih hwidth hds' hes', value_cons, value_cons, hwidth,
            digitValue_lt_iff hc hd]
          rw [hwidth] at hsmall
          -- the first digits decide, because what follows them is less than one unit of them
          constructor
          · rintro (hlt | ⟨rfl, hlt⟩)
            · have hunit : (digitValue c + 1) * 10 ^ es.length ≤ digitValue d * 10 ^ es.length :=
                Nat.mul_le_mul_right _ hlt
              rw [Nat.add_mul] at hunit
              omega
            · omega
          · intro hlt
            rcases Nat.lt_trichotomy (digitValue c) (digitValue d) with hfirst | hfirst | hfirst
            · exact .inl hfirst
            · obtain rfl := digitValue_inj hc hd hfirst
              exact .inr ⟨rfl, by omega⟩
            · have hunit : (digitValue d + 1) * 10 ^ es.length ≤ digitValue c * 10 ^ es.length :=
                Nat.mul_le_mul_right _ hfirst
              rw [Nat.add_mul] at hunit
              omega

/-! ## Padding with zeros -/

theorem isDigit_of_mem_zeros {n : Nat} {c : Char} (hc : c ∈ List.replicate n '0') :
    isDigit c = true := by
  rw [List.eq_of_mem_replicate hc]
  rfl

theorem isDigit_of_mem_padded {width n : Nat} {c : Char} (hc : c ∈ padded width n) :
    isDigit c = true := by
  rcases List.mem_append.mp hc with hzero | hdigit
  · exact isDigit_of_mem_zeros hzero
  · exact isDigit_of_mem_digits hdigit

theorem value_padded (width n : Nat) : value (padded width n) = n := by
  rw [padded, value_append, value_replicate_zero, value_digits]
  omega

theorem length_padded {width n : Nat} (hwidth : 0 < width) (hn : n < 10 ^ width) :
    (padded width n).length = width := by
  have hle := length_digits_le hwidth hn
  rw [padded, List.length_append, List.length_replicate]
  omega

theorem padded_lt_iff {width m n : Nat} (hwidth : 0 < width) (hm : m < 10 ^ width)
    (hn : n < 10 ^ width) : padded width m < padded width n ↔ m < n := by
  have hlength : (padded width m).length = (padded width n).length := by
    rw [length_padded hwidth hm, length_padded hwidth hn]
  rw [lt_iff_value_lt hlength (fun c => isDigit_of_mem_padded)
    (fun c => isDigit_of_mem_padded), value_padded, value_padded]

theorem padded_inj {width m n : Nat} (heq : padded width m = padded width n) : m = n := by
  rw [← value_padded width m, heq, value_padded]

end MatchingDecomp.Decimal
