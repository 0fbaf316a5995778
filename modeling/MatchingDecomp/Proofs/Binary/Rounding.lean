import Mathlib.Algebra.Order.Floor.Semifield
import Mathlib.Data.Int.Log
import Mathlib.Data.Rat.Floor
import Mathlib.Tactic.FieldSimp
import Mathlib.Tactic.Linarith
import Mathlib.Tactic.Positivity
import Mathlib.Tactic.Ring
import MatchingDecomp.Binary.Format

/-!
# Rounding down what was rounded to nearest

A quotient is rounded to the nearest value of the 64-bit format, and the value is rounded down.  In
the range where the format has halves, this is the quotient rounded down, except that a quotient
which lies at most half a unit in the last place below a whole number counts as that number
(`floor_round_double`).

* `leadingExponent_eq_log`: the exponent of the leading bit is the logarithm of the quotient, so the
  unit in the last place is the power of two 52 below it.
* `le_roundDiv_iff_of_even`: an even number is reached from half a unit below it on.  Where the
  format has halves, every whole number is an even number of units.
-/

namespace MatchingDecomp.Binary

/-! ## The nearest whole number -/

theorem roundDiv_cases (n d : ℕ) : roundDiv n d = n / d ∨ roundDiv n d = n / d + 1 := by
  unfold roundDiv
  dsimp only
  split_ifs <;> simp

/-- An even number is reached from half a unit below it on: a tie goes to it. -/
theorem le_roundDiv_iff_of_even {n d m : ℕ} (hd : 0 < d) (heven : m % 2 = 0) :
    m ≤ roundDiv n d ↔ 2 * (m * d) ≤ 2 * n + d := by
  have hsplit := Nat.div_add_mod n d
  have hrest := Nat.mod_lt n hd
  rw [Nat.mul_comm] at hsplit
  rcases Nat.lt_trichotomy m (n / d + 1) with hbelow | rfl | habove
  · have hle : m * d ≤ n / d * d := Nat.mul_le_mul_right d (Nat.le_of_lt_succ hbelow)
    have hreached : m ≤ roundDiv n d := by
      rcases roundDiv_cases n d with hround | hround <;> omega
    exact iff_of_true hreached (by omega)
  · -- the quotient lies between this number and the odd one before it
    have hnext : (n / d + 1) * d = n / d * d + d := Nat.succ_mul _ _
    unfold roundDiv
    dsimp only
    split_ifs <;> omega
  · have hle : (n / d + 2) * d ≤ m * d := Nat.mul_le_mul_right d habove
    have hnext : (n / d + 2) * d = n / d * d + 2 * d := Nat.add_mul _ _ _
    have hmissed : ¬ m ≤ roundDiv n d := by
      rcases roundDiv_cases n d with hround | hround <;> omega
    exact iff_of_false hmissed (by omega)

/-! ## The leading bit -/

theorem twoPow_cast (k : ℕ) : ((twoPow k : ℕ) : ℚ) = 2 ^ k := by
  have hpow : twoPow k = 2 ^ k := rfl
  rw [hpow, Nat.cast_pow, Nat.cast_ofNat]

/-- A power of two with an exponent of either sign, as a quotient of two powers. -/
theorem two_zpow_eq (k : ℤ) : (2 : ℚ) ^ k = 2 ^ k.toNat / 2 ^ (-k).toNat := by
  rcases Int.le_total 0 k with hk | hk
  · obtain ⟨j, rfl⟩ := Int.eq_ofNat_of_zero_le hk
    simp
  · obtain ⟨j, hj⟩ := Int.eq_ofNat_of_zero_le (Int.neg_nonneg_of_nonpos hk)
    obtain rfl : k = -(j : ℤ) := by omega
    simp

theorem two_zpow_le_iff {n d : ℕ} (hd : 0 < d) (k : ℤ) :
    (2 : ℚ) ^ k ≤ (n : ℚ) / d ↔ d * twoPow k.toNat ≤ n * twoPow (-k).toNat := by
  have hd' : (0 : ℚ) < d := Nat.cast_pos.mpr hd
  rw [two_zpow_eq, div_le_div_iff₀ (by positivity) hd', ← Nat.cast_le (α := ℚ), Nat.cast_mul,
    Nat.cast_mul, twoPow_cast, twoPow_cast, mul_comm (d : ℚ)]

theorem leadingExponent_eq_log {n d : ℕ} (hn : 0 < n) (hd : 0 < d) :
    leadingExponent n d = Int.log 2 ((n : ℚ) / d) := by
  have hn' : (0 : ℚ) < n := Nat.cast_pos.mpr hn
  have hd' : (0 : ℚ) < d := Nat.cast_pos.mpr hd
  have hpos : (0 : ℚ) < (n : ℚ) / d := div_pos hn' hd'
  -- the logarithm is the one exponent with these two bounds
  have hunique : ∀ k : ℤ, (2 : ℚ) ^ k ≤ (n : ℚ) / d → (n : ℚ) / d < 2 ^ (k + 1) →
      k = Int.log 2 ((n : ℚ) / d) := by
    intro k hlow hhigh
    have hle := (Int.zpow_le_iff_le_log one_lt_two hpos).mp hlow
    have hlt := (Int.lt_zpow_iff_log_lt one_lt_two hpos).mp hhigh
    omega
  have hnlow : ((2 ^ n.log2 : ℕ) : ℚ) ≤ n := Nat.cast_le.mpr (Nat.log2_self_le hn.ne')
  have hnhigh : (n : ℚ) < ((2 ^ (n.log2 + 1) : ℕ) : ℚ) := Nat.cast_lt.mpr Nat.lt_log2_self
  have hdlow : ((2 ^ d.log2 : ℕ) : ℚ) ≤ d := Nat.cast_le.mpr (Nat.log2_self_le hd.ne')
  have hdhigh : (d : ℚ) < ((2 ^ (d.log2 + 1) : ℕ) : ℚ) := Nat.cast_lt.mpr Nat.lt_log2_self
  push_cast at hnlow hnhigh hdlow hdhigh
  have htwo : (2 : ℚ) ≠ 0 := two_ne_zero
  have hbelow : (2 : ℚ) ^ ((n.log2 : ℤ) - d.log2 - 1) ≤ (n : ℚ) / d := by
    have hpow : (2 : ℚ) ^ ((n.log2 : ℤ) - d.log2 - 1) = 2 ^ n.log2 / 2 ^ (d.log2 + 1) := by
      rw [sub_sub, zpow_sub₀ htwo]
      norm_cast
    rw [hpow]
    gcongr
  have habove : (n : ℚ) / d < 2 ^ ((n.log2 : ℤ) - d.log2 + 1) := by
    have hpow : (2 : ℚ) ^ ((n.log2 : ℤ) - d.log2 + 1) = 2 ^ (n.log2 + 1) / 2 ^ d.log2 := by
      rw [sub_add_eq_add_sub, zpow_sub₀ htwo]
      norm_cast
    rw [hpow]
    gcongr
  unfold leadingExponent
  dsimp only
  split_ifs with htest
  · exact hunique _ ((two_zpow_le_iff hd _).mpr htest) habove
  · rw [← two_zpow_le_iff hd, not_le] at htest
    exact hunique _ hbelow (by rwa [Int.sub_add_cancel])

/-! ## The value of a float -/

/-- The number that a mantissa and an exponent denote. -/
def Quantity.value (x : Quantity) : ℚ :=
  x.mantissa * 2 ^ x.exponent

theorem Quantity.floor_eq (x : Quantity) : x.floor = ⌊x.value⌋₊ := by
  have hvalue : x.value = (x.ratio.1 : ℚ) / (x.ratio.2 : ℚ) := by
    rw [value, two_zpow_eq, ratio, Nat.cast_mul, twoPow_cast, twoPow_cast, mul_div_assoc]
  rw [hvalue, Nat.floor_div_eq_div]
  rfl

/-- The exponent of the unit in which the 64-bit format rounds a quotient. -/
def doubleUnit (n d : ℕ) : ℤ :=
  max (-1074) (leadingExponent n d - 52)

/-- The nearest number of units to a quotient. -/
def doubleUnits (n d : ℕ) : ℕ :=
  roundDiv (n * twoPow (-doubleUnit n d).toNat) (d * twoPow (doubleUnit n d).toNat)

/-- A carry out of the mantissa moves into the exponent, and the number stays. -/
theorem round_double_cases {n d : ℕ} (hn : n ≠ 0) :
    (Format.double.round n d = none ∧ 0 < doubleUnit n d) ∨
      ∃ x, Format.double.round n d = some x ∧
        x.value = doubleUnits n d * 2 ^ doubleUnit n d := by
  have hround : Format.double.round n d =
      if 1024 < (if doubleUnits n d == twoPow 53 then doubleUnit n d + 1 else doubleUnit n d) + 53
      then none
      else some ⟨if doubleUnits n d == twoPow 53 then doubleUnits n d / 2 else doubleUnits n d,
        if doubleUnits n d == twoPow 53 then doubleUnit n d + 1 else doubleUnit n d⟩ := by
    rw [Format.round, if_neg hn]
    rfl
  rw [hround]
  by_cases hcarried : doubleUnits n d = 2 ^ 53
  · have htest : (doubleUnits n d == twoPow 53) = true := beq_iff_eq.mpr hcarried
    simp only [htest, if_true]
    split_ifs with hpast
    · exact .inl ⟨rfl, by omega⟩
    · refine .inr ⟨_, rfl, ?_⟩
      have hhalf : (2 ^ 53 / 2 : ℕ) = 2 ^ 52 := by decide
      rw [Quantity.value, hcarried, hhalf, zpow_add_one₀ two_ne_zero]
      push_cast
      ring
  · have htest : (doubleUnits n d == twoPow 53) = false := beq_eq_false_iff_ne.mpr hcarried
    simp only [htest, Bool.false_eq_true, if_false]
    split_ifs with hpast
    · exact .inl ⟨rfl, by omega⟩
    · exact .inr ⟨_, rfl, rfl⟩

/-! ## Rounding down -/

/-- Half a unit in the last of the 53 places of a number. -/
def halfUnit (v : ℚ) : ℚ :=
  2 ^ (Int.log 2 v - 53)

/-- A number that is at most half a unit in its last place below the next whole number. -/
def NearNext (v : ℚ) : Prop :=
  (⌊v⌋₊ + 1 : ℚ) - v ≤ halfUnit v

instance : DecidablePred NearNext := fun v =>
  inferInstanceAs (Decidable ((⌊v⌋₊ + 1 : ℚ) - v ≤ halfUnit v))

theorem floor_of_units {n d s : ℕ} {x : Quantity} (hunit : doubleUnit n d = -(s : ℤ))
    (hx : x.value = doubleUnits n d * 2 ^ doubleUnit n d) :
    x.floor = roundDiv (n * 2 ^ s) d / 2 ^ s := by
  have hunits : doubleUnits n d = roundDiv (n * 2 ^ s) d := by
    have hneg : (-doubleUnit n d).toNat = s := by omega
    have hpos : (doubleUnit n d).toNat = 0 := by omega
    rw [doubleUnits, hneg, hpos]
    show roundDiv (n * 2 ^ s) (d * 1) = _
    rw [Nat.mul_one]
  have hvalue : x.value = (roundDiv (n * 2 ^ s) d : ℚ) / ((2 ^ s : ℕ) : ℚ) := by
    rw [hx, hunits, hunit, zpow_neg, zpow_natCast, Nat.cast_pow, Nat.cast_ofNat, div_eq_mul_inv]
  rw [Quantity.floor_eq, hvalue, Nat.floor_div_eq_div]

/-- In units of a binary fraction, rounding reaches at most the next whole number. -/
theorem roundDiv_div_eq {n d s : ℕ} (hd : 0 < d) (hs : 0 < s) :
    roundDiv (n * 2 ^ s) d / 2 ^ s =
      if 2 * ((n / d + 1) * 2 ^ s * d) ≤ 2 * (n * 2 ^ s) + d then n / d + 1 else n / d := by
  have hpos : 0 < 2 ^ s := Nat.two_pow_pos s
  have heven : (n / d + 1) * 2 ^ s % 2 = 0 := by
    obtain ⟨t, rfl⟩ := Nat.exists_eq_add_one_of_ne_zero hs.ne'
    rw [Nat.pow_succ, ← Nat.mul_assoc, Nat.mul_mod_left]
  have hlow : n / d * 2 ^ s ≤ n * 2 ^ s / d := by
    rw [Nat.le_div_iff_mul_le hd, Nat.mul_right_comm]
    exact Nat.mul_le_mul_right _ (Nat.div_mul_le_self n d)
  have hhigh : n * 2 ^ s / d < (n / d + 1) * 2 ^ s := by
    rw [Nat.div_lt_iff_lt_mul hd, Nat.mul_right_comm]
    have hnext : n < (n / d + 1) * d := Nat.mul_comm d _ ▸ Nat.lt_mul_div_succ n hd
    exact Nat.mul_lt_mul_of_pos_right hnext hpos
  have hround := roundDiv_cases (n * 2 ^ s) d
  have hreached := le_roundDiv_iff_of_even (n := n * 2 ^ s) hd heven
  split_ifs with hclose
  · rw [← hreached] at hclose
    have hexact : roundDiv (n * 2 ^ s) d = (n / d + 1) * 2 ^ s := by omega
    rw [hexact, Nat.mul_div_cancel _ hpos]
  · rw [← hreached] at hclose
    have hge : n / d ≤ roundDiv (n * 2 ^ s) d / 2 ^ s := by
      rw [Nat.le_div_iff_mul_le hpos]
      omega
    have hlt : roundDiv (n * 2 ^ s) d / 2 ^ s < n / d + 1 := by
      rw [Nat.div_lt_iff_lt_mul hpos]
      omega
    omega

/-- The same closeness, said of the quotient. -/
theorem closeness_iff {n d s : ℕ} (hd : 0 < d) :
    2 * ((n / d + 1) * 2 ^ s * d) ≤ 2 * (n * 2 ^ s) + d ↔
      (⌊(n : ℚ) / d⌋₊ + 1 : ℚ) - (n : ℚ) / d ≤ 2 ^ (-(s : ℤ) - 1) := by
  have hd' : (0 : ℚ) < d := Nat.cast_pos.mpr hd
  have hpow : (2 : ℚ) ^ (-(s : ℤ) - 1) = 1 / (2 * 2 ^ s) := by
    rw [zpow_sub₀ two_ne_zero, zpow_neg, zpow_natCast, zpow_one]
    field_simp
  rw [Nat.floor_div_eq_div, hpow, ← Nat.cast_le (α := ℚ)]
  push_cast
  rw [sub_le_iff_le_add, div_add_div _ _ (by positivity) hd'.ne', le_div_iff₀ (by positivity)]
  constructor <;> intro hle <;> linarith

/-- A number below one half is not near one, in units of any size. -/
theorem not_near_of_lt_half {v : ℚ} (hv : v < 1 / 2) {e : ℤ} (he : e ≤ -1) :
    ¬ (⌊v⌋₊ + 1 : ℚ) - v ≤ 2 ^ e := by
  have hpow : (2 : ℚ) ^ e ≤ 2 ^ (-1 : ℤ) := zpow_le_zpow_right₀ one_le_two he
  have hhalf : (2 : ℚ) ^ (-1 : ℤ) = 1 / 2 := by norm_num
  have hfloor : (0 : ℚ) ≤ ⌊v⌋₊ := Nat.cast_nonneg _
  rw [hhalf] at hpow
  linarith

theorem nearNext_iff_of_unit {n d s : ℕ} (hn : 0 < n) (hd : 0 < d)
    (hunit : doubleUnit n d = -(s : ℤ)) :
    2 * ((n / d + 1) * 2 ^ s * d) ≤ 2 * (n * 2 ^ s) + d ↔ NearNext ((n : ℚ) / d) := by
  rw [closeness_iff hd, NearNext, halfUnit, ← hunit, doubleUnit, leadingExponent_eq_log hn hd]
  rcases Int.le_total (-1074) (Int.log 2 ((n : ℚ) / d) - 52) with hnormal | hsubnormal
  · rw [max_eq_right hnormal, sub_sub]
    norm_num
  · -- below the least normal number the unit stays, and one is far away
    have hv : (n : ℚ) / d < 1 / 2 := by
      have hlog := Int.lt_zpow_succ_log_self one_lt_two ((n : ℚ) / d)
      have hpow : (2 : ℚ) ^ (Int.log 2 ((n : ℚ) / d) + 1) ≤ 2 ^ (-1 : ℤ) :=
        zpow_le_zpow_right₀ one_le_two (by omega)
      have hhalf : (2 : ℚ) ^ (-1 : ℤ) = 1 / 2 := by norm_num
      rw [hhalf] at hpow
      exact lt_of_lt_of_le hlog hpow
    exact iff_of_false (not_near_of_lt_half hv (by omega)) (not_near_of_lt_half hv (by omega))

/-- Where the format has halves, a quotient that is rounded to nearest and then down is the quotient
rounded down, or the next whole number if the quotient is near it. -/
theorem floor_round_double {n d : ℕ} (hd : 0 < d) (hsmall : n / d < 2 ^ 52) :
    ∃ x, Format.double.round n d = some x ∧
      x.floor = if NearNext ((n : ℚ) / d) then n / d + 1 else n / d := by
  have hd' : (0 : ℚ) < d := Nat.cast_pos.mpr hd
  rcases Nat.eq_zero_or_pos n with rfl | hn
  · refine ⟨⟨0, -1074⟩, rfl, ?_⟩
    have hfar : ¬ NearNext (((0 : ℕ) : ℚ) / d) := by
      rw [NearNext, halfUnit, Nat.cast_zero, zero_div, Int.log_zero_right]
      exact not_near_of_lt_half (by norm_num) (by omega)
    rw [if_neg hfar, Quantity.floor_eq, Quantity.value]
    simp
  · have hpos : (0 : ℚ) < (n : ℚ) / d := div_pos (Nat.cast_pos.mpr hn) hd'
    have hhalves : doubleUnit n d ≤ -1 := by
      have hbelow : (n : ℚ) / d < ((2 : ℕ) : ℚ) ^ (52 : ℤ) := by
        rw [div_lt_iff₀ hd']
        exact_mod_cast (Nat.div_lt_iff_lt_mul hd).mp hsmall
      have hlog := (Int.lt_zpow_iff_log_lt one_lt_two hpos).mp hbelow
      rw [doubleUnit, leadingExponent_eq_log hn hd]
      omega
    obtain ⟨s, hs⟩ := Int.eq_ofNat_of_zero_le (show 0 ≤ -doubleUnit n d by omega)
    have hunit : doubleUnit n d = -(s : ℤ) := by omega
    rcases round_double_cases (d := d) hn.ne' with ⟨-, hpast⟩ | ⟨x, hx, hvalue⟩
    · omega
    · refine ⟨x, hx, ?_⟩
      rw [floor_of_units hunit hvalue, roundDiv_div_eq hd (by omega)]
      exact if_congr (nearNext_iff_of_unit hn hd hunit) rfl rfl

/-- Where the units are whole numbers, there are at least as many of them as the least normal
mantissa. -/
theorem le_doubleUnits {n d j : ℕ} (hn : 0 < n) (hd : 0 < d) (hunit : doubleUnit n d = j) :
    2 ^ 52 ≤ doubleUnits n d := by
  have hpos : (0 : ℚ) < (n : ℚ) / d := div_pos (Nat.cast_pos.mpr hn) (Nat.cast_pos.mpr hd)
  have hlog : Int.log 2 ((n : ℚ) / d) = ((j + 52 : ℕ) : ℤ) := by
    rw [doubleUnit, leadingExponent_eq_log hn hd] at hunit
    omega
  have hlead := Int.zpow_log_le_self one_lt_two hpos
  rw [hlog, Nat.cast_ofNat, two_zpow_le_iff hd] at hlead
  have hzero : ∀ i : ℕ, (-(i : ℤ)).toNat = 0 := fun i => by omega
  have hnumber : 2 ^ 52 ≤ n / (d * 2 ^ j) := by
    rw [Int.toNat_natCast, hzero] at hlead
    rw [Nat.le_div_iff_mul_le (Nat.mul_pos hd (Nat.two_pow_pos j))]
    calc 2 ^ 52 * (d * 2 ^ j) = d * 2 ^ (j + 52) := by ring
      _ ≤ n * 2 ^ 0 := hlead
      _ = n := by rw [Nat.pow_zero, Nat.mul_one]
  have hunits : doubleUnits n d = roundDiv n (d * 2 ^ j) := by
    rw [doubleUnits, hunit, Int.toNat_natCast, hzero]
    show roundDiv (n * 1) (d * 2 ^ j) = _
    rw [Nat.mul_one]
  rw [hunits]
  rcases roundDiv_cases n (d * 2 ^ j) with hround | hround <;> omega

/-- A quotient that is past a number of 53 bits stays past it. -/
theorem le_floor_round_double {n d k : ℕ} (hd : 0 < d) (hk : k ≤ 2 ^ 53) (hle : k ≤ n / d)
    {x : Quantity} (hx : Format.double.round n d = some x) : k ≤ x.floor := by
  rcases Nat.eq_zero_or_pos n with rfl | hn
  · rw [Nat.zero_div] at hle
    omega
  obtain ⟨hnone, -⟩ | ⟨y, hy, hvalue⟩ := round_double_cases (d := d) hn.ne'
  · rw [hnone] at hx
    cases hx
  obtain rfl : x = y := by
    rw [hy] at hx
    exact (Option.some.inj hx).symm
  rcases Int.lt_or_le 0 (doubleUnit n d) with hwhole | hfraction
  · obtain ⟨j, hj⟩ := Int.eq_ofNat_of_zero_le hwhole.le
    have hmany := le_doubleUnits hn hd hj
    have hvalue : x.value = ((doubleUnits n d * 2 ^ j : ℕ) : ℚ) := by
      rw [hvalue, hj]
      push_cast
      rfl
    rw [Quantity.floor_eq, hvalue, Nat.floor_natCast]
    calc k ≤ 2 ^ 52 * 2 ^ 1 := hk
      _ ≤ doubleUnits n d * 2 ^ j :=
          Nat.mul_le_mul hmany (Nat.pow_le_pow_right (by decide) (by omega))
  · obtain ⟨s, hs⟩ := Int.eq_ofNat_of_zero_le (Int.neg_nonneg_of_nonpos hfraction)
    have hunit : doubleUnit n d = -(s : ℤ) := by omega
    rw [floor_of_units hunit hvalue, Nat.le_div_iff_mul_le (Nat.two_pow_pos s)]
    have hfloor : k * 2 ^ s ≤ n * 2 ^ s / d := by
      rw [Nat.le_div_iff_mul_le hd, Nat.mul_right_comm]
      exact Nat.mul_le_mul_right _ ((Nat.le_div_iff_mul_le hd).mp hle)
    rcases roundDiv_cases (n * 2 ^ s) d with hround | hround <;> omega

end MatchingDecomp.Binary
