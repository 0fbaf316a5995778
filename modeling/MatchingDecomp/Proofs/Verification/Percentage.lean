import Mathlib.Data.List.DropRight
import MatchingDecomp.Proofs.Binary.Rounding
import MatchingDecomp.Proofs.Decimal.Digits
import MatchingDecomp.Proofs.Text.Offsets
import MatchingDecomp.Verification.Percentage
import MatchingDecomp.Verification.Verdict

/-!
# Which percentage a report gives

The percentage of a text is told here without the scanner.  In front of every percent sign stands a
candidate: the longest run of digits and points, without the points it begins with (`Candidate`).
The first sign whose candidate is a numeral decides (`parse?_eq_some_iff`).

The numeral is read as a 64-bit float before it is rounded down, so the score is the numeral rounded
down only if it is not too near the next whole number (`floor_eq_rounded`).  That is too near for a
numeral with many places only: see `rounded_of_few_places` and `lt_rounded_iff`.

A text that is kept as bytes is searched backwards from each sign, byte by byte.  The run that is
cut out in this way is the run of characters (`ByOffset.startOf_encode`), because the last byte of a
character is the byte of a digit or a point exactly if the character is one.
-/

namespace MatchingDecomp.Percentage

open Binary Text

/-! ## Numerals -/

/-- A text is a numeral: digits, or digits, a point and perhaps more digits. -/
inductive Numeral : List Char → ℚ → Prop where
  | whole {digits : List Char} (hsome : digits ≠ [])
      (hdigits : ∀ c ∈ digits, isDigit c = true) : Numeral digits (Decimal.value digits)
  | pointed {digits places : List Char} (hsome : digits ≠ [])
      (hdigits : ∀ c ∈ digits, isDigit c = true) (hplaces : ∀ c ∈ places, isDigit c = true) :
      Numeral (digits ++ '.' :: places)
        (Decimal.value digits + Decimal.value places / 10 ^ places.length)

/-- The digits before the point, and those after it. -/
theorem parts?_eq_some_iff {cs digits places : List Char} :
    parts? cs = some (digits, places) ↔
      digits ≠ [] ∧ (∀ c ∈ digits, isDigit c = true) ∧ (∀ c ∈ places, isDigit c = true) ∧
        (cs = digits ∧ places = [] ∨ cs = digits ++ '.' :: places) := by
  constructor
  · intro hparts
    unfold parts? at hparts
    dsimp only at hparts
    have hall : ∀ c ∈ cs.takeWhile isDigit, isDigit c = true := fun c hc =>
      List.mem_takeWhile_imp hc
    have hsplit : cs = cs.takeWhile isDigit ++ cs.drop (cs.takeWhile isDigit).length :=
      List.prefix_iff_eq_append.mp (List.takeWhile_prefix isDigit) |>.symm
    split at hparts
    · cases hparts
    · rename_i hsome
      have hsome : cs.takeWhile isDigit ≠ [] := by simpa using hsome
      split at hparts
      · rename_i hrest
        obtain ⟨rfl, rfl⟩ := Prod.mk.inj (Option.some.inj hparts)
        rw [hrest, List.append_nil] at hsplit
        exact ⟨hsome, hall, by simp, .inl ⟨hsplit, rfl⟩⟩
      · rename_i fraction hrest
        rw [Option.ite_none_right_eq_some] at hparts
        obtain ⟨hplaces, hparts⟩ := hparts
        obtain ⟨rfl, rfl⟩ := Prod.mk.inj (Option.some.inj hparts)
        rw [hrest] at hsplit
        exact ⟨hsome, hall, List.all_eq_true.mp hplaces, .inr hsplit⟩
      · cases hparts
  · rintro ⟨hsome, hdigits, hplaces, hcs⟩
    have hempty : digits.isEmpty = false := by simpa using hsome
    have htake : cs.takeWhile isDigit = digits := by
      rcases hcs with ⟨rfl, -⟩ | rfl
      · exact List.takeWhile_eq_self_iff.mpr hdigits
      · rw [List.takeWhile_append_of_pos hdigits, List.takeWhile_cons_of_neg (by decide),
          List.append_nil]
    unfold parts?
    dsimp only
    rw [htake, hempty, if_neg Bool.false_ne_true]
    rcases hcs with ⟨rfl, rfl⟩ | rfl
    · rw [List.drop_length]
    · rw [List.drop_left]
      exact if_pos (List.all_eq_true.mpr hplaces)

/-! ## The score of a numeral -/

/-- The score of a number: the number rounded down, or the next whole number if it is too near for a
64-bit float to tell, and never past the limit. -/
def rounded (v : ℚ) : ℕ :=
  min (if NearNext v then ⌊v⌋₊ + 1 else ⌊v⌋₊) limit

theorem floor_eq_rounded (digits places : List Char) :
    floor digits places =
      rounded (Decimal.value digits + Decimal.value places / 10 ^ places.length) := by
  have hd : 0 < 10 ^ places.length := Nat.pow_pos (by decide)
  obtain ⟨n, hn⟩ : ∃ n, n = Decimal.value (digits ++ places) := ⟨_, rfl⟩
  have hv : (Decimal.value digits + Decimal.value places / 10 ^ places.length : ℚ) =
      (n : ℚ) / ((10 ^ places.length : ℕ) : ℚ) := by
    rw [hn, Decimal.value_append, eq_div_iff (by positivity)]
    push_cast
    field_simp
  have hten : Decimal.tenPow places.length = 10 ^ places.length := rfl
  rw [hv, rounded, Nat.floor_div_eq_div, floor, ← hn, hten]
  by_cases hsmall : n / 10 ^ places.length < limit
  · obtain ⟨x, hx, hxfloor⟩ := floor_round_double hd (hsmall.trans (by decide))
    rw [hx, ← hxfloor]
  · -- past the limit it does not matter which way the number is rounded
    rw [Nat.not_lt] at hsmall
    have hlimit : limit ≤ if NearNext ((n : ℚ) / ((10 ^ places.length : ℕ) : ℚ)) then
        n / 10 ^ places.length + 1 else n / 10 ^ places.length := by
      split_ifs <;> omega
    rw [Nat.min_eq_right hlimit]
    cases hx : Format.double.round n (10 ^ places.length) with
    | none => rfl
    | some x => exact Nat.min_eq_right (le_floor_round_double hd (by decide) hsmall hx)

theorem floor_whole (digits : List Char) :
    floor digits [] = rounded (Decimal.value digits) := by
  have hplaces : (Decimal.value [] / 10 ^ ([] : List Char).length : ℚ) = 0 := by
    simp [Decimal.value]
  rw [floor_eq_rounded, hplaces, add_zero]

/-- Below 91, only a number that lies next to 91 is taken for a match. -/
theorem lt_rounded_iff {v : ℚ} (hv : 0 ≤ v) (hbelow : v < 91) :
    matchThreshold < rounded v ↔ 91 - v ≤ 2 ^ (-47 : ℤ) := by
  have hfloor : ⌊v⌋₊ < 91 := (Nat.floor_lt hv).mpr hbelow
  by_cases hninety : ⌊v⌋₊ = 90
  · have hone : (1 : ℚ) ≤ v := (Nat.one_le_floor_iff v).mp (by omega)
    have hlog : Int.log 2 v = 6 := by
      rw [Int.log_of_one_le_right 2 hone, hninety]
      decide
    have hnear : NearNext v ↔ 91 - v ≤ 2 ^ (-47 : ℤ) := by
      rw [NearNext, halfUnit, hlog, hninety]
      norm_num
    rw [← hnear, rounded, hninety]
    split_ifs with hnext <;> simp [hnext, matchThreshold, limit]
  · have hninety' : ⌊v⌋₊ < 90 := by omega
    have hscore : rounded v ≤ matchThreshold := by
      refine le_trans (Nat.min_le_left _ _) ?_
      show _ ≤ 90
      split_ifs <;> omega
    have hfar : v < 90 := (Nat.floor_lt hv).mp hninety'
    have hpow : (2 : ℚ) ^ (-47 : ℤ) ≤ 1 := by norm_num
    refine iff_of_false (Nat.not_lt.mpr hscore) ?_
    rw [not_le]
    linarith

/-- With few places a number is not so near the next whole number that it would be taken for it. -/
theorem rounded_of_few_places {n k : ℕ} (hk : k ≤ 14) (hsmall : (n : ℚ) / 10 ^ k < 128) :
    rounded ((n : ℚ) / 10 ^ k) = ⌊(n : ℚ) / 10 ^ k⌋₊ := by
  have hten : (0 : ℚ) < 10 ^ k := by positivity
  have hfloor : ⌊(n : ℚ) / 10 ^ k⌋₊ = n / 10 ^ k := by
    exact_mod_cast Nat.floor_div_eq_div (K := ℚ) n (10 ^ k)
  have hunit : halfUnit ((n : ℚ) / 10 ^ k) ≤ 2 ^ (-47 : ℤ) := by
    have hlog : Int.log 2 ((n : ℚ) / 10 ^ k) < 7 := by
      rcases Nat.eq_zero_or_pos n with rfl | hn
      · simp
      · have hpos : (0 : ℚ) < (n : ℚ) / 10 ^ k := div_pos (Nat.cast_pos.mpr hn) hten
        refine (Int.lt_zpow_iff_log_lt one_lt_two hpos).mp (lt_of_lt_of_eq hsmall ?_)
        norm_num
    exact zpow_le_zpow_right₀ one_le_two (by omega)
  have hgap : (1 : ℚ) / 10 ^ 14 ≤ (⌊(n : ℚ) / 10 ^ k⌋₊ + 1) - (n : ℚ) / 10 ^ k := by
    have hnext : (n : ℚ) + 1 ≤ (⌊(n : ℚ) / 10 ^ k⌋₊ + 1) * 10 ^ k := by
      rw [hfloor]
      have hnat : n + 1 ≤ (n / 10 ^ k + 1) * 10 ^ k :=
        Nat.mul_comm (10 ^ k) _ ▸ Nat.lt_mul_div_succ n (Nat.pow_pos (by decide))
      exact_mod_cast hnat
    calc (1 : ℚ) / 10 ^ 14 ≤ 1 / 10 ^ k :=
          one_div_le_one_div_of_le hten (pow_le_pow_right₀ (by norm_num) hk)
      _ = ((n : ℚ) + 1) / 10 ^ k - (n : ℚ) / 10 ^ k := by ring
      _ ≤ (⌊(n : ℚ) / 10 ^ k⌋₊ + 1) - (n : ℚ) / 10 ^ k :=
          sub_le_sub_right ((div_le_iff₀ hten).mpr hnext) _
  have hfar : ¬ NearNext ((n : ℚ) / 10 ^ k) := by
    have hpow : (2 : ℚ) ^ (-47 : ℤ) < 1 / 10 ^ 14 := by norm_num
    rw [NearNext, not_le]
    linarith
  have hlimit : ⌊(n : ℚ) / 10 ^ k⌋₊ ≤ limit := by
    have hnat : ⌊(n : ℚ) / 10 ^ k⌋₊ < 128 := (Nat.floor_lt (by positivity)).mpr hsmall
    show _ ≤ 4294967295
    omega
  rw [rounded, if_neg hfar, Nat.min_eq_left hlimit]

/-- The characters in front of a sign have a score if they are a numeral. -/
theorem score_eq_some_iff {candidate : List Char} {score : ℕ} :
    ((parts? candidate).map fun (digits, places) => floor digits places) = some score ↔
      ∃ v, Numeral candidate v ∧ score = rounded v := by
  rw [Option.map_eq_some_iff]
  constructor
  · rintro ⟨⟨digits, places⟩, hparts, rfl⟩
    obtain ⟨hsome, hdigits, hplaces, ⟨rfl, rfl⟩ | rfl⟩ := parts?_eq_some_iff.mp hparts
    · exact ⟨_, .whole hsome hdigits, floor_whole _⟩
    · exact ⟨_, .pointed hsome hdigits hplaces, floor_eq_rounded _ _⟩
  · rintro ⟨v, hnumeral, rfl⟩
    cases hnumeral with
    | whole hsome hdigits =>
        exact ⟨(candidate, []), parts?_eq_some_iff.mpr ⟨hsome, hdigits, by simp, .inl ⟨rfl, rfl⟩⟩,
          floor_whole _⟩
    | @pointed digits places hsome hdigits hplaces =>
        exact ⟨(digits, places), parts?_eq_some_iff.mpr ⟨hsome, hdigits, hplaces, .inr rfl⟩,
          floor_eq_rounded _ _⟩

/-! ## Candidates -/

/-- The candidate of a sign, given what stands before the sign: the longest run of digits and
points, without the points it begins with. -/
def Candidate (before candidate : List Char) : Prop :=
  ∃ lead points, before = lead ++ points ++ candidate ∧
    (∀ c ∈ lead.getLast?, ¬ (isDigit c = true ∨ c = '.')) ∧ (∀ c ∈ points, c = '.') ∧
    (∀ c ∈ candidate, isDigit c = true ∨ c = '.') ∧ candidate.head? ≠ some '.'

theorem isNumeric_iff {c : Char} : isNumeric c = true ↔ isDigit c = true ∨ c = '.' := by
  rw [isNumeric, Bool.or_eq_true, beq_iff_eq]

theorem rtakeWhile_append {lead run : List Char} (hrun : ∀ c ∈ run, isNumeric c = true)
    (hlead : ∀ c ∈ lead.getLast?, isNumeric c = false) :
    (lead ++ run).rtakeWhile isNumeric = run := by
  have hrun' : ∀ c ∈ run.reverse, isNumeric c = true := fun c hc => hrun c (List.mem_reverse.mp hc)
  have hstop : lead.reverse.takeWhile isNumeric = [] := by
    rcases List.eq_nil_or_concat lead with rfl | ⟨front, last, rfl⟩
    · rfl
    · have hlast : isNumeric last = false := hlead last (by simp)
      simp [hlast]
  rw [List.rtakeWhile, List.reverse_append, List.takeWhile_append_of_pos hrun', hstop,
    List.append_nil, List.reverse_reverse]

theorem candidate_iff {before candidate : List Char} :
    Candidate before candidate ↔
      candidate = (before.rtakeWhile isNumeric).dropWhile (· == '.') := by
  simp only [Candidate, ← isNumeric_iff, Bool.not_eq_true]
  constructor
  · rintro ⟨lead, points, rfl, hlead, hpoints, hcandidate, hhead⟩
    have hrun : ∀ c ∈ points ++ candidate, isNumeric c = true := by
      intro c hc
      rcases List.mem_append.mp hc with hpoint | hc
      · rw [hpoints c hpoint]
        rfl
      · exact hcandidate c hc
    have hpoints' : ∀ c ∈ points, (c == '.') = true := fun c hc => beq_iff_eq.mpr (hpoints c hc)
    rw [List.append_assoc, rtakeWhile_append hrun hlead, List.dropWhile_append_of_pos hpoints']
    cases candidate with
    | nil => rfl
    | cons c rest =>
        have hc : (c == '.') = false := by
          rw [beq_eq_false_iff_ne]
          rintro rfl
          exact hhead rfl
        rw [List.dropWhile_cons, hc, if_neg Bool.false_ne_true]
  · rintro rfl
    refine ⟨before.rdropWhile isNumeric, (before.rtakeWhile isNumeric).takeWhile (· == '.'), ?_, ?_,
      ?_, ?_, ?_⟩
    · rw [List.append_assoc, List.takeWhile_append_dropWhile, List.rdropWhile_append_rtakeWhile]
    · intro c hc
      obtain ⟨hsome, rfl⟩ := List.mem_getLast?_eq_getLast hc
      exact Bool.eq_false_iff.mpr (List.rdropWhile_last_not _ _ hsome)
    · intro c hc
      have hpoint := List.mem_takeWhile_imp (p := (· == '.')) hc
      exact beq_iff_eq.mp hpoint
    · intro c hc
      exact List.mem_rtakeWhile_imp ((List.dropWhile_suffix _).subset hc)
    · intro hhead
      have hnot := List.head?_dropWhile_not (· == '.') (before.rtakeWhile isNumeric)
      rw [hhead] at hnot
      simp at hnot

/-- The sign after a text has a candidate that is a numeral. -/
def HasNumeral (before : List Char) : Prop :=
  ∃ candidate v, Candidate before candidate ∧ Numeral candidate v

/-- The score of the sign after a text. -/
def scoreAfter? (before : List Char) : Option ℕ :=
  value? (before.rtakeWhile isNumeric)

theorem scoreAfter?_eq_some_iff {before : List Char} {score : ℕ} :
    scoreAfter? before = some score ↔
      ∃ candidate v, Candidate before candidate ∧ Numeral candidate v ∧ score = rounded v := by
  rw [scoreAfter?, value?, score_eq_some_iff]
  simp only [candidate_iff]
  constructor
  · rintro ⟨v, hnumeral, hscore⟩
    exact ⟨_, v, rfl, hnumeral, hscore⟩
  · rintro ⟨candidate, v, rfl, hnumeral, hscore⟩
    exact ⟨v, hnumeral, hscore⟩

theorem scoreAfter?_eq_none_iff {before : List Char} :
    scoreAfter? before = none ↔ ¬ HasNumeral before := by
  rw [Option.eq_none_iff_forall_ne_some]
  constructor
  · rintro hnone ⟨candidate, v, hcandidate, hnumeral⟩
    exact hnone _ (scoreAfter?_eq_some_iff.mpr ⟨candidate, v, hcandidate, hnumeral, rfl⟩)
  · intro hnone score hscore
    obtain ⟨candidate, v, hcandidate, hnumeral, -⟩ := scoreAfter?_eq_some_iff.mp hscore
    exact hnone ⟨candidate, v, hcandidate, hnumeral⟩

/-! ## The sign that decides -/

/-- What stands before each percent sign of a text, where `before` has been read already. -/
def fronts (before : List Char) : List Char → List (List Char)
  | [] => []
  | c :: cs => (if c = '%' then [before] else []) ++ fronts (before ++ [c]) cs

/-- The scanner keeps the run of digits and points at the end of what it has read. -/
theorem parseFrom_eq (before cs : List Char) :
    parseFrom (before.rtakeWhile isNumeric).reverse cs =
      (fronts before cs).findSome? scoreAfter? := by
  induction cs generalizing before with
  | nil => rfl
  | cons c cs ih =>
      have hnext := ih (before ++ [c])
      rw [List.rtakeWhile_concat] at hnext
      rw [parseFrom, fronts, List.reverse_reverse]
      by_cases hsign : c = '%'
      · have hother : isNumeric c = false := by
          rw [hsign]
          decide
        rw [hother, if_neg Bool.false_ne_true] at hnext
        rw [if_pos hsign, if_pos hsign, List.singleton_append, List.findSome?_cons]
        change (scoreAfter? before).or (parseFrom [] cs) = _
        rw [show parseFrom [] cs = _ from hnext]
        cases scoreAfter? before <;> rfl
      · rw [if_neg hsign, if_neg hsign, List.nil_append, ← hnext]
        cases hnumeric : isNumeric c with
        | true => rw [if_pos rfl, if_pos rfl, List.reverse_concat]
        | false => rfl

theorem parse?_eq (text : String) :
    parse? text = (fronts [] text.toList).findSome? scoreAfter? := by
  rw [← parseFrom_eq, List.rtakeWhile_nil]
  rfl

theorem fronts_append (before first second : List Char) :
    fronts before (first ++ second) = fronts before first ++ fronts (before ++ first) second := by
  induction first generalizing before with
  | nil => rw [List.append_nil]; rfl
  | cons c first ih =>
      rw [List.cons_append, fronts, fronts, ih, List.append_assoc, List.append_assoc,
        List.singleton_append]

theorem fronts_sign (before after : List Char) :
    fronts before ('%' :: after) = before :: fronts (before ++ ['%']) after := rfl

/-- The signs before a sign are those of the text before it. -/
theorem fronts_eq_append_cons {before cs front : List Char} {earlier later : List (List Char)}
    (hfronts : fronts before cs = earlier ++ front :: later) :
    ∃ read after, cs = read ++ '%' :: after ∧ front = before ++ read ∧
      earlier = fronts before read := by
  induction cs generalizing before earlier with
  | nil =>
      have hnil : [] = earlier ++ front :: later := hfronts
      simp at hnil
  | cons c cs ih =>
      by_cases hsign : c = '%'
      · subst hsign
        rw [fronts_sign] at hfronts
        cases earlier with
        | nil =>
            obtain ⟨rfl, -⟩ := List.cons.inj hfronts
            exact ⟨[], cs, rfl, (List.append_nil _).symm, rfl⟩
        | cons first earlier =>
            obtain ⟨rfl, hrest⟩ := List.cons.inj hfronts
            obtain ⟨read, after, rfl, rfl, rfl⟩ := ih hrest
            exact ⟨'%' :: read, after, rfl, List.append_assoc .., rfl⟩
      · have hskip : ∀ rest, fronts before (c :: rest) = fronts (before ++ [c]) rest := by
          intro rest
          rw [fronts, if_neg hsign, List.nil_append]
        rw [hskip] at hfronts
        obtain ⟨read, after, rfl, rfl, rfl⟩ := ih hfronts
        exact ⟨c :: read, after, rfl, List.append_assoc .., (hskip read).symm⟩

theorem mem_fronts_iff {front cs : List Char} :
    front ∈ fronts [] cs ↔ ∃ after, cs = front ++ '%' :: after := by
  constructor
  · intro hfront
    obtain ⟨earlier, later, hfronts⟩ := List.append_of_mem hfront
    obtain ⟨read, after, hcs, rfl, -⟩ := fronts_eq_append_cons hfronts
    exact ⟨after, hcs⟩
  · rintro ⟨after, rfl⟩
    rw [fronts_append, List.nil_append, fronts_sign]
    simp

/-- The first sign with a numeral decides. -/
theorem parse?_eq_some_iff {text : String} {score : ℕ} :
    parse? text = some score ↔
      ∃ before after, text.toList = before ++ '%' :: after ∧
        (∃ candidate v, Candidate before candidate ∧ Numeral candidate v ∧ score = rounded v) ∧
        ∀ earlier later, before = earlier ++ '%' :: later → ¬ HasNumeral earlier := by
  rw [parse?_eq, List.findSome?_eq_some_iff]
  constructor
  · rintro ⟨earlier, before, later, hfronts, hscore, hnone⟩
    obtain ⟨_, after, htext, rfl, rfl⟩ := fronts_eq_append_cons hfronts
    refine ⟨before, after, htext, scoreAfter?_eq_some_iff.mp hscore, ?_⟩
    rintro front rest rfl
    exact scoreAfter?_eq_none_iff.mp (hnone front (mem_fronts_iff.mpr ⟨rest, rfl⟩))
  · rintro ⟨before, after, htext, hscore, hnone⟩
    refine ⟨fronts [] before, before, fronts (before ++ ['%']) after, ?_,
      scoreAfter?_eq_some_iff.mpr hscore, ?_⟩
    · rw [htext, fronts_append, List.nil_append, fronts_sign]
    · intro front hfront
      obtain ⟨rest, hrest⟩ := mem_fronts_iff.mp hfront
      exact scoreAfter?_eq_none_iff.mpr (hnone front rest hrest)

theorem parse?_eq_none_iff {text : String} :
    parse? text = none ↔
      ∀ before after, text.toList = before ++ '%' :: after → ¬ HasNumeral before := by
  rw [parse?_eq, List.findSome?_eq_none_iff]
  simp only [scoreAfter?_eq_none_iff, mem_fronts_iff, forall_exists_index]

/-! ## Searching by offsets -/

namespace ByOffset

/-- The bytes of the digits and the point. -/
def isNumericByte (b : UInt8) : Bool :=
  (0x30 ≤ b && b ≤ 0x39) || b == 0x2E

/-- The offset of the last byte with a property. -/
def lastOffset? (p : UInt8 → Bool) (bytes : Bytes) : Option ℕ :=
  (bytes.reverse.findIdx? p).map (bytes.length - 1 - ·)

/-- The offset at which the run of digits and points at the end of some bytes begins. -/
def startOf (bytes : Bytes) : ℕ :=
  ((lastOffset? (fun b => !isNumericByte b) bytes).map (· + 1)).getD 0

/-- The first percentage among the signs at the given offsets of a text. -/
def parseAmong (text : List Char) : List ℕ → Except CutError (Option ℕ)
  | [] => .ok none
  | offset :: later => do
    let (before, _) ← cut text offset
    let (_, run) ← cut before (startOf ((Utf8.encode text).take offset))
    match value? run with
    | some score => return some score
    | none => parseAmong text later

/-- The first percentage in a text. -/
def parse (text : String) : Except CutError (Option ℕ) :=
  parseAmong text.toList (offsetsOf ['%'] text.toList)

theorem startOf_concat (bytes : Bytes) (b : UInt8) :
    startOf (bytes ++ [b]) = if isNumericByte b then startOf bytes else bytes.length + 1 := by
  rw [startOf, lastOffset?, List.reverse_concat, List.findIdx?_cons, List.length_append,
    List.length_singleton]
  cases isNumericByte b with
  | false => simp
  | true =>
      rw [if_pos rfl, if_neg (by decide), startOf, lastOffset?]
      cases bytes.reverse.findIdx? fun b => !isNumericByte b with
      | none => rfl
      | some i =>
          show bytes.length + 1 - 1 - (i + 1) + 1 = bytes.length - 1 - i + 1
          omega

theorem isNumericByte_ofNat {n : ℕ} (hn : n < 256) :
    isNumericByte (UInt8.ofNat n) = true ↔ 48 ≤ n ∧ n ≤ 57 ∨ n = 46 := by
  have hbyte : (UInt8.ofNat n).toNat = n := by
    rw [UInt8.toNat_ofNat']
    exact Nat.mod_eq_of_lt hn
  simp only [isNumericByte, Bool.or_eq_true, Bool.and_eq_true, decide_eq_true_eq, beq_iff_eq,
    UInt8.le_iff_toNat_le, ← UInt8.toNat_inj, hbyte]
  rfl

/-- The last byte of a character tells whether the character is a digit or a point. -/
theorem utf8EncodeChar_eq (c : Char) :
    ∃ front last, String.utf8EncodeChar c = front ++ [last] ∧
      isNumericByte last = isNumeric c ∧ (isNumeric c = true → front = []) := by
  have hpoint : c = '.' ↔ c.toNat = 46 := (Char.toNat_inj (d := '.')).symm
  have hchar : isNumeric c = true ↔ 48 ≤ c.toNat ∧ c.toNat ≤ 57 ∨ c.toNat = 46 := by
    rw [isNumeric_iff, isDigit_iff, hpoint]
  -- the bytes of a character past ASCII are all past ASCII
  have hpast : ∀ n : ℕ, isNumericByte (UInt8.ofNat (n % 64 + 128)) = false := by
    intro n
    rw [Bool.eq_false_iff, ne_eq, isNumericByte_ofNat (by omega)]
    omega
  unfold String.utf8EncodeChar
  change ∃ front last, (let v := c.toNat; if v ≤ 127 then _ else _) = _ ∧ _
  dsimp only
  by_cases hascii : c.toNat ≤ 127
  · refine ⟨[], UInt8.ofNat c.toNat, by rw [if_pos hascii]; rfl, ?_, fun _ => rfl⟩
    rw [Bool.eq_iff_iff, isNumericByte_ofNat (by omega), hchar]
  · have hother : isNumeric c = false := by
      rw [Bool.eq_false_iff, ne_eq, hchar]
      omega
    rw [if_neg hascii, hother]
    split_ifs
    · exact ⟨[_], _, rfl, hpast _, nofun⟩
    · exact ⟨[_, _], _, rfl, hpast _, nofun⟩
    · exact ⟨[_, _, _], _, rfl, hpast _, nofun⟩

theorem startOf_encode (text : List Char) :
    startOf (Utf8.encode text) = byteLength (text.rdropWhile isNumeric) := by
  induction text using List.reverseRecOn with
  | nil => rfl
  | append_singleton text c ih =>
      obtain ⟨front, last, hencode, hlast, hfront⟩ := utf8EncodeChar_eq c
      have hsplit : Utf8.encode (text ++ [c]) = Utf8.encode text ++ front ++ [last] := by
        rw [Utf8.encode, List.flatMap_append, List.flatMap_singleton, hencode, ← List.append_assoc]
        rfl
      rw [List.rdropWhile_concat, hsplit, startOf_concat, hlast]
      cases hnumeric : isNumeric c with
      | true => rw [if_pos rfl, if_pos rfl, hfront hnumeric, List.append_nil, ih]
      | false =>
          rw [if_neg Bool.false_ne_true, if_neg Bool.false_ne_true, byteLength, hsplit]
          simp only [List.length_append, List.length_singleton]

theorem offsetsOf_eq (before cs : List Char) :
    (offsetsOf ['%'] cs).map (byteLength before + ·) = (fronts before cs).map byteLength := by
  induction cs generalizing before with
  | nil => rfl
  | cons c cs ih =>
      have hlater : ((offsetsOf ['%'] cs).map (c.utf8Size + ·)).map (byteLength before + ·) =
          (fronts (before ++ [c]) cs).map byteLength := by
        rw [← ih, List.map_map]
        congr 1
        funext offset
        simp only [Function.comp_apply, byteLength_append, byteLength_cons, byteLength_nil]
        omega
      rw [offsetsOf, fronts, List.map_append, List.map_append, hlater]
      by_cases hsign : c = '%'
      · subst hsign
        rfl
      · have hstarts : ['%'].isPrefixOf (c :: cs) = false := by
          simp [List.isPrefixOf, Ne.symm hsign]
        rw [hstarts, if_neg hsign]
        rfl

/-- The run in front of a sign is cut out of the text between two characters. -/
theorem cut_run (before after : List Char) :
    cut (before ++ after) (byteLength before) = .ok (before, after) ∧
      cut before (startOf ((Utf8.encode (before ++ after)).take (byteLength before))) =
        .ok (before.rdropWhile isNumeric, before.rtakeWhile isNumeric) := by
  have htake : (Utf8.encode (before ++ after)).take (byteLength before) = Utf8.encode before := by
    rw [Utf8.encode, List.flatMap_append]
    exact List.take_left
  refine ⟨cut_append before after, ?_⟩
  have hcut := cut_append (before.rdropWhile isNumeric) (before.rtakeWhile isNumeric)
  rwa [List.rdropWhile_append_rtakeWhile, ← startOf_encode, ← htake] at hcut

theorem parseAmong_eq (text : List Char) (fronts : List (List Char))
    (hfronts : ∀ front ∈ fronts, ∃ after, text = front ++ after) :
    parseAmong text (fronts.map byteLength) = .ok (fronts.findSome? scoreAfter?) := by
  induction fronts with
  | nil => rfl
  | cons front later ih =>
      obtain ⟨after, rfl⟩ := hfronts front List.mem_cons_self
      have hlater := ih fun other hother => hfronts other (List.mem_cons_of_mem _ hother)
      obtain ⟨hsign, hrun⟩ := cut_run front after
      rw [List.map_cons, parseAmong, hsign]
      simp only [bind, Except.bind, hrun, List.findSome?_cons]
      change (match scoreAfter? front with
        | some score => _
        | none => _) = _
      cases scoreAfter? front with
      | some score => rfl
      | none => exact hlater

/-- No cut falls inside a character, and the percentage is the same. -/
theorem parse_eq (text : String) : parse text = .ok (parse? text) := by
  have hoffsets := offsetsOf_eq [] text.toList
  have hshift : (offsetsOf ['%'] text.toList).map (byteLength [] + ·) =
      offsetsOf ['%'] text.toList := by
    simp
  rw [hshift] at hoffsets
  rw [parse, hoffsets, parseAmong_eq, parse?_eq]
  intro front hfront
  obtain ⟨after, htext⟩ := mem_fronts_iff.mp hfront
  exact ⟨_, htext⟩

end ByOffset

/-! ## The percentage of a text -/

/-- The first percent sign of a text whose candidate is a numeral has a numeral for this number. -/
def Decides (text : String) (v : ℚ) : Prop :=
  ∃ before after candidate, text.toList = before ++ '%' :: after ∧
    Candidate before candidate ∧ Numeral candidate v ∧
    ∀ earlier later, before = earlier ++ '%' :: later → ¬ HasNumeral earlier

theorem parse?_eq_some_iff_decides {text : String} {score : ℕ} :
    parse? text = some score ↔ ∃ v, Decides text v ∧ score = rounded v := by
  rw [parse?_eq_some_iff]
  constructor
  · rintro ⟨before, after, htext, ⟨candidate, v, hcandidate, hnumeral, hscore⟩, hfirst⟩
    exact ⟨v, ⟨before, after, candidate, htext, hcandidate, hnumeral, hfirst⟩, hscore⟩
  · rintro ⟨v, ⟨before, after, candidate, htext, hcandidate, hnumeral, hfirst⟩, hscore⟩
    exact ⟨before, after, htext, ⟨candidate, v, hcandidate, hnumeral, hscore⟩, hfirst⟩

theorem Numeral.nonneg {candidate : List Char} {v : ℚ} (hnumeral : Numeral candidate v) :
    0 ≤ v := by
  cases hnumeral <;> positivity

/-- **The percentage of a report.**  The first percent sign whose candidate is a numeral decides,
and the score is the numeral rounded down, with one exception: a numeral that lies at most half a
unit in the last place of a 64-bit float below the next whole number gives that number.  So a
numeral below 91 is taken for a match exactly if it is at most `2 ^ (-47)` short of 91, and numerals
of up to fourteen places below 128 are rounded down.  There is no score exactly if no sign has a
numeral.  Found by byte offsets the percentage is the same, and no offset at which the text is cut
lies inside a character. -/
theorem first_percentage (text : String) :
    (∀ score, parse? text = some score ↔
      ∃ v, Decides text v ∧
        score = min (if NearNext v then ⌊v⌋₊ + 1 else ⌊v⌋₊) 4294967295) ∧
      (parse? text = none ↔
        ∀ before after, text.toList = before ++ '%' :: after → ¬ HasNumeral before) ∧
      ByOffset.parse text = .ok (parse? text) ∧
      (∀ v, Decides text v → v < 91 →
        ((∃ score, parse? text = some score ∧ isMatch score = true) ↔ 91 - v ≤ 2 ^ (-47 : ℤ))) ∧
      ∀ n k : ℕ, Decides text (n / 10 ^ k) → k ≤ 14 → (n : ℚ) / 10 ^ k < 128 →
        parse? text = some ⌊(n : ℚ) / 10 ^ k⌋₊ := by
  have hparse : ∀ v, Decides text v → parse? text = some (rounded v) := fun v hdecides =>
    parse?_eq_some_iff_decides.mpr ⟨v, hdecides, rfl⟩
  refine ⟨fun score => parse?_eq_some_iff_decides, parse?_eq_none_iff, ByOffset.parse_eq text,
    ?_, ?_⟩
  · intro v hdecides hbelow
    have hnonneg : 0 ≤ v := by
      obtain ⟨_, _, _, -, -, hnumeral, -⟩ := hdecides
      exact hnumeral.nonneg
    rw [hparse v hdecides, ← lt_rounded_iff hnonneg hbelow]
    simp [isMatch]
  · intro n k hdecides hk hsmall
    rw [hparse _ hdecides, rounded_of_few_places hk hsmall]

/-- A numeral below 91 that is a match. -/
theorem match_below_threshold :
    Decides "90.99999999999999999999%" (90 + 99999999999999999999 / 10 ^ 20) ∧
      (90 + 99999999999999999999 / 10 ^ 20 : ℚ) < 91 ∧
      parse? "90.99999999999999999999%" = some 91 ∧ isMatch 91 = true := by
  refine ⟨⟨"90.99999999999999999999".toList, [], "90.99999999999999999999".toList, by decide,
    candidate_iff.mpr (by decide), ?_, ?_⟩, by norm_num, by decide +kernel, by decide⟩
  · have hnumeral : Numeral (['9', '0'] ++ '.' :: List.replicate 20 '9') _ :=
      .pointed (List.cons_ne_nil _ _) (List.all_eq_true.mp (by decide))
        (List.all_eq_true.mp (by decide))
    have hvalue : ((Decimal.value ['9', '0'] : ℚ) + Decimal.value (List.replicate 20 '9') /
        10 ^ (List.replicate 20 '9').length) = 90 + 99999999999999999999 / 10 ^ 20 := by
      have hwhole : Decimal.value ['9', '0'] = 90 := by decide
      have hplaces : Decimal.value (List.replicate 20 '9') = 99999999999999999999 := by decide
      rw [hwhole, hplaces]
      norm_num
    rwa [hvalue] at hnumeral
  · intro earlier later hbefore
    have hsign : '%' ∈ "90.99999999999999999999".toList := by
      rw [hbefore]
      simp
    exact absurd hsign (by decide)

end MatchingDecomp.Percentage
