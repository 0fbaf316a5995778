import MatchingDecomp.Proofs.Json.Spelling

/-!
# The reader reads what is spelled

Each token is read as what it denotes, whatever follows: a numeral, provided that it is not
continued (`readNumeral_append`), and a string, piece by piece (`Literal.readString`).  From there
`Spelled.reads` climbs the grammar.  The fuel of the reader is never short, since each step of it
takes at least one character of the text.

Main statement: `Document.parse?_eq`.
-/

namespace MatchingDecomp.Json

open Text (isDigit isDigit_iff)

/-- A text as the reader takes it. -/
def chars (cs : List Char) : Units :=
  cs.map some

theorem chars_nil : chars [] = [] := rfl

theorem chars_cons (c : Char) (cs : List Char) : chars (c :: cs) = some c :: chars cs := rfl

theorem chars_append (cs ds : List Char) : chars (cs ++ ds) = chars cs ++ chars ds :=
  List.map_append

/-- Whether an input begins with a character of a kind. -/
def beginsWith (p : Char → Bool) : Units → Bool
  | some c :: _ => p c
  | _ => false

theorem beginsWith_mono {p q : Char → Bool} (himp : ∀ c, p c = true → q c = true) {us : Units}
    (hq : beginsWith q us = false) : beginsWith p us = false := by
  rw [Bool.eq_false_iff] at hq ⊢
  intro hp
  apply hq
  cases us with
  | nil => exact hp
  | cons u us =>
      cases u with
      | none => exact hp
      | some c => exact himp c hp

/-! ## Numerals -/

/-- The digits and the point. -/
def isFractional (c : Char) : Bool :=
  isDigit c || c == '.'

/-- The characters that continue a numeral. -/
def continuesNumeral (c : Char) : Bool :=
  isFractional c || c == 'e' || c == 'E'

theorem isFractional_of_isDigit (c : Char) (hc : isDigit c = true) : isFractional c = true := by
  rw [isFractional, hc, Bool.true_or]

theorem continuesNumeral_of_isFractional (c : Char) (hc : isFractional c = true) :
    continuesNumeral c = true := by
  rw [continuesNumeral, hc, Bool.true_or, Bool.true_or]

theorem takeDigits_append {ds : List Char} (hdigits : ∀ c ∈ ds, isDigit c = true) {us : Units}
    (hends : beginsWith isDigit us = false) : takeDigits (chars ds ++ us) = (ds, us) := by
  induction ds with
  | nil =>
      cases us with
      | nil => rfl
      | cons u us =>
          cases u with
          | none => rfl
          | some c =>
              have hc : ¬ isDigit c = true := Bool.eq_false_iff.mp hends
              rw [chars_nil, List.nil_append, takeDigits, if_neg hc]
  | cons c ds ih =>
      have hc := hdigits c List.mem_cons_self
      have hrest := ih fun d hd => hdigits d (List.mem_cons_of_mem c hd)
      rw [chars_cons, List.cons_append, takeDigits, if_pos hc, hrest]

theorem readWhole_append {ds : List Char} (hdigits : ∀ c ∈ ds, isDigit c = true) (hne : ds ≠ [])
    (hhead : ds = ['0'] ∨ ds.head? ≠ some '0') {us : Units}
    (hends : beginsWith isDigit us = false) : readWhole (chars ds ++ us) = some (ds, us) := by
  unfold readWhole
  rw [takeDigits_append hdigits hends]
  rcases hhead with rfl | hhead
  · rfl
  · cases ds with
    | nil => exact absurd rfl hne
    | cons c ds =>
        have hc : c ≠ '0' := fun hc => hhead (congrArg some hc)
        split
        · next heq => cases heq
        · next heq => exact absurd (List.cons.inj (congrArg Prod.fst heq)).1 hc
        · next heq => exact absurd (List.cons.inj (congrArg Prod.fst heq)).1 hc
        · next heq =>
            cases heq
            rfl

theorem readFraction_append {ds : List Char} (hdigits : ∀ c ∈ ds, isDigit c = true) {us : Units}
    (hends : beginsWith isFractional us = false) :
    readFraction (chars (writeFraction ds) ++ us) = some (ds, us) := by
  cases ds with
  | nil =>
      rw [writeFraction, List.isEmpty_nil, if_pos rfl, chars_nil, List.nil_append]
      unfold readFraction
      split
      · cases hends
      · rfl
  | cons c ds =>
      have hdigit := beginsWith_mono isFractional_of_isDigit hends
      rw [writeFraction, List.isEmpty_cons, if_neg Bool.false_ne_true, chars_cons,
        List.cons_append, readFraction, takeDigits_append hdigits hdigit]

theorem readPower_append (negative : Bool) {ds : List Char}
    (hdigits : ∀ c ∈ ds, isDigit c = true) (hne : ds ≠ []) {us : Units}
    (hends : beginsWith isDigit us = false) :
    readPower negative (chars ds ++ us) =
      some (some (if negative then -(Decimal.value ds : Int) else Decimal.value ds), us) := by
  unfold readPower
  rw [takeDigits_append hdigits hends]
  cases ds with
  | nil => exact absurd rfl hne
  | cons c ds => rfl

theorem readExponent_mark {mark : Char} (hmark : mark = 'e' ∨ mark = 'E') (us : Units) :
    readExponent (some mark :: us) =
      match us with
      | some '+' :: rest => readPower false rest
      | some '-' :: rest => readPower true rest
      | _ => readPower false us := by
  rcases hmark with rfl | rfl <;> rfl

theorem Power.readExponent {exponent : Option Int} {power : List Char}
    (hpower : Power exponent power) {us : Units}
    (hends : beginsWith continuesNumeral us = false) :
    readExponent (chars power ++ us) = some (exponent, us) := by
  have hdigit := beginsWith_mono
    (fun c hc => continuesNumeral_of_isFractional c (isFractional_of_isDigit c hc)) hends
  cases hpower with
  | none =>
      rw [chars_nil, List.nil_append]
      unfold Json.readExponent
      split
      · rename_i c rest
        have hmark : ¬ (c == 'e' || c == 'E') = true := by
          intro hmark
          rw [beginsWith, continuesNumeral, Bool.or_assoc, hmark, Bool.or_true] at hends
          cases hends
        rw [if_neg hmark]
      · rfl
  | @positive mark sign ds hmark hsign hdigits hne =>
      have hread := readPower_append false hdigits hne hdigit
      rw [chars_cons, List.cons_append, readExponent_mark hmark]
      rcases hsign with rfl | rfl
      · -- without a sign, the first character is a digit
        cases ds with
        | nil => exact absurd rfl hne
        | cons d ds =>
            have hd := hdigits d List.mem_cons_self
            split
            · next heq =>
                obtain rfl : d = '+' := Option.some.inj (List.cons.inj heq).1
                cases hd
            · next heq =>
                obtain rfl : d = '-' := Option.some.inj (List.cons.inj heq).1
                cases hd
            · exact hread
      · exact hread
  | negative hmark hdigits hne =>
      rw [chars_cons, List.cons_append, readExponent_mark hmark]
      exact readPower_append true hdigits hne hdigit

/-- A power of ten does not begin with a digit or a point. -/
theorem Power.beginsWith_eq {exponent : Option Int} {power : List Char}
    (hpower : Power exponent power) {us : Units}
    (hends : beginsWith continuesNumeral us = false) :
    beginsWith isFractional (chars power ++ us) = false := by
  cases hpower with
  | none => exact beginsWith_mono continuesNumeral_of_isFractional hends
  | positive hmark => rcases hmark with rfl | rfl <;> rfl
  | negative hmark => rcases hmark with rfl | rfl <;> rfl

section

variable {n : Numeral} {power : List Char} {us : Units}

theorem readUnsigned_append (hproper : n.Proper) (hpower : Power n.exponent power)
    (hends : beginsWith continuesNumeral us = false) :
    readUnsigned n.negative (chars (n.whole ++ (writeFraction n.fraction ++ power)) ++ us) =
      some (n, us) := by
  have hexponent := hpower.beginsWith_eq hends
  have hfraction : beginsWith isDigit
      (chars (writeFraction n.fraction) ++ (chars power ++ us)) = false := by
    cases n.fraction with
    | nil => exact beginsWith_mono isFractional_of_isDigit hexponent
    | cons c ds => rfl
  simp only [chars_append, List.append_assoc]
  unfold readUnsigned
  rw [readWhole_append hproper.whole_digits hproper.whole_ne_nil hproper.whole_head hfraction]
  simp only [Option.bind_eq_bind, Option.bind_some,
    readFraction_append hproper.fraction_digits hexponent, hpower.readExponent hends]
  rfl

/-- The first character of a numeral. -/
theorem writeMantissa_head (hproper : n.Proper) (power : List Char) :
    ∃ c cs, writeMantissa n ++ power = c :: cs ∧ (c = '-' ∨ isDigit c = true) := by
  rw [writeMantissa]
  cases n.negative with
  | true => exact ⟨_, _, rfl, .inl rfl⟩
  | false =>
      have hdigits := hproper.whole_digits
      have hne := hproper.whole_ne_nil
      cases hwhole : n.whole with
      | nil => exact absurd hwhole hne
      | cons c ds =>
          rw [hwhole] at hdigits
          exact ⟨_, _, rfl, .inr (hdigits c List.mem_cons_self)⟩

theorem readNumeral_append (hproper : n.Proper) (hpower : Power n.exponent power)
    (hends : beginsWith continuesNumeral us = false) :
    readNumeral (chars (writeMantissa n ++ power) ++ us) = some (n, us) := by
  have hunsigned := readUnsigned_append hproper hpower hends
  rw [writeMantissa, List.append_assoc, List.append_assoc]
  cases hnegative : n.negative with
  | true =>
      rw [hnegative] at hunsigned
      exact hunsigned
  | false =>
      rw [hnegative] at hunsigned
      rw [if_neg Bool.false_ne_true, List.nil_append]
      unfold readNumeral
      split
      · -- the first character is a digit
        rename_i rest hminus
        have hdigits := hproper.whole_digits
        have hne := hproper.whole_ne_nil
        cases hwhole : n.whole with
        | nil => exact absurd hwhole hne
        | cons c ds =>
            rw [hwhole] at hdigits hminus
            have hc := hdigits c List.mem_cons_self
            have hdash : c = '-' := by
              simpa only [List.cons_append, chars_cons, List.cons.injEq, Option.some.injEq] using
                (List.cons.inj hminus).1
            rw [hdash] at hc
            cases hc
      · exact hunsigned

end

/-! ## Strings -/

theorem hexValue?_of_isHex {c : Char} {n : Nat} (hhex : IsHex c n) : hexValue? c = some n := by
  have hall : ∀ k : Fin 16,
      ("0123456789abcdef".toList[(k : Nat)]?).bind hexValue? = some (k : Nat) ∧
        ("0123456789ABCDEF".toList[(k : Nat)]?).bind hexValue? = some (k : Nat) := by
    decide
  rcases hhex with hlower | hupper
  · obtain ⟨hn, -⟩ := List.getElem?_eq_some_iff.mp hlower
    have hvalue := (hall ⟨n, hn⟩).1
    rwa [hlower] at hvalue
  · obtain ⟨hn, -⟩ := List.getElem?_eq_some_iff.mp hupper
    have hvalue := (hall ⟨n, hn⟩).2
    rwa [hupper] at hvalue

/-- What has been read after one more piece. -/
def Reading.take (r : Reading) : Piece → Reading
  | .char c => r.push c
  | .unit n => r.pushUnit n

/-- Each piece is read from any of its spellings. -/
theorem Piece.Spelled.readString {piece : Piece} {cs : List Char} (hpiece : piece.Spelled cs)
    (r : Reading) (us : Units) :
    readString r .plain (chars cs ++ us) = readString (r.take piece) .plain us := by
  cases hpiece with
  | plain hquote hbackslash hcontrol =>
      rw [chars_cons, chars_nil, List.cons_append, List.nil_append, Json.readString,
        if_neg (by simpa using hquote), if_neg (by simpa using hbackslash), if_neg (by omega)]
      rfl
  | short hletter =>
      simp only [shortEscapes, List.mem_cons, Prod.mk.injEq, List.not_mem_nil, or_false]
        at hletter
      rcases hletter with ⟨rfl, rfl⟩ | ⟨rfl, rfl⟩ | ⟨rfl, rfl⟩ | ⟨rfl, rfl⟩ | ⟨rfl, rfl⟩ |
        ⟨rfl, rfl⟩ | ⟨rfl, rfl⟩ | ⟨rfl, rfl⟩ <;> rfl
  | @unit a b c d w x y z ha hb hc hd =>
      calc Json.readString r .plain (chars ['\\', 'u', a, b, c, d] ++ us)
          = Json.readString r (.code 3 0) (chars [a, b, c, d] ++ us) := rfl
        _ = Json.readString (r.pushUnit (((w * 16 + x) * 16 + y) * 16 + z)) .plain us := by
            simp only [chars_cons, chars_nil, List.cons_append, List.nil_append, Json.readString,
              hexValue?_of_isHex ha, hexValue?_of_isHex hb, hexValue?_of_isHex hc,
              hexValue?_of_isHex hd, Nat.zero_mul, Nat.zero_add]

theorem readString_pieces {pieces : List Piece} {spellings : List (List Char)}
    (hpieces : List.Forall₂ Piece.Spelled pieces spellings) (r : Reading) (us : Units) :
    readString r .plain (chars spellings.flatten ++ some '"' :: us) =
      some ((pieces.foldl Reading.take r).text?, us) := by
  induction hpieces generalizing r with
  | nil => rfl
  | cons hpiece hpieces ih =>
      rw [List.flatten_cons, chars_append, List.append_assoc, hpiece.readString, ih,
        List.foldl_cons]

/-- What is not legible stays so. -/
theorem text?_foldl_take_of_not_legible (pieces : List Piece) {r : Reading}
    (hlegible : r.legible = false) : (pieces.foldl Reading.take r).text? = none := by
  induction pieces generalizing r with
  | nil =>
      have hsettled : r.settle.legible = false := by rw [Reading.settle, hlegible, Bool.false_and]
      rw [List.foldl_nil, Reading.text?, hsettled, if_neg Bool.false_ne_true]
  | cons piece pieces ih =>
      apply ih
      cases piece with
      | char c => simp [Reading.take, Reading.push, Reading.settle, hlegible]
      | unit n =>
          simp only [Reading.take, Reading.pushUnit]
          split
          · split <;> simp [Reading.spoil, hlegible]
          · split <;> simp [Reading.push, Reading.settle, hlegible]

/-- A leading surrogate waits for a trailing one. -/
theorem pushUnit_leading {n : Nat} (hn : 0xD800 ≤ n ∧ n ≤ 0xDBFF) (done : List Char) :
    ({ done } : Reading).pushUnit n = { done, surrogate := some n } := by
  rw [Reading.pushUnit, if_neg (by omega), if_pos hn]
  rfl

/-- After a leading surrogate, all but a trailing one spoils the string. -/
theorem legible_take_of_waiting {done : List Char} {h : Nat} {piece : Piece}
    (hpiece : ∀ m, piece = .unit m → ¬ (0xDC00 ≤ m ∧ m ≤ 0xDFFF)) :
    (Reading.take { done, surrogate := some h } piece).legible = false := by
  cases piece with
  | char c => rfl
  | unit m =>
      rw [Reading.take, Reading.pushUnit, if_neg (hpiece m rfl)]
      split <;> rfl

theorem map_reverse_cons (text : Option (List Char)) (done : List Char) (c : Char) :
    (text.map (c :: ·)).map (fun rest => String.ofList (done.reverse ++ rest)) =
      text.map fun rest => String.ofList ((c :: done).reverse ++ rest) := by
  cases text with
  | none => rfl
  | some rest => simp only [Option.map_some, List.reverse_cons, List.append_assoc,
      List.singleton_append]

/-- The text of a string is the text of its pieces. -/
theorem text?_foldl_take (pieces : List Piece) (done : List Char) :
    (pieces.foldl Reading.take { done }).text? =
      (textOf pieces).map fun text => String.ofList (done.reverse ++ text) := by
  fun_induction textOf pieces generalizing done with
  | case1 =>
      rw [Option.map_some, List.append_nil]
      rfl
  | case2 c rest ih =>
      rw [map_reverse_cons, ← ih]
      rfl
  | case3 n hn m rest hm ih =>
      have hpair : Reading.pushUnit { done, surrogate := some n } m =
          { done := Char.ofNat (0x10000 + (n - 0xD800) * 0x400 + (m - 0xDC00)) :: done } := by
        rw [Reading.pushUnit, if_pos hm]
      rw [map_reverse_cons, ← ih, ← hpair, ← pushUnit_leading hn]
      rfl
  | case4 n hn m rest hm =>
      have hspoiled : (Reading.take { done, surrogate := some n } (.unit m)).legible = false := by
        apply legible_take_of_waiting
        intro other hother
        rwa [← Piece.unit.inj hother]
      rw [← pushUnit_leading hn] at hspoiled
      exact text?_foldl_take_of_not_legible rest hspoiled
  | case5 n rest hn hrest =>
      rw [List.foldl_cons, Reading.take, pushUnit_leading hn]
      cases rest with
      | nil => rfl
      | cons piece rest =>
          rw [List.foldl_cons]
          apply text?_foldl_take_of_not_legible
          apply legible_take_of_waiting
          intro m hm
          exact absurd (congrArg (· :: rest) hm) (hrest m rest)
  | case6 n rest hn hm =>
      rw [List.foldl_cons, Reading.take, Reading.pushUnit, if_pos hm]
      exact text?_foldl_take_of_not_legible rest rfl
  | case7 n rest hn hm ih =>
      rw [List.foldl_cons, Reading.take, Reading.pushUnit, if_neg hm, if_neg hn,
        map_reverse_cons, ← ih]
      rfl

/-- A string literal, legible or not, is read from its opening quote on. -/
theorem Literal.readString {k : Option String} {cs : List Char} (hliteral : Literal k cs)
    (us : Units) :
    ∃ rest, chars cs ++ us = some '"' :: rest ∧ Json.readString {} .plain rest = some (k, us) := by
  cases hliteral with
  | @quoted pieces spellings hpieces =>
      refine ⟨chars spellings.flatten ++ some '"' :: us, ?_, ?_⟩
      · simp only [chars_cons, chars_append, chars_nil, List.cons_append, List.append_assoc,
          List.nil_append]
      · rw [readString_pieces hpieces, text?_foldl_take]
        rfl

/-! ## Between tokens -/

theorem skipSpace_gap {gap : List Char} (hgap : IsGap gap) (us : Units) :
    skipSpace (chars gap ++ us) = skipSpace us := by
  unfold skipSpace
  apply List.dropWhile_append_of_pos
  intro u hu
  obtain ⟨c, hc, rfl⟩ := List.mem_map.mp hu
  exact hgap c hc

theorem skipSpace_cons {c : Char} (hc : isSpace (some c) = false) (us : Units) :
    skipSpace (some c :: us) = some c :: us :=
  List.dropWhile_cons_of_neg (Bool.eq_false_iff.mp hc)

theorem isSpace_iff {c : Char} :
    isSpace (some c) = true ↔ c = ' ' ∨ c = '\n' ∨ c = '\t' ∨ c = '\r' := by
  simp only [isSpace, Bool.or_eq_true, beq_iff_eq, or_assoc]

/-- A gap does not continue a numeral. -/
theorem beginsWith_gap {gap : List Char} (hgap : IsGap gap) (us : Units)
    (hends : beginsWith continuesNumeral us = false) :
    beginsWith continuesNumeral (chars gap ++ us) = false := by
  cases gap with
  | nil => exact hends
  | cons c gap =>
      have hspace := isSpace_iff.mp (hgap c List.mem_cons_self)
      change continuesNumeral c = false
      rcases hspace with rfl | rfl | rfl | rfl <;> decide

/-- The characters with which a phrase can begin. -/
def opensPhrase (c : Char) : Bool :=
  !isSpace (some c) && c != ']' && c != '}'

theorem opensPhrase_iff {c : Char} :
    opensPhrase c = true ↔ isSpace (some c) = false ∧ c ≠ ']' ∧ c ≠ '}' := by
  simp only [opensPhrase, Bool.and_eq_true, Bool.not_eq_true', bne_iff_ne, and_assoc]

theorem opensPhrase_of_isDigit {c : Char} (hc : isDigit c = true) : opensPhrase c = true := by
  rw [opensPhrase_iff, Bool.eq_false_iff]
  refine ⟨?_, ?_, ?_⟩
  · intro hspace
    rcases isSpace_iff.mp hspace with rfl | rfl | rfl | rfl <;> exact absurd hc (by decide)
  · rintro rfl
    exact absurd hc (by decide)
  · rintro rfl
    exact absurd hc (by decide)

theorem Literal.exists_head {k : Option String} {cs : List Char} (hliteral : Literal k cs) :
    ∃ rest, cs = '"' :: rest := by
  cases hliteral with
  | quoted => exact ⟨_, rfl⟩

theorem Spelled.exists_head {phrase : Phrase} {cs : List Char} (hspelled : Spelled phrase cs) :
    ∃ c rest, cs = c :: rest ∧ opensPhrase c = true := by
  induction hspelled with
  | null => exact ⟨'n', "ull".toList, by decide, by decide⟩
  | trueWord => exact ⟨'t', "rue".toList, by decide, by decide⟩
  | falseWord => exact ⟨'f', "alse".toList, by decide, by decide⟩
  | number hnumeral =>
      obtain ⟨c, rest, hwritten, hc⟩ := writeMantissa_head hnumeral _
      refine ⟨c, rest, hwritten, ?_⟩
      rcases hc with rfl | hdigit
      · decide
      · exact opensPhrase_of_isDigit hdigit
  | text hliteral =>
      obtain ⟨rest, rfl⟩ := hliteral.exists_head
      exact ⟨_, _, rfl, by decide⟩
  | illegible hliteral =>
      obtain ⟨rest, rfl⟩ := hliteral.exists_head
      exact ⟨_, _, rfl, by decide⟩
  | emptyArray => exact ⟨_, _, rfl, by decide⟩
  | array => exact ⟨_, _, rfl, by decide⟩
  | emptyObject => exact ⟨_, _, rfl, by decide⟩
  | object => exact ⟨_, _, rfl, by decide⟩
  | lastItem hvalue hgap ih =>
      obtain ⟨c, rest, rfl, hc⟩ := ih
      exact ⟨c, _, rfl, hc⟩
  | item hvalue hgap hgap' hitems ih =>
      obtain ⟨c, rest, rfl, hc⟩ := ih
      exact ⟨c, _, rfl, hc⟩
  | lastMember hname =>
      obtain ⟨rest, rfl⟩ := hname.exists_head
      exact ⟨_, _, rfl, by decide⟩
  | member hname =>
      obtain ⟨rest, rfl⟩ := hname.exists_head
      exact ⟨_, _, rfl, by decide⟩

theorem Spelled.length_pos {phrase : Phrase} {cs : List Char} (hspelled : Spelled phrase cs) :
    0 < cs.length := by
  obtain ⟨c, rest, rfl, -⟩ := hspelled.exists_head
  exact Nat.succ_pos _

/-! ## Values, elements and members -/

section

variable {fuel : Nat} {gap : List Char} {us rest : Units}

theorem readValue_gap (hgap : IsGap gap) :
    readValue fuel (chars gap ++ us) = readValue fuel us := by
  cases fuel with
  | zero => rfl
  | succ fuel => simp only [readValue, skipSpace_gap hgap]

theorem readItems_gap (hgap : IsGap gap) :
    readItems fuel (chars gap ++ us) = readItems fuel us := by
  cases fuel with
  | zero => rfl
  | succ fuel => simp only [readItems, readValue_gap hgap]

theorem readMembers_gap (hgap : IsGap gap) :
    readMembers fuel (chars gap ++ us) = readMembers fuel us := by
  cases fuel with
  | zero => rfl
  | succ fuel => simp only [readMembers, skipSpace_gap hgap]

/-- The value of a string. -/
def stringValue : Option String → Value
  | some s => .text s
  | none => .illegible

theorem head_eq {c d : Char} (heq : some c :: us = some d :: rest) : c = d :=
  Option.some.inj (List.cons.inj heq).1

theorem readValue_string {k : Option String} (hread : readString {} .plain us = some (k, rest)) :
    readValue (fuel + 1) (some '"' :: us) = some (stringValue k, rest) := by
  simp only [readValue]
  rw [skipSpace_cons (by decide)]
  simp only [hread]
  cases k <;> rfl

theorem readValue_number {n : Numeral} {power : List Char} (hproper : n.Proper)
    (hpower : Power n.exponent power) (hends : beginsWith continuesNumeral us = false) :
    readValue (fuel + 1) (chars (writeMantissa n ++ power) ++ us) = some (.number n, us) := by
  have hread := readNumeral_append hproper hpower hends
  obtain ⟨c, cs, hwritten, hc⟩ := writeMantissa_head hproper power
  rw [hwritten, chars_cons, List.cons_append] at hread ⊢
  have hspace : isSpace (some c) = false := by
    rcases hc with rfl | hdigit
    · decide
    · exact (opensPhrase_iff.mp (opensPhrase_of_isDigit hdigit)).1
  have hother {d : Char} {vs : Units} (hd : isDigit d = false) (hdash : d ≠ '-') :
      some c :: (chars cs ++ us) ≠ some d :: vs := by
    intro heq
    obtain rfl := head_eq heq
    rcases hc with rfl | hdigit
    · exact hdash rfl
    · rw [hd] at hdigit
      cases hdigit
  simp only [readValue, skipSpace_cons hspace]
  split
  · next heq => exact absurd heq (hother (by decide) (by decide))
  · next heq => exact absurd heq (hother (by decide) (by decide))
  · next heq => exact absurd heq (hother (by decide) (by decide))
  · next heq => exact absurd heq (hother (by decide) (by decide))
  · next heq => exact absurd heq (hother (by decide) (by decide))
  · next heq => exact absurd heq (hother (by decide) (by decide))
  · simp only [hread]
    rfl

theorem readValue_emptyArray (hgap : IsGap gap) :
    readValue (fuel + 1) (some '[' :: (chars gap ++ some ']' :: us)) = some (.array [], us) := by
  simp only [readValue]
  rw [skipSpace_cons (by decide)]
  simp only [skipSpace_gap hgap]
  rw [skipSpace_cons (by decide)]
  rfl

theorem readValue_emptyObject (hgap : IsGap gap) :
    readValue (fuel + 1) (some '{' :: (chars gap ++ some '}' :: us)) = some (.object [], us) := by
  simp only [readValue]
  rw [skipSpace_cons (by decide)]
  simp only [skipSpace_gap hgap]
  rw [skipSpace_cons (by decide)]
  rfl

theorem readValue_array {vs : List Value} {c : Char} (hc : opensPhrase c = true)
    (hgap : IsGap gap) (hitems : readItems fuel (some c :: us) = some (vs, rest)) :
    readValue (fuel + 1) (some '[' :: (chars gap ++ some c :: us)) = some (.array vs, rest) := by
  rw [opensPhrase_iff] at hc
  simp only [readValue]
  rw [skipSpace_cons (by decide)]
  simp only [skipSpace_gap hgap, skipSpace_cons hc.1]
  split
  · next heq => exact absurd (head_eq heq) hc.2.1
  · simp only [hitems]
    rfl

theorem readValue_object {ms : List (Option String × Value)} {c : Char} (hc : opensPhrase c = true)
    (hgap : IsGap gap) (hmembers : readMembers fuel (some c :: us) = some (ms, rest)) :
    readValue (fuel + 1) (some '{' :: (chars gap ++ some c :: us)) = some (.object ms, rest) := by
  rw [opensPhrase_iff] at hc
  simp only [readValue]
  rw [skipSpace_cons (by decide)]
  simp only [skipSpace_gap hgap, skipSpace_cons hc.1]
  split
  · next heq => exact absurd (head_eq heq) hc.2.2
  · simp only [hmembers]
    rfl

theorem readItems_last {v : Value} (hgap : IsGap gap)
    (hvalue : readValue fuel us = some (v, chars gap ++ some ']' :: rest)) :
    readItems (fuel + 1) us = some ([v], rest) := by
  simp only [readItems, hvalue, Option.bind_eq_bind, Option.bind_some, skipSpace_gap hgap]
  rw [skipSpace_cons (by decide)]
  rfl

theorem readItems_item {v : Value} {vs : List Value} {after : Units} (hgap : IsGap gap)
    (hvalue : readValue fuel us = some (v, chars gap ++ some ',' :: after))
    (hitems : readItems fuel after = some (vs, rest)) :
    readItems (fuel + 1) us = some (v :: vs, rest) := by
  simp only [readItems, hvalue, Option.bind_eq_bind, Option.bind_some, skipSpace_gap hgap]
  rw [skipSpace_cons (by decide)]
  simp only [hitems]
  rfl

section

variable {k : Option String} {v : Value} {name colon : List Char} {after : Units}

theorem readMembers_last (hname : Literal k name) (hcolon : IsGap colon) (hgap : IsGap gap)
    (hvalue : readValue fuel after = some (v, chars gap ++ some '}' :: rest)) :
    readMembers (fuel + 1) (chars name ++ (chars colon ++ some ':' :: after)) =
      some ([(k, v)], rest) := by
  obtain ⟨us, hus, hread⟩ := hname.readString (chars colon ++ some ':' :: after)
  rw [hus]
  simp only [readMembers]
  rw [skipSpace_cons (by decide)]
  simp only [hread, Option.bind_eq_bind, Option.bind_some, skipSpace_gap hcolon]
  rw [skipSpace_cons (by decide)]
  simp only [hvalue, Option.bind_some, skipSpace_gap hgap]
  rw [skipSpace_cons (by decide)]
  rfl

theorem readMembers_member {ms : List (Option String × Value)} {later : Units}
    (hname : Literal k name) (hcolon : IsGap colon) (hgap : IsGap gap)
    (hvalue : readValue fuel after = some (v, chars gap ++ some ',' :: later))
    (hmembers : readMembers fuel later = some (ms, rest)) :
    readMembers (fuel + 1) (chars name ++ (chars colon ++ some ':' :: after)) =
      some ((k, v) :: ms, rest) := by
  obtain ⟨us, hus, hread⟩ := hname.readString (chars colon ++ some ':' :: after)
  rw [hus]
  simp only [readMembers]
  rw [skipSpace_cons (by decide)]
  simp only [hread, Option.bind_eq_bind, Option.bind_some, skipSpace_gap hcolon]
  rw [skipSpace_cons (by decide)]
  simp only [hvalue, Option.bind_some, skipSpace_gap hgap]
  rw [skipSpace_cons (by decide)]
  simp only [hmembers]
  rfl

end

end

/-! ## The grammar -/

/-- A phrase stands at the beginning of an input, before the rest of it. -/
def Phrase.Reads (fuel : Nat) (us rest : Units) : Phrase → Prop
  | .value v => readValue fuel us = some (v, rest)
  | .items vs => readItems fuel us = some (vs, rest)
  | .members ms => readMembers fuel us = some (ms, rest)

/-- The reader reads what is spelled, if it has fuel for the length of it and if no numeral is
continued by what follows. -/
theorem Spelled.reads {phrase : Phrase} {cs : List Char} (hspelled : Spelled phrase cs)
    {fuel : Nat} (hfuel : cs.length ≤ fuel + 1) {us : Units}
    (hends : beginsWith continuesNumeral us = false) :
    phrase.Reads (fuel + 1) (chars cs ++ us) us := by
  induction hspelled generalizing fuel us with
  | null =>
      have hword : "null".toList = ['n', 'u', 'l', 'l'] := by decide
      rw [hword]
      simp only [Phrase.Reads]
      rfl
  | trueWord =>
      have hword : "true".toList = ['t', 'r', 'u', 'e'] := by decide
      rw [hword]
      simp only [Phrase.Reads]
      rfl
  | falseWord =>
      have hword : "false".toList = ['f', 'a', 'l', 's', 'e'] := by decide
      rw [hword]
      simp only [Phrase.Reads]
      rfl
  | number hnumeral hpower => exact readValue_number hnumeral hpower hends
  | text hliteral =>
      obtain ⟨rest, hrest, hread⟩ := hliteral.readString us
      rw [hrest]
      exact readValue_string hread
  | illegible hliteral =>
      obtain ⟨rest, hrest, hread⟩ := hliteral.readString us
      rw [hrest]
      exact readValue_string hread
  | emptyArray hgap =>
      simp only [chars_cons, chars_nil, chars_append, List.cons_append, List.nil_append,
        List.append_assoc]
      exact readValue_emptyArray hgap
  | @array vs gap cs hgap hitems ih =>
      obtain ⟨c, rest, rfl, hc⟩ := hitems.exists_head
      simp only [List.length_cons, List.length_append] at hfuel
      obtain ⟨fuel, rfl⟩ : ∃ k, fuel = k + 1 := ⟨fuel - 1, by omega⟩
      have hlength : (c :: rest).length ≤ fuel + 1 := by
        rw [List.length_cons]
        omega
      have hread := ih hlength hends
      simp only [chars_cons, chars_append, List.cons_append, List.append_assoc] at hread ⊢
      exact readValue_array hc hgap hread
  | emptyObject hgap =>
      simp only [chars_cons, chars_nil, chars_append, List.cons_append, List.nil_append,
        List.append_assoc]
      exact readValue_emptyObject hgap
  | @object ms gap cs hgap hmembers ih =>
      obtain ⟨c, rest, rfl, hc⟩ := hmembers.exists_head
      simp only [List.length_cons, List.length_append] at hfuel
      obtain ⟨fuel, rfl⟩ : ∃ k, fuel = k + 1 := ⟨fuel - 1, by omega⟩
      have hlength : (c :: rest).length ≤ fuel + 1 := by
        rw [List.length_cons]
        omega
      have hread := ih hlength hends
      simp only [chars_cons, chars_append, List.cons_append, List.append_assoc] at hread ⊢
      exact readValue_object hc hgap hread
  | @lastItem v cs gap hvalue hgap ih =>
      have hpos := hvalue.length_pos
      simp only [List.length_cons, List.length_append, List.length_nil] at hfuel
      obtain ⟨fuel, rfl⟩ : ∃ k, fuel = k + 1 := ⟨fuel - 1, by omega⟩
      have hlength : cs.length ≤ fuel + 1 := by omega
      have hread := ih hlength (beginsWith_gap hgap (some ']' :: us) rfl)
      simp only [chars_cons, chars_nil, chars_append, List.cons_append, List.nil_append,
        List.append_assoc]
      exact readItems_last hgap hread
  | @item v vs cs gap gap' rest hvalue hgap hgap' hitems ih ihrest =>
      have hpos := hvalue.length_pos
      simp only [List.length_cons, List.length_append] at hfuel
      obtain ⟨fuel, rfl⟩ : ∃ k, fuel = k + 1 := ⟨fuel - 1, by omega⟩
      have hlength : cs.length ≤ fuel + 1 := by omega
      have hlater : rest.length ≤ fuel + 1 := by omega
      have hread := ih hlength (beginsWith_gap hgap
        (some ',' :: (chars gap' ++ (chars rest ++ us))) rfl)
      have hrest := ihrest hlater hends
      simp only [chars_cons, chars_append, List.cons_append, List.append_assoc]
      exact readItems_item hgap hread ((readItems_gap hgap').trans hrest)
  | @lastMember k v name colon gap cs gap' hname hcolon hgap hvalue hgap' ih =>
      have hpos := hvalue.length_pos
      simp only [List.length_cons, List.length_append, List.length_nil] at hfuel
      obtain ⟨fuel, rfl⟩ : ∃ k, fuel = k + 1 := ⟨fuel - 1, by omega⟩
      have hlength : cs.length ≤ fuel + 1 := by omega
      have hread := ih hlength (beginsWith_gap hgap' (some '}' :: us) rfl)
      simp only [chars_cons, chars_nil, chars_append, List.cons_append, List.nil_append,
        List.append_assoc]
      exact readMembers_last hname hcolon hgap' ((readValue_gap hgap).trans hread)
  | @member k v ms name colon gap cs gap' gap'' rest hname hcolon hgap hvalue hgap' hgap''
      hmembers ih ihrest =>
      have hpos := hvalue.length_pos
      simp only [List.length_cons, List.length_append] at hfuel
      obtain ⟨fuel, rfl⟩ : ∃ k, fuel = k + 1 := ⟨fuel - 1, by omega⟩
      have hlength : cs.length ≤ fuel + 1 := by omega
      have hlater : rest.length ≤ fuel + 1 := by omega
      have hread := ih hlength (beginsWith_gap hgap'
        (some ',' :: (chars gap'' ++ (chars rest ++ us))) rfl)
      have hrest := ihrest hlater hends
      simp only [chars_cons, chars_append, List.cons_append, List.append_assoc]
      exact readMembers_member hname hcolon hgap' ((readValue_gap hgap).trans hread)
        ((readMembers_gap hgap'').trans hrest)

/-- A text that holds a value is read as that value. -/
theorem Document.parse?_eq {v : Value} {text : String} (hdocument : Document v text) :
    parse? text = some v := by
  cases hdocument with
  | @mk lead cs trail hlead hvalue htrail =>
      have hlength : (chars (lead ++ (cs ++ trail))).length =
          lead.length + (cs.length + trail.length) := by
        rw [chars, List.length_map, List.length_append, List.length_append]
      have hfuel : cs.length ≤ 2 * (chars (lead ++ (cs ++ trail))).length + 1 + 1 := by omega
      have hread := hvalue.reads hfuel (beginsWith_gap htrail [] rfl)
      simp only [Phrase.Reads, List.append_nil] at hread
      have hblank : skipSpace (chars trail) = [] := by
        rw [← List.append_nil (chars trail), skipSpace_gap htrail]
        rfl
      have htext : (lead ++ (cs ++ trail)).map some = chars lead ++ (chars cs ++ chars trail) := by
        rw [← chars_append, ← chars_append, chars]
      rw [parse?, String.toList_ofList, ofUnits?]
      change (readValue (2 * (chars (lead ++ (cs ++ trail))).length + 2)
        ((lead ++ (cs ++ trail)).map some)).bind _ = _
      rw [htext, readValue_gap hlead, hread]
      simp only [Option.bind_some, hblank]
      rfl

theorem Spelled.document {v : Value} {cs : List Char} (hspelled : Spelled (.value v) cs) :
    Document v (String.ofList cs) := by
  have hdocument := Document.mk isGap_nil hspelled isGap_nil
  rwa [List.nil_append, List.append_nil] at hdocument

theorem Value.Proper.parse?_compact {v : Value} (hproper : v.Proper) :
    parse? v.compact = some v :=
  hproper.spelled_compact.document.parse?_eq

theorem Value.Proper.parse?_pretty {v : Value} (hproper : v.Proper) :
    parse? v.pretty = some v :=
  (hproper.spelled_prettyAt 0).document.parse?_eq

end MatchingDecomp.Json
