import Mathlib.Data.List.Forall2
import Mathlib.Tactic.SplitIfs
import MatchingDecomp.Json.Reader
import MatchingDecomp.Json.Writer
import MatchingDecomp.Proofs.Decimal.Digits

/-!
# How values are spelled

`Spelled` is the grammar of JSON.  It says how a value may be written: with any blanks between two
tokens, with any of the escapes that there are for a character, and with the power of ten of a
numeral in any of its forms.  The compact form and the pretty form of a value are two of the many
ways to write it; they differ from each other only in the blanks.

Not every numeral can be written, since its digits are arbitrary texts; a value is proper when all
its numerals are (`Value.Proper`).

Main statements: `Value.Proper.spelled_compact` and `Value.Proper.spelled_prettyAt`.
-/

namespace MatchingDecomp.Json

open Text (isDigit)

/-! ## Proper numerals -/

/-- A numeral that can be written: it has digits before the point, the first of which is a zero only
if it is the only one. -/
structure Numeral.Proper (n : Numeral) : Prop where
  whole_digits : ∀ c ∈ n.whole, isDigit c = true
  whole_ne_nil : n.whole ≠ []
  whole_head : n.whole = ['0'] ∨ n.whole.head? ≠ some '0'
  fraction_digits : ∀ c ∈ n.fraction, isDigit c = true

theorem Numeral.proper_ofNat (n : Nat) : (Numeral.ofNat n).Proper where
  whole_digits := fun _ => Decimal.isDigit_of_mem_digits
  whole_ne_nil := Decimal.digits_ne_nil n
  whole_head := by
    cases n with
    | zero => exact .inl rfl
    | succ n => exact .inr (Decimal.head?_digits (Nat.succ_ne_zero n))
  fraction_digits := List.forall_mem_nil _

/-- Some of the first digits of a positive number, before further digits. -/
theorem Numeral.proper_of_digits {k n : Nat} (hk : k ≠ 0) (hn : 0 < n) {zeros fraction : List Char}
    (hzeros : ∀ c ∈ zeros, isDigit c = true) (hfraction : ∀ c ∈ fraction, isDigit c = true)
    (negative : Bool) (exponent : Option Int) :
    Numeral.Proper
      { negative, whole := (Decimal.digits k).take n ++ zeros, fraction, exponent } := by
  have hne : (Decimal.digits k).take n ≠ [] := by
    rw [Ne, List.take_eq_nil_iff]
    rintro (hzero | hnil)
    · omega
    · exact Decimal.digits_ne_nil k hnil
  constructor
  · rw [List.forall_mem_append]
    exact ⟨fun c hc => Decimal.isDigit_of_mem_digits (List.mem_of_mem_take hc), hzeros⟩
  · exact List.append_ne_nil_of_left_ne_nil hne zeros
  · right
    rw [List.head?_append_of_ne_nil _ hne, List.head?_take, if_neg (by omega)]
    exact Decimal.head?_digits hk
  · exact hfraction

theorem Numeral.proper_of_zero {fraction : List Char}
    (hfraction : ∀ c ∈ fraction, isDigit c = true) (negative : Bool) :
    Numeral.Proper { negative, whole := ['0'], fraction } where
  whole_digits := fun _ => Decimal.isDigit_of_mem_zeros (n := 1)
  whole_ne_nil := List.cons_ne_nil _ _
  whole_head := .inl rfl
  fraction_digits := hfraction

theorem Numeral.proper_ofFinite (negative : Bool) (x : Binary.Quantity) :
    (Numeral.ofFinite negative x).Proper := by
  unfold ofFinite
  generalize Decimal.shortest Binary.Format.single x = d
  have hzero : ∀ c ∈ ['0'], isDigit c = true := List.forall_mem_singleton.mpr rfl
  have hdigits : ∀ c ∈ Decimal.digits d.coefficient, isDigit c = true :=
    fun c => Decimal.isDigit_of_mem_digits
  have hdrop (n : Nat) : ∀ c ∈ (Decimal.digits d.coefficient).drop n, isDigit c = true :=
    fun c hc => hdigits c (List.mem_of_mem_drop hc)
  have hnone : ∀ c ∈ ([] : List Char), isDigit c = true := List.forall_mem_nil _
  dsimp only
  split
  · exact proper_of_zero hzero negative
  · rename_i hcoefficient
    split
    · split
      · -- the digits, and zeros up to the point
        have hlength : 0 < (Decimal.digits d.coefficient).length :=
          List.length_pos_iff.mpr (Decimal.digits_ne_nil _)
        have hproper := proper_of_digits hcoefficient hlength
          (fun c => Decimal.isDigit_of_mem_zeros (n := d.exponent.toNat)) hzero negative none
        rwa [List.take_length] at hproper
      · split
        · -- the point stands among the digits
          have hproper := proper_of_digits hcoefficient
            (n := ((Decimal.digits d.coefficient).length + d.exponent).toNat) (by omega) hnone
            (hdrop ((Decimal.digits d.coefficient).length + d.exponent).toNat) negative none
          rwa [List.append_nil] at hproper
        · -- the digits come after the point, behind zeros
          apply proper_of_zero
          rw [List.forall_mem_append]
          exact ⟨fun c hc => Decimal.isDigit_of_mem_zeros hc, hdigits⟩
    · have hproper := proper_of_digits hcoefficient Nat.one_pos hnone (hdrop 1) negative
        (some ((Decimal.digits d.coefficient).length + d.exponent - 1))
      rwa [List.append_nil] at hproper

/-! ## Tokens -/

/-- What a string literal is made of: characters, and code units that are given by their number. -/
inductive Piece where
  | char (c : Char)
  | unit (n : Nat)

/-- The characters that can be written as a backslash and a letter, after their letters. -/
def shortEscapes : List (Char × Char) :=
  [('"', '"'), ('\\', '\\'), ('/', '/'), ('b', '\x08'), ('f', '\x0c'), ('n', '\n'), ('r', '\r'),
    ('t', '\t')]

/-- A hexadecimal digit, in lower or upper case, and its value. -/
def IsHex (c : Char) (n : Nat) : Prop :=
  "0123456789abcdef".toList[n]? = some c ∨ "0123456789ABCDEF".toList[n]? = some c

/-- How a piece of a string literal may be written. -/
inductive Piece.Spelled : Piece → List Char → Prop where
  | plain {c : Char} (hquote : c ≠ '"') (hbackslash : c ≠ '\\') (hcontrol : 32 ≤ c.toNat) :
      Spelled (.char c) [c]
  | short {letter c : Char} (hletter : (letter, c) ∈ shortEscapes) :
      Spelled (.char c) ['\\', letter]
  | unit {a b c d : Char} {w x y z : Nat} (ha : IsHex a w) (hb : IsHex b x) (hc : IsHex c y)
      (hd : IsHex d z) :
      Spelled (.unit (((w * 16 + x) * 16 + y) * 16 + z)) ['\\', 'u', a, b, c, d]

/-- The text of some pieces.  A leading surrogate and the trailing surrogate after it make one
character, and a surrogate without its partner makes none. -/
def textOf : List Piece → Option (List Char)
  | [] => some []
  | .char c :: rest => (textOf rest).map (c :: ·)
  | .unit n :: rest =>
    if 0xD800 ≤ n ∧ n ≤ 0xDBFF then
      match rest with
      | .unit m :: rest =>
        if 0xDC00 ≤ m ∧ m ≤ 0xDFFF then
          (textOf rest).map (Char.ofNat (0x10000 + (n - 0xD800) * 0x400 + (m - 0xDC00)) :: ·)
        else none
      | _ => none
    else if 0xDC00 ≤ n ∧ n ≤ 0xDFFF then none
    else (textOf rest).map (Char.ofNat n :: ·)

/-- A string literal, and the text that it denotes, if it denotes one. -/
inductive Literal : Option String → List Char → Prop where
  | quoted {pieces : List Piece} {spellings : List (List Char)}
      (hpieces : List.Forall₂ Piece.Spelled pieces spellings) :
      Literal ((textOf pieces).map String.ofList) ('"' :: (spellings.flatten ++ ['"']))

/-- How the digits after the point are written. -/
def writeFraction (ds : List Char) : List Char :=
  if ds.isEmpty then [] else '.' :: ds

/-- A numeral without its power of ten. -/
def writeMantissa (n : Numeral) : List Char :=
  (if n.negative then ['-'] else []) ++ (n.whole ++ writeFraction n.fraction)

/-- How a power of ten may be written. -/
inductive Power : Option Int → List Char → Prop where
  | none : Power none []
  | positive {mark : Char} {sign ds : List Char} (hmark : mark = 'e' ∨ mark = 'E')
      (hsign : sign = [] ∨ sign = ['+']) (hdigits : ∀ c ∈ ds, isDigit c = true) (hne : ds ≠ []) :
      Power (some (Decimal.value ds)) (mark :: (sign ++ ds))
  | negative {mark : Char} {ds : List Char} (hmark : mark = 'e' ∨ mark = 'E')
      (hdigits : ∀ c ∈ ds, isDigit c = true) (hne : ds ≠ []) :
      Power (some (-Decimal.value ds)) (mark :: '-' :: ds)

/-! ## The grammar -/

/-- A value whose numerals can be written. -/
inductive Value.Proper : Value → Prop where
  | null : Proper .null
  | bool (b : Bool) : Proper (.bool b)
  | number {n : Numeral} (hnumeral : n.Proper) : Proper (.number n)
  | text (s : String) : Proper (.text s)
  | illegible : Proper .illegible
  | array {items : List Value} (hitems : ∀ item ∈ items, Proper item) : Proper (.array items)
  | object {members : List (Option String × Value)}
      (hmembers : ∀ member ∈ members, Proper member.2) : Proper (.object members)

/-- What the grammar has a rule for: a value, or the elements of an array or the members of an
object up to the closing bracket.  Of elements and members there is at least one. -/
inductive Phrase where
  | value (v : Value)
  | items (vs : List Value)
  | members (ms : List (Option String × Value))

/-- Blanks between two tokens. -/
def IsGap (gap : List Char) : Prop :=
  ∀ c ∈ gap, isSpace (some c) = true

/-- How a phrase may be written. -/
inductive Spelled : Phrase → List Char → Prop where
  | null : Spelled (.value .null) "null".toList
  | trueWord : Spelled (.value (.bool true)) "true".toList
  | falseWord : Spelled (.value (.bool false)) "false".toList
  | number {n : Numeral} {power : List Char} (hnumeral : n.Proper)
      (hpower : Power n.exponent power) : Spelled (.value (.number n)) (writeMantissa n ++ power)
  | text {s : String} {cs : List Char} (hliteral : Literal (some s) cs) :
      Spelled (.value (.text s)) cs
  | illegible {cs : List Char} (hliteral : Literal none cs) : Spelled (.value .illegible) cs
  | emptyArray {gap : List Char} (hgap : IsGap gap) :
      Spelled (.value (.array [])) ('[' :: (gap ++ [']']))
  | array {vs : List Value} {gap cs : List Char} (hgap : IsGap gap)
      (hitems : Spelled (.items vs) cs) : Spelled (.value (.array vs)) ('[' :: (gap ++ cs))
  | emptyObject {gap : List Char} (hgap : IsGap gap) :
      Spelled (.value (.object [])) ('{' :: (gap ++ ['}']))
  | object {ms : List (Option String × Value)} {gap cs : List Char} (hgap : IsGap gap)
      (hmembers : Spelled (.members ms) cs) : Spelled (.value (.object ms)) ('{' :: (gap ++ cs))
  | lastItem {v : Value} {cs gap : List Char} (hvalue : Spelled (.value v) cs)
      (hgap : IsGap gap) : Spelled (.items [v]) (cs ++ (gap ++ [']']))
  | item {v : Value} {vs : List Value} {cs gap gap' rest : List Char}
      (hvalue : Spelled (.value v) cs) (hgap : IsGap gap) (hgap' : IsGap gap')
      (hitems : Spelled (.items vs) rest) :
      Spelled (.items (v :: vs)) (cs ++ (gap ++ ',' :: (gap' ++ rest)))
  | lastMember {k : Option String} {v : Value} {name colon gap cs gap' : List Char}
      (hname : Literal k name) (hcolon : IsGap colon) (hgap : IsGap gap)
      (hvalue : Spelled (.value v) cs) (hgap' : IsGap gap') :
      Spelled (.members [(k, v)]) (name ++ (colon ++ ':' :: (gap ++ cs ++ (gap' ++ ['}']))))
  | member {k : Option String} {v : Value} {ms : List (Option String × Value)}
      {name colon gap cs gap' gap'' rest : List Char} (hname : Literal k name)
      (hcolon : IsGap colon) (hgap : IsGap gap) (hvalue : Spelled (.value v) cs)
      (hgap' : IsGap gap') (hgap'' : IsGap gap'') (hmembers : Spelled (.members ms) rest) :
      Spelled (.members ((k, v) :: ms))
        (name ++ (colon ++ ':' :: (gap ++ cs ++ (gap' ++ ',' :: (gap'' ++ rest)))))

/-- A text that holds a value, with blanks around it. -/
inductive Document (v : Value) : String → Prop where
  | mk {lead cs trail : List Char} (hlead : IsGap lead) (hvalue : Spelled (.value v) cs)
      (htrail : IsGap trail) : Document v (String.ofList (lead ++ (cs ++ trail)))

/-! ## Written tokens -/

theorem isHex_hexDigit {n : Nat} (hn : n < 16) : IsHex (hexDigit n) n := by
  have hall : ∀ k : Fin 16, "0123456789abcdef".toList[(k : Nat)]? = some (hexDigit k) := by decide
  exact .inl (hall ⟨n, hn⟩)

/-- A code unit that is no surrogate is a character. -/
theorem textOf_unit {n : Nat} (hn : n < 0xD800) (rest : List Piece) :
    textOf (.unit n :: rest) = (textOf rest).map (Char.ofNat n :: ·) := by
  rw [textOf.eq_def]
  exact (if_neg (by omega)).trans (if_neg (by omega))

/-- Each character is written as a piece that makes it. -/
theorem exists_piece_escape (c : Char) :
    ∃ piece : Piece, piece.Spelled (escape c) ∧
      ∀ rest, textOf (piece :: rest) = (textOf rest).map (c :: ·) := by
  have hshort (letter : Char) (hletter : (letter, c) ∈ shortEscapes) :
      ∃ piece : Piece, piece.Spelled ['\\', letter] ∧
        ∀ rest, textOf (piece :: rest) = (textOf rest).map (c :: ·) :=
    ⟨.char c, .short hletter, fun _ => rfl⟩
  unfold escape
  split_ifs with hquote hslash hbackspace hfeed hnewline hreturn htab hcontrol
  · exact hshort '"' (by simp [shortEscapes, hquote])
  · exact hshort '\\' (by simp [shortEscapes, hslash])
  · exact hshort 'b' (by simp [shortEscapes, hbackspace])
  · exact hshort 'f' (by simp [shortEscapes, hfeed])
  · exact hshort 'n' (by simp [shortEscapes, hnewline])
  · exact hshort 'r' (by simp [shortEscapes, hreturn])
  · exact hshort 't' (by simp [shortEscapes, htab])
  · -- the other control characters are given by their number
    have hzero : IsHex '0' 0 := .inl rfl
    have hvalue : ((0 * 16 + 0) * 16 + c.toNat / 16) * 16 + c.toNat % 16 = c.toNat := by omega
    have hunit := Piece.Spelled.unit hzero hzero (isHex_hexDigit (n := c.toNat / 16) (by omega))
      (isHex_hexDigit (n := c.toNat % 16) (by omega))
    rw [hvalue] at hunit
    refine ⟨.unit c.toNat, hunit, ?_⟩
    intro rest
    rw [textOf_unit (by omega), Char.ofNat_toNat]
  · exact ⟨.char c, .plain hquote hslash (by omega), fun _ => rfl⟩

theorem exists_pieces (s : List Char) :
    ∃ pieces, List.Forall₂ Piece.Spelled pieces (s.map escape) ∧ textOf pieces = some s := by
  induction s with
  | nil => exact ⟨[], .nil, rfl⟩
  | cons c s ih =>
      obtain ⟨pieces, hpieces, htext⟩ := ih
      obtain ⟨piece, hpiece, hcons⟩ := exists_piece_escape c
      refine ⟨piece :: pieces, .cons hpiece hpieces, ?_⟩
      rw [hcons, htext]
      rfl

theorem literal_quoted (s : String) : Literal (some s) (quoted s) := by
  obtain ⟨pieces, hpieces, htext⟩ := exists_pieces s.toList
  have hliteral := Literal.quoted hpieces
  rw [htext, Option.map_some, String.ofList_toList] at hliteral
  rw [quoted, List.flatMap_def]
  exact hliteral

/-- A leading surrogate alone. -/
theorem literal_unpaired : Literal none unpaired := by
  have hdigit (c : Char) (n : Nat) (h : "0123456789abcdef".toList[n]? = some c) : IsHex c n :=
    .inl h
  have hunit := Piece.Spelled.unit (hdigit 'd' 13 (by decide)) (hdigit '8' 8 (by decide))
    (hdigit '0' 0 (by decide)) (hdigit '0' 0 (by decide))
  exact Literal.quoted (.cons hunit .nil)

theorem literal_writeName (k : Option String) : Literal k (writeName k) := by
  cases k with
  | none => exact literal_unpaired
  | some s => exact literal_quoted s

/-- How the power of ten is written. -/
def writeExponent : Option Int → List Char
  | none => []
  | some e => ['e', if e < 0 then '-' else '+'] ++ Decimal.digits e.natAbs

theorem power_writeExponent (exponent : Option Int) : Power exponent (writeExponent exponent) := by
  cases exponent with
  | none => exact .none
  | some e =>
      have hdigits : ∀ c ∈ Decimal.digits e.natAbs, isDigit c = true :=
        fun c => Decimal.isDigit_of_mem_digits
      have hne := Decimal.digits_ne_nil e.natAbs
      have hvalue := Decimal.value_digits e.natAbs
      by_cases hnegative : e < 0
      · have hpower := Power.negative (.inl rfl) hdigits hne
        rw [hvalue, show -(e.natAbs : Int) = e by omega] at hpower
        rwa [writeExponent, if_pos hnegative]
      · have hpower := Power.positive (.inl rfl) (.inr rfl) hdigits hne
        rw [hvalue, show (e.natAbs : Int) = e by omega] at hpower
        rwa [writeExponent, if_neg hnegative]

theorem writeNumeral_eq (n : Numeral) :
    writeNumeral n = writeMantissa n ++ writeExponent n.exponent := by
  simp only [writeNumeral, writeMantissa, writeFraction, List.append_assoc]
  cases n.exponent <;> rfl

theorem spelled_writeNumeral {n : Numeral} (hproper : n.Proper) :
    Spelled (.value (.number n)) (writeNumeral n) := by
  rw [writeNumeral_eq]
  exact .number hproper (power_writeExponent n.exponent)

/-! ## The two forms -/

theorem isGap_nil : IsGap [] := List.forall_mem_nil _

theorem isGap_space : IsGap [' '] := List.forall_mem_singleton.mpr rfl

theorem isGap_newLine (level : Nat) : IsGap (newLine level) := by
  intro c hc
  rcases List.mem_cons.mp hc with rfl | hspace
  · rfl
  · rw [List.eq_of_mem_replicate hspace]
    rfl

/-- Elements that are each written with a comma and a gap after them, the last one with a gap and
the closing bracket. -/
theorem spelled_items {write : Value → List Char} {writeItems : List Value → List Char}
    {gap closing : List Char} (hgap : IsGap gap) (hclosing : IsGap closing)
    (hlast : ∀ v, writeItems [v] = write v ++ (closing ++ [']']))
    (hnext : ∀ v w ws, writeItems (v :: w :: ws) = write v ++ ',' :: (gap ++ writeItems (w :: ws)))
    {vs : List Value} (hne : vs ≠ []) (hspelled : ∀ v ∈ vs, Spelled (.value v) (write v)) :
    Spelled (.items vs) (writeItems vs) := by
  induction vs with
  | nil => exact absurd rfl hne
  | cons v vs ih =>
      have hvalue := hspelled v List.mem_cons_self
      cases vs with
      | nil =>
          rw [hlast]
          exact .lastItem hvalue hclosing
      | cons w ws =>
          have hrest := ih (List.cons_ne_nil w ws) fun x hx =>
            hspelled x (List.mem_cons_of_mem v hx)
          rw [hnext]
          exact .item hvalue isGap_nil hgap hrest

/-- The same for members, with a gap after the colon. -/
theorem spelled_members {write : Value → List Char}
    {writeMembers : List (Option String × Value) → List Char} {colon gap closing : List Char}
    (hcolon : IsGap colon) (hgap : IsGap gap) (hclosing : IsGap closing)
    (hlast : ∀ k v, writeMembers [(k, v)] =
      writeName k ++ ':' :: (colon ++ write v ++ (closing ++ ['}'])))
    (hnext : ∀ k v m ms, writeMembers ((k, v) :: m :: ms) =
      writeName k ++ ':' :: (colon ++ write v ++ ',' :: (gap ++ writeMembers (m :: ms))))
    {ms : List (Option String × Value)} (hne : ms ≠ [])
    (hspelled : ∀ m ∈ ms, Spelled (.value m.2) (write m.2)) :
    Spelled (.members ms) (writeMembers ms) := by
  induction ms with
  | nil => exact absurd rfl hne
  | cons m ms ih =>
      obtain ⟨k, v⟩ := m
      have hvalue := hspelled (k, v) List.mem_cons_self
      cases ms with
      | nil =>
          rw [hlast]
          exact .lastMember (literal_writeName k) isGap_nil hcolon hvalue hclosing
      | cons m ms =>
          have hrest := ih (List.cons_ne_nil m ms) fun x hx =>
            hspelled x (List.mem_cons_of_mem _ hx)
          rw [hnext]
          exact .member (literal_writeName k) isGap_nil hcolon hvalue isGap_nil hgap hrest

/-- The compact form has no blanks at all. -/
theorem Value.Proper.spelled_compact {v : Value} (hproper : v.Proper) :
    Spelled (.value v) (Json.compact v) := by
  induction hproper with
  | null => exact .null
  | bool b =>
      cases b with
      | true => exact .trueWord
      | false => exact .falseWord
  | number hnumeral => exact spelled_writeNumeral hnumeral
  | text s => exact .text (literal_quoted s)
  | illegible => exact .illegible literal_unpaired
  | @array items hitems ih =>
      cases items with
      | nil => exact .emptyArray isGap_nil
      | cons item items =>
          apply Spelled.array isGap_nil
          apply spelled_items isGap_nil isGap_nil _ _ (List.cons_ne_nil item items) ih
          · intro v
            simp only [compactItems, List.nil_append]
          · intro v w ws
            simp only [compactItems, List.nil_append]
  | @object members hmembers ih =>
      cases members with
      | nil => exact .emptyObject isGap_nil
      | cons member members =>
          apply Spelled.object isGap_nil
          apply spelled_members isGap_nil isGap_nil isGap_nil _ _
            (List.cons_ne_nil member members) ih
          · intro k v
            simp only [compactMembers, List.append_assoc, List.cons_append, List.nil_append]
          · intro k v m ms
            simp only [compactMembers, List.append_assoc, List.cons_append, List.nil_append]

/-- In the pretty form, each element and each member stands on a line of its own. -/
theorem Value.Proper.spelled_prettyAt {v : Value} (hproper : v.Proper) (level : Nat) :
    Spelled (.value v) (prettyAt level v) := by
  induction hproper generalizing level with
  | null => exact .null
  | bool b =>
      cases b with
      | true => exact .trueWord
      | false => exact .falseWord
  | number hnumeral => exact spelled_writeNumeral hnumeral
  | text s => exact .text (literal_quoted s)
  | illegible => exact .illegible literal_unpaired
  | @array items hitems ih =>
      cases items with
      | nil => exact .emptyArray isGap_nil
      | cons item items =>
          apply Spelled.array (isGap_newLine (level + 1))
          apply spelled_items (isGap_newLine (level + 1)) (isGap_newLine level) _ _
            (List.cons_ne_nil item items) fun v hv => ih v hv (level + 1)
          · intro v
            simp only [prettyItems, List.append_assoc]
          · intro v w ws
            simp only [prettyItems, List.append_assoc, List.cons_append]
  | @object members hmembers ih =>
      cases members with
      | nil => exact .emptyObject isGap_nil
      | cons member members =>
          apply Spelled.object (isGap_newLine (level + 1))
          apply spelled_members isGap_space (isGap_newLine (level + 1)) (isGap_newLine level) _ _
            (List.cons_ne_nil member members) fun m hm => ih m hm (level + 1)
          · intro k v
            simp only [prettyMembers, List.append_assoc, List.cons_append, List.nil_append]
          · intro k v m ms
            simp only [prettyMembers, List.append_assoc, List.cons_append, List.nil_append]

end MatchingDecomp.Json
