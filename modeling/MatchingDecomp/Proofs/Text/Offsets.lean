import Mathlib.Data.List.Basic
import MatchingDecomp.Text.Utf8

/-!
# Byte offsets

A text that is kept as bytes is searched for byte offsets and cut at byte offsets, and an offset in
the middle of a character is no place to cut at.  `cut` says so: it succeeds exactly if the offset
is the number of bytes of some beginning of the text (`cut_eq_ok_iff`), which is to say at the valid
positions of the text (`exists_cut_iff_isValid`).
-/

namespace MatchingDecomp.Text

/-- The number of bytes of a text. -/
def byteLength (text : List Char) : Nat :=
  (Utf8.encode text).length

@[simp]
theorem byteLength_nil : byteLength [] = 0 := rfl

@[simp]
theorem byteLength_cons (c : Char) (text : List Char) :
    byteLength (c :: text) = c.utf8Size + byteLength text := by
  rw [byteLength, Utf8.encode, List.flatMap_cons, List.length_append,
    String.length_utf8EncodeChar]
  rfl

@[simp]
theorem byteLength_append (first second : List Char) :
    byteLength (first ++ second) = byteLength first + byteLength second := by
  rw [byteLength, Utf8.encode, List.flatMap_append, List.length_append]
  rfl

theorem byteLength_pos_iff {text : List Char} : 0 < byteLength text ↔ text ≠ [] := by
  cases text with
  | nil => exact iff_of_false (Nat.lt_irrefl 0) (fun hne => hne rfl)
  | cons c text =>
      refine iff_of_true ?_ (List.cons_ne_nil c text)
      rw [byteLength_cons]
      exact Nat.add_pos_left c.utf8Size_pos _

/-! ## Cutting -/

/-- Why a text cannot be cut at an offset. -/
inductive CutError where
  /-- The offset is inside a character or past the end. -/
  | notBoundary
  deriving DecidableEq, Repr

/-- The parts of a text before and after a byte offset. -/
def cut : List Char → Nat → Except CutError (List Char × List Char)
  | text, 0 => .ok ([], text)
  | [], _ + 1 => .error .notBoundary
  | c :: text, offset + 1 =>
    if c.utf8Size ≤ offset + 1 then
      (cut text (offset + 1 - c.utf8Size)).map fun parts => (c :: parts.1, parts.2)
    else .error .notBoundary

theorem cut_append (before after : List Char) :
    cut (before ++ after) (byteLength before) = .ok (before, after) := by
  induction before with
  | nil =>
      rw [List.nil_append, byteLength_nil, cut]
  | cons c before ih =>
      obtain ⟨n, hn⟩ := Nat.exists_eq_add_one_of_ne_zero
        (Nat.ne_of_gt (byteLength_pos_iff.mpr (List.cons_ne_nil c before)))
      have hsize : c.utf8Size ≤ n + 1 := by
        rw [← hn, byteLength_cons]
        exact Nat.le_add_right _ _
      have hrest : n + 1 - c.utf8Size = byteLength before := by
        rw [← hn, byteLength_cons]
        exact Nat.add_sub_cancel_left ..
      rw [List.cons_append, hn, cut, if_pos hsize, hrest, ih]
      rfl

/-- A text can be cut where a beginning of it ends, and nowhere else. -/
theorem cut_eq_ok_iff {text before after : List Char} {offset : Nat} :
    cut text offset = .ok (before, after) ↔
      text = before ++ after ∧ byteLength before = offset := by
  constructor
  · intro hcut
    induction text, offset using cut.induct generalizing before with
    | case1 text =>
        rw [cut] at hcut
        cases hcut
        exact ⟨rfl, rfl⟩
    | case2 offset => cases hcut
    | case3 c text offset hsize ih =>
        rw [cut, if_pos hsize] at hcut
        cases hrest : cut text (offset + 1 - c.utf8Size) with
        | error e =>
            rw [hrest] at hcut
            cases hcut
        | ok parts =>
            obtain ⟨left, right⟩ := parts
            rw [hrest] at hcut
            cases hcut
            obtain ⟨rfl, hlength⟩ := ih hrest
            refine ⟨rfl, ?_⟩
            rw [byteLength_cons, hlength]
            omega
    | case4 c text offset hsize =>
        rw [cut, if_neg hsize] at hcut
        cases hcut
  · rintro ⟨rfl, rfl⟩
    exact cut_append before after

theorem byteLength_toList (text : String) : byteLength text.toList = text.utf8ByteSize := by
  rw [← String.size_toByteArray, ← String.ofList_toList (s := text), String.toByteArray_ofList,
    String.toList_ofList, List.utf8Encode, List.size_toByteArray]
  rfl

/-- A text can be cut at its valid positions. -/
theorem exists_cut_iff_isValid {text : String} {offset : Nat} :
    (∃ parts, cut text.toList offset = .ok parts) ↔ String.Pos.Raw.IsValid text ⟨offset⟩ := by
  rw [String.Pos.Raw.isValid_iff_exists_append]
  constructor
  · rintro ⟨⟨before, after⟩, hcut⟩
    obtain ⟨htext, rfl⟩ := cut_eq_ok_iff.mp hcut
    refine ⟨String.ofList before, String.ofList after, ?_, ?_⟩
    · rw [← String.ofList_append, ← htext, String.ofList_toList]
    · have hlength := byteLength_toList (String.ofList before)
      rw [String.toList_ofList] at hlength
      rw [hlength]
      rfl
  · rintro ⟨before, after, rfl, hoffset⟩
    have hlength : byteLength before.toList = offset := by
      rw [byteLength_toList]
      exact (congrArg String.Pos.Raw.byteIdx hoffset).symm
    refine ⟨(before.toList, after.toList), cut_eq_ok_iff.mpr ⟨?_, hlength⟩⟩
    exact String.toList_append

/-! ## Searching -/

/-- The offset of the first character with a property. -/
def findOffset? (p : Char → Bool) : List Char → Option Nat
  | [] => none
  | c :: text => if p c then some 0 else (findOffset? p text).map (c.utf8Size + ·)

/-- The offsets at which a pattern begins, in order. -/
def offsetsOf (pattern : List Char) : List Char → List Nat
  | [] => []
  | c :: text =>
    (if pattern.isPrefixOf (c :: text) then [0] else []) ++
      (offsetsOf pattern text).map (c.utf8Size + ·)

/-- The first other character stands where the longest run ends. -/
theorem findOffset?_not (p : Char → Bool) (text : List Char) :
    findOffset? (fun c => !p c) text =
      if (text.dropWhile p).isEmpty then none else some (byteLength (text.takeWhile p)) := by
  induction text with
  | nil => rfl
  | cons c text ih =>
      cases hc : p c with
      | false => simp [findOffset?, hc]
      | true =>
          rw [findOffset?, hc, ih, List.dropWhile_cons, List.takeWhile_cons, hc]
          simp only [Bool.not_true, Bool.false_eq_true, if_false, if_true, byteLength_cons]
          split <;> rfl

theorem findOffset?_not_getD (p : Char → Bool) (text : List Char) :
    (findOffset? (fun c => !p c) text).getD (byteLength text) =
      byteLength (text.takeWhile p) := by
  rw [findOffset?_not]
  split
  · rename_i hall
    have hall : text.takeWhile p = text := by
      have hsplit := List.takeWhile_append_dropWhile (p := p) (l := text)
      rw [List.isEmpty_iff.mp hall, List.append_nil] at hsplit
      exact hsplit
    rw [hall]
    rfl
  · rfl

end MatchingDecomp.Text
