import Emend.Outline.SyntaxTree
import Mathlib

/-!
# Bytes and characters of a source text

A byte that a character starts at, or the end of the text, has the offset of this character
(`offsetOfByte_bytesBefore`), and bytes of this kind are ordered as their offsets are (`offsetOfByte_lt`).
-/

namespace Emend

namespace Text

theorem length_encodeChar (c : Char) : (encodeChar c).length = byteWidth c := by
  unfold encodeChar byteWidth
  simp only
  split
  · rfl
  · split
    · rfl
    · split <;> rfl

theorem byteWidth_pos (c : Char) : 0 < byteWidth c := by
  unfold byteWidth
  simp only
  split
  · decide
  · split
    · decide
    · split <;> decide

theorem length_encode_cons (c : Char) (s : List Char) :
    (encode (c :: s)).length = byteWidth c + (encode s).length := by
  rw [encode, List.flatMap_cons, List.length_append, length_encodeChar]
  rfl

theorem length_encode_append (s t : List Char) :
    (encode (s ++ t)).length = (encode s).length + (encode t).length := by
  rw [encode, List.flatMap_append, List.length_append]
  rfl

/-- A text has at least as many bytes as characters. -/
theorem length_le_length_encode (s : List Char) : s.length ≤ (encode s).length := by
  induction s with
  | nil => exact Nat.le_refl 0
  | cons c s ih =>
    have hpos := byteWidth_pos c
    rw [length_encode_cons, List.length_cons]
    omega

end Text

namespace Source

variable {text : List Char} {a b : Nat}

/-- How many bytes come before a character. -/
def bytesBefore (text : List Char) (n : Nat) : Nat := (Text.encode (text.take n)).length

/-- A byte that a character starts at, or the end of the text. -/
def IsBoundary (text : List Char) (byte : Nat) : Prop := ∃ n ≤ text.length, byte = bytesBefore text n

instance (text : List Char) (byte : Nat) : Decidable (IsBoundary text byte) :=
  inferInstanceAs (Decidable (∃ n ≤ text.length, byte = bytesBefore text n))

theorem bytesBefore_cons (c : Char) (text : List Char) (n : Nat) :
    bytesBefore (c :: text) (n + 1) = Text.byteWidth c + bytesBefore text n :=
  Text.length_encode_cons c (text.take n)

/-- Every further character takes bytes. -/
theorem bytesBefore_lt {m n : Nat} (hmn : m < n) (hn : n ≤ text.length) :
    bytesBefore text m < bytesBefore text n := by
  -- What is between the two places has at least a byte for each character.
  obtain ⟨k, rfl⟩ := Nat.exists_eq_add_of_lt hmn
  have hsplit : text.take (m + k + 1) = text.take m ++ (text.drop m).take (k + 1) := by
    rw [Nat.add_assoc, List.take_add]
  have hmore := Text.length_le_length_encode ((text.drop m).take (k + 1))
  have hlength : ((text.drop m).take (k + 1)).length = k + 1 := by
    rw [List.length_take, List.length_drop]
    omega
  rw [bytesBefore, bytesBefore, hsplit, Text.length_encode_append]
  omega

theorem characterOf_bytesBefore {n : Nat} (hn : n ≤ text.length) :
    characterOf text (bytesBefore text n) = n := by
  -- Induction on the text: the bytes of the first character are passed as a whole.
  induction text generalizing n with
  | nil =>
    obtain rfl : n = 0 := Nat.le_zero.mp hn
    rfl
  | cons c rest ih =>
    cases n with
    | zero => exact if_pos (Text.byteWidth_pos c)
    | succ n =>
      rw [characterOf, bytesBefore_cons, if_neg (by omega), Nat.add_sub_cancel_left,
        ih (Nat.le_of_succ_le_succ hn)]

/-- Where there are as many bytes as characters, each character is one byte. -/
theorem bytesBefore_eq_of_length_eq (hlength : (Text.encode text).length = text.length) {n : Nat}
    (hn : n ≤ text.length) : bytesBefore text n = n := by
  -- No part of the text has fewer bytes than characters, so if the whole has as many, each part has.
  have hfront := Text.length_le_length_encode (text.take n)
  have hback := Text.length_le_length_encode (text.drop n)
  have hall := Text.length_encode_append (text.take n) (text.drop n)
  rw [List.take_append_drop] at hall
  rw [List.length_take] at hfront
  rw [List.length_drop] at hback
  rw [bytesBefore]
  omega

/-- A byte that a character starts at has the offset of this character. -/
theorem offsetOfByte_bytesBefore {n : Nat} (hn : n ≤ text.length) :
    (ofText text).offsetOfByte (bytesBefore text n) = n := by
  -- Plain texts have a short way, on which bytes and characters are the same.
  unfold offsetOfByte
  split
  · rename_i hlength
    exact bytesBefore_eq_of_length_eq hlength hn
  · exact characterOf_bytesBefore hn

/-- A boundary has the one offset that it is the boundary of. -/
theorem IsBoundary.offset (h : IsBoundary text a) :
    (ofText text).offsetOfByte a ≤ text.length ∧ a = bytesBefore text ((ofText text).offsetOfByte a) := by
  obtain ⟨n, hn, rfl⟩ := h
  rw [offsetOfByte_bytesBefore hn]
  exact ⟨hn, rfl⟩

/-- Boundaries are ordered as their offsets are. -/
theorem offsetOfByte_lt (ha : IsBoundary text a) (hb : IsBoundary text b) (hab : a < b) :
    (ofText text).offsetOfByte a < (ofText text).offsetOfByte b := by
  by_contra hnot
  obtain ⟨hlength, ha⟩ := ha.offset
  obtain ⟨-, hb⟩ := hb.offset
  rcases Nat.eq_or_lt_of_not_lt hnot with heq | hlt
  · rw [ha, hb, heq] at hab
    exact absurd hab (Nat.lt_irrefl _)
  · have hba := bytesBefore_lt hlt hlength
    omega

theorem offsetOfByte_le (ha : IsBoundary text a) (hb : IsBoundary text b) (hab : a ≤ b) :
    (ofText text).offsetOfByte a ≤ (ofText text).offsetOfByte b := by
  rcases Nat.eq_or_lt_of_le hab with rfl | hlt
  · exact Nat.le_refl _
  · exact Nat.le_of_lt (offsetOfByte_lt ha hb hlt)

end Source

end Emend
