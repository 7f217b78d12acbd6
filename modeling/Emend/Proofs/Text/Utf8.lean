import Emend.Text.Utf8
import Mathlib

/-!
# Reading back what was encoded

The bytes of a text are well formed, and read as that text (`decode?_encode`).
-/

namespace Emend.Text

/-! ## One byte -/

theorem decodeFrom_inner {owed low high bits : Nat} {b : UInt8} (rest : List UInt8)
    (hlow : low ≤ b.toNat) (hhigh : b.toNat ≤ high) :
    decodeFrom (owed + 2) low high bits (b :: rest)
      = decodeFrom (owed + 1) 0x80 0xBF (bits * 64 + (b.toNat - 0x80)) rest := by
  rw [decodeFrom]
  simp [hlow, hhigh]

theorem decodeFrom_last {low high bits : Nat} {b : UInt8} (rest : List UInt8)
    (hlow : low ≤ b.toNat) (hhigh : b.toNat ≤ high) :
    decodeFrom 1 low high bits (b :: rest)
      = (Char.ofNat (bits * 64 + (b.toNat - 0x80)), true) :: decodeFrom 0 0 0 0 rest := by
  rw [decodeFrom]
  simp [hlow, hhigh]

theorem decodeFrom_ascii {b : UInt8} (rest : List UInt8) (hb : b.toNat < 0x80) :
    decodeFrom 0 0 0 0 (b :: rest) = (Char.ofNat b.toNat, true) :: decodeFrom 0 0 0 0 rest := by
  rw [decodeFrom]
  simp [lead?, hb]

theorem decodeFrom_lead {b : UInt8} {owed low high bits : Nat} (rest : List UInt8)
    (hb : lead? b = some ⟨owed + 1, low, high, bits⟩) :
    decodeFrom 0 0 0 0 (b :: rest) = decodeFrom (owed + 1) low high bits rest := by
  rw [decodeFrom]
  simp [hb]

/-! ## First bytes -/

theorem toNat_ofNat_byte {n : Nat} (h : n < 256) : (UInt8.ofNat n).toNat = n := by
  rw [UInt8.toNat_ofNat']
  omega

/-- The byte of six bits in the middle of a character. -/
theorem toNat_tail (n : Nat) : (UInt8.ofNat (0x80 + n % 64)).toNat = 0x80 + n % 64 :=
  toNat_ofNat_byte (by omega)

theorem lead?_two {n : Nat} (h : 0x80 ≤ n) (h' : n < 0x800) :
    lead? (UInt8.ofNat (0xC0 + n / 64)) = some ⟨1, 0x80, 0xBF, n / 64⟩ := by
  have hb := toNat_ofNat_byte (n := 0xC0 + n / 64) (by omega)
  unfold lead?
  rw [hb]
  simp only [show ¬ 0xC0 + n / 64 < 0x80 by omega, show ¬ 0xC0 + n / 64 < 0xC2 by omega,
    show 0xC0 + n / 64 < 0xE0 by omega, if_true, if_false, Nat.add_sub_cancel_left]

/-- The second of three bytes lies in the range that the first one promises: overlong forms and the numbers
that are kept for pairs are outside. -/
theorem lead?_three {n : Nat} (h : 0x800 ≤ n) (h' : n < 0x10000)
    (hvalid : n < 0xD800 ∨ 0xDFFF < n) :
    ∃ low high, lead? (UInt8.ofNat (0xE0 + n / 4096)) = some ⟨2, low, high, n / 4096⟩ ∧
      low ≤ 0x80 + n / 64 % 64 ∧ 0x80 + n / 64 % 64 ≤ high := by
  have hb := toNat_ofNat_byte (n := 0xE0 + n / 4096) (by omega)
  unfold lead?
  rw [hb]
  simp only [show ¬ 0xE0 + n / 4096 < 0x80 by omega, show ¬ 0xE0 + n / 4096 < 0xC2 by omega,
    show ¬ 0xE0 + n / 4096 < 0xE0 by omega, if_false, beq_iff_eq]
  -- Behind the leading bytes E0 and ED the bounds are narrower: no overlong form, no surrogate.
  by_cases h₀ : n / 4096 = 0
  · refine ⟨0xA0, 0xBF, ?_, by omega, by omega⟩
    simp [h₀]
  · by_cases h₁ : n / 4096 = 13
    · refine ⟨0x80, 0x9F, ?_, by omega, by omega⟩
      simp [h₁]
    · refine ⟨0x80, 0xBF, ?_, by omega, by omega⟩
      simp only [show ¬ 0xE0 + n / 4096 = 0xE0 by omega, show ¬ 0xE0 + n / 4096 = 0xED by omega,
        show 0xE0 + n / 4096 < 0xF0 by omega, if_true, if_false, Nat.add_sub_cancel_left]

/-- So does the second of four bytes: overlong forms and what comes after the last character are
outside. -/
theorem lead?_four {n : Nat} (h : 0x10000 ≤ n) (h' : n < 0x110000) :
    ∃ low high, lead? (UInt8.ofNat (0xF0 + n / 262144)) = some ⟨3, low, high, n / 262144⟩ ∧
      low ≤ 0x80 + n / 4096 % 64 ∧ 0x80 + n / 4096 % 64 ≤ high := by
  have hb := toNat_ofNat_byte (n := 0xF0 + n / 262144) (by omega)
  unfold lead?
  rw [hb]
  simp only [show ¬ 0xF0 + n / 262144 < 0x80 by omega, show ¬ 0xF0 + n / 262144 < 0xC2 by omega,
    show ¬ 0xF0 + n / 262144 < 0xE0 by omega, show ¬ 0xF0 + n / 262144 = 0xE0 by omega,
    show ¬ 0xF0 + n / 262144 = 0xED by omega, show ¬ 0xF0 + n / 262144 < 0xF0 by omega, if_false,
    beq_iff_eq]
  -- Behind the leading bytes F0 and F4 the bounds are narrower: no overlong form, nothing above the last
  -- character.
  by_cases h₀ : n / 262144 = 0
  · refine ⟨0x90, 0xBF, ?_, by omega, by omega⟩
    simp [h₀]
  · by_cases h₄ : n / 262144 = 4
    · refine ⟨0x80, 0x8F, ?_, by omega, by omega⟩
      simp [h₄]
    · refine ⟨0x80, 0xBF, ?_, by omega, by omega⟩
      simp only [show ¬ 0xF0 + n / 262144 = 0xF0 by omega,
        show 0xF0 + n / 262144 < 0xF4 by omega, if_true, if_false, Nat.add_sub_cancel_left]

/-! ## Characters -/

/-- A character is read from its bytes. -/
theorem decodeFrom_encodeChar (c : Char) (rest : List UInt8) :
    decodeFrom 0 0 0 0 (encodeChar c ++ rest) = (c, true) :: decodeFrom 0 0 0 0 rest := by
  have hvalid : c.toNat < 0xD800 ∨ 0xDFFF < c.toNat ∧ c.toNat < 0x110000 := c.valid
  have hback : Char.ofNat c.toNat = c := Char.ofNat_toNat c
  unfold encodeChar
  dsimp only
  generalize c.toNat = n at *
  have hlast := toNat_tail (n / 1)
  have hmiddle := toNat_tail (n / 64)
  have hsecond := toNat_tail (n / 4096)
  -- one case for each number of bytes; in each the bits that are read add up to the number again
  by_cases h₁ : n < 0x80
  · have hb := toNat_ofNat_byte (n := n) (by omega)
    rw [if_pos h₁, List.singleton_append, decodeFrom_ascii rest (by omega), hb, hback]
  rw [if_neg h₁]
  by_cases h₂ : n < 0x800
  · have hbits : n / 64 * 64 + (0x80 + n / 1 % 64 - 0x80) = n := by omega
    rw [if_pos h₂, List.cons_append, List.singleton_append,
      decodeFrom_lead _ (lead?_two (by omega) h₂), decodeFrom_last _ (by omega) (by omega), hlast,
      hbits, hback]
  rw [if_neg h₂]
  by_cases h₃ : n < 0x10000
  · obtain ⟨low, high, hlead, hlow, hhigh⟩ := lead?_three (by omega) h₃ (by omega)
    have hbits : (n / 4096 * 64 + (0x80 + n / 64 % 64 - 0x80)) * 64
        + (0x80 + n / 1 % 64 - 0x80) = n := by omega
    rw [if_pos h₃, List.cons_append, List.cons_append, List.singleton_append,
      decodeFrom_lead _ hlead, decodeFrom_inner _ (by omega) (by omega),
      decodeFrom_last _ (by omega) (by omega), hmiddle, hlast, hbits, hback]
  · obtain ⟨low, high, hlead, hlow, hhigh⟩ := lead?_four (n := n) (by omega) (by omega)
    have hbits : ((n / 262144 * 64 + (0x80 + n / 4096 % 64 - 0x80)) * 64
        + (0x80 + n / 64 % 64 - 0x80)) * 64 + (0x80 + n / 1 % 64 - 0x80) = n := by omega
    rw [if_neg h₃, List.cons_append, List.cons_append, List.cons_append, List.singleton_append,
      decodeFrom_lead _ hlead, decodeFrom_inner _ (by omega) (by omega),
      decodeFrom_inner _ (by omega) (by omega), decodeFrom_last _ (by omega) (by omega), hsecond,
      hmiddle, hlast, hbits, hback]

theorem decodeFrom_encode (s : List Char) :
    decodeFrom 0 0 0 0 (encode s) = s.map fun c => (c, true) := by
  induction s with
  | nil => rfl
  | cons c rest ih =>
    have hcons : encode (c :: rest) = encodeChar c ++ encode rest := rfl
    rw [hcons, decodeFrom_encodeChar, ih, List.map_cons]

/-- A text is read back from its bytes. -/
theorem decode?_encode (s : List Char) : decode? (encode s) = some s := by
  simp [decode?, decodeFrom_encode, Function.comp_def]

end Emend.Text
