import Emend.Number.Exact
import Mathlib.Tactic.Linarith
import Mathlib.Tactic.Ring

/-!
# The order of exact values

What whole numbers stand for is ordered as they are (`lt_ofInt`).
-/

namespace Emend.Exact

/-- Powers of two move from the mantissa into the exponent. -/
theorem reduce_eq (fuel : Nat) (m : Int) (e : Nat) :
    ∃ (n : Int) (f : Nat), reduce fuel m e = .finite n f ∧ n * 2 ^ f = m * 2 ^ e := by
  -- Induction on the fuel: each step moves one factor of two into the exponent.
  induction fuel generalizing m e with
  | zero => exact ⟨m, e, rfl, rfl⟩
  | succ fuel ih =>
    rw [reduce]
    by_cases hzero : m = 0
    · exact ⟨0, 0, by rw [if_pos hzero]; rfl, by simp [hzero]⟩
    · rw [if_neg hzero]
      by_cases heven : m % 2 = 0
      · obtain ⟨n, f, hreduce, hvalue⟩ := ih (m / 2) (e + 1)
        refine ⟨n, f, by rw [if_pos heven]; exact hreduce, ?_⟩
        rw [hvalue, pow_succ, Int.mul_comm _ 2, ← Int.mul_assoc, Int.ediv_mul_cancel (Int.dvd_of_emod_eq_zero heven)]
      · exact ⟨m, e, by rw [if_neg heven], rfl⟩

theorem lt_finite (m n : Int) (e f : Nat) :
    (finite m e).lt (finite n f) = decide (m * 2 ^ e < n * 2 ^ f) := by
  -- Both are scaled to the smaller exponent, where they are compared as whole numbers.
  have hscale : ∀ low k : Nat, low ≤ k → (Binary.powerOfTwo ((k : Int) - low).toNat : Int) * 2 ^ low = 2 ^ k := by
    intro low k hle
    obtain ⟨d, rfl⟩ := Nat.exists_eq_add_of_le hle
    have hd : (((low + d : Nat) : Int) - low).toNat = d := by omega
    rw [hd, Nat.add_comm, pow_add]
    simp [Binary.powerOfTwo]
  have hlow : min (e : Int) f = ((min e f : Nat) : Int) := by omega
  have hpos : (0 : Int) < 2 ^ min e f := by positivity
  rw [lt, hlow]
  rw [← hscale _ e (Nat.min_le_left e f), ← hscale _ f (Nat.min_le_right e f), ← Int.mul_assoc, ← Int.mul_assoc]
  simp only [Int.mul_lt_mul_right hpos]

/-- Whole numbers are ordered as what they stand for. -/
theorem lt_ofInt (a b : Int) : (ofInt a).lt (ofInt b) = decide (a < b) := by
  obtain ⟨m, e, ha, hm⟩ := reduce_eq (a.natAbs.log2 + 1) a 0
  obtain ⟨n, f, hb, hn⟩ := reduce_eq (b.natAbs.log2 + 1) b 0
  rw [Nat.cast_zero] at ha hb
  rw [ofInt, ofInt, ha, hb, lt_finite, hm, hn, pow_zero, Int.mul_one, Int.mul_one]

end Emend.Exact
