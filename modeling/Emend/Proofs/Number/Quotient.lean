import Emend.Json.Arithmetic
import Mathlib.Algebra.Order.Ring.Abs
import Mathlib.Data.Rat.Lemmas
import Mathlib.Tactic.Linarith
import Mathlib.Tactic.Ring

/-!
# Quotients of one value

A quotient of natural numbers is rounded by its value: numerator and denominator may have a common factor
(`ofQuotient?_mul_left`). The logarithms from which the shift is estimated do not have this property; but two estimates
that differ lead to one number. So a quotient of values is a function of a rational number (`quotient_eq_nearest`),
which is there below `2 ^ 1023` (`exists_nearest`).

Main statements:

* `le_roundDiv`, `roundDiv_le`, `roundShifted_eq`: rounding to the nearest, and shifted.
* `estimate_log2`, `ofEstimate?_eq`: estimates that differ lead to one number.
* `ofQuotient?_mul_left`: so a common factor does not matter.
* `quotient_eq_nearest`, `exists_nearest`: quotients of values as numbers.
-/

namespace Emend

namespace Binary

variable {num den : Nat}

/-! ## Rounding -/

theorem roundDiv_mul_left {k : Nat} (hk : 0 < k) (num den : Nat) :
    roundDiv (k * num) (k * den) = roundDiv num den := by
  have hrest : 2 * (k * (num % den)) = k * (2 * (num % den)) := by ring
  unfold roundDiv
  simp only [Nat.mul_div_mul_left _ _ hk, Nat.mul_mod_mul_left, hrest, Nat.mul_lt_mul_left hk]

theorem le_roundDiv {n : Nat} (hden : 0 < den) (h : 2 * (n * den) < 2 * num + den) : n ≤ roundDiv num den := by
  have hnum := Nat.div_add_mod num den
  have hmod := Nat.mod_lt num hden
  unfold roundDiv
  by_cases hlow : n ≤ num / den
  · simp only
    split_ifs <;> omega
  · -- one above the quotient, and so far above it that the rest is more than half
    have hnext : (num / den + 1) * den ≤ n * den := Nat.mul_le_mul_right den (by omega)
    have hhalf : den < 2 * (num % den) := by
      rw [Nat.add_mul] at hnext
      rw [Nat.mul_comm] at hnum
      omega
    have hn : n = num / den + 1 := by
      by_contra hne
      have htwo : (num / den + 2) * den ≤ n * den := Nat.mul_le_mul_right den (by omega)
      rw [Nat.add_mul] at htwo
      rw [Nat.mul_comm] at hnum
      omega
    simp only
    rw [if_neg (by omega), if_pos hhalf, hn]

theorem roundDiv_le {n : Nat} (hden : 0 < den) (h : num ≤ n * den) : roundDiv num den ≤ n := by
  have hnum := Nat.div_add_mod num den
  have hlow : num / den ≤ n := by
    have hle := Nat.div_le_div_right (c := den) h
    rwa [Nat.mul_div_cancel _ hden] at hle
  unfold roundDiv
  rcases Nat.lt_or_eq_of_le hlow with hlt | heq
  · simp only
    split_ifs <;> omega
  · -- nothing is left over
    have hrest : num % den = 0 := by
      rw [heq, Nat.mul_comm] at hnum
      omega
    simp [hrest, hden, heq]

theorem mul_le_of_le_roundDiv {n : Nat} (h : n ≤ roundDiv num den) : 2 * (n * den) ≤ 2 * num + den := by
  have hnum := Nat.div_add_mod num den
  have hupto : ∀ m, n ≤ m → n * den ≤ m * den := fun m hm => Nat.mul_le_mul_right den hm
  unfold roundDiv at h
  simp only at h
  rw [Nat.mul_comm] at hnum
  -- Rounded down, up, or from a half to the even neighbour.
  split_ifs at h with hless hmore
  · have hle := hupto _ h
    omega
  · have hle := hupto _ h
    rw [Nat.add_mul] at hle
    omega
  · have hle := hupto (num / den + 1) (by omega)
    rw [Nat.add_mul] at hle
    omega

/-- Where rounding reaches an even number from below, rounding the half of the quotient reaches its half. -/
theorem roundDiv_carry {n : Nat} (hden : 0 < den) (hle : num ≤ n * den) (h : 2 * n ≤ roundDiv (2 * num) den) :
    roundDiv (2 * num) den = 2 * n ∧ roundDiv num den = n := by
  have hclose := mul_le_of_le_roundDiv h
  rw [Nat.mul_assoc] at hclose
  have hdouble : 2 * num ≤ 2 * n * den := by
    rw [Nat.mul_assoc]
    omega
  exact ⟨Nat.le_antisymm (roundDiv_le hden hdouble) h,
    Nat.le_antisymm (roundDiv_le hden hle) (le_roundDiv hden (by omega))⟩

/-- A shifted quotient is rounded like one of natural numbers. -/
theorem roundShifted_eq {shift : Int} {up down : Nat} (h : (up : Int) = down + shift) (num den : Nat) :
    roundShifted num den shift = roundDiv (num * 2 ^ up) (den * 2 ^ down) := by
  unfold roundShifted powerOfTwo
  -- A shift to the left scales the numerator and one to the right the denominator; both scale the quotient by the
  -- same.
  split
  · obtain ⟨t, rfl⟩ : ∃ t : Nat, shift = -t := ⟨(-shift).toNat, by omega⟩
    obtain rfl : down = up + t := by omega
    have hpow : den * 2 ^ (up + t) = 2 ^ up * (den * 2 ^ t) := by rw [pow_add]; ring
    rw [hpow, Nat.mul_comm num, roundDiv_mul_left (Nat.two_pow_pos up), Int.neg_neg, Int.toNat_natCast]
    rfl
  · obtain ⟨t, rfl⟩ : ∃ t : Nat, shift = t := ⟨shift.toNat, by omega⟩
    obtain rfl : up = down + t := by omega
    have hpow : num * 2 ^ (down + t) = 2 ^ down * (num * 2 ^ t) := by rw [pow_add]; ring
    rw [hpow, Nat.mul_comm den, roundDiv_mul_left (Nat.two_pow_pos down), Int.toNat_natCast]
    rfl

/-! ## Estimates -/

/-- The shifted quotient lies between two powers of two. -/
def Estimate (num den : Nat) (shift : Int) : Prop :=
  ∀ up down : Nat, (up : Int) = down + shift →
    den * 2 ^ down * 2 ^ 52 < num * 2 ^ up ∧ num * 2 ^ up < den * 2 ^ down * 2 ^ 54

/-- The logarithms give an estimate. -/
theorem estimate_log2 (hnum : num ≠ 0) (hden : den ≠ 0) :
    Estimate num den (53 - ((num.log2 : Int) - den.log2)) := by
  intro up down h
  have hexp : num.log2 + up = den.log2 + down + 53 := by omega
  have hnum₁ : 2 ^ num.log2 ≤ num := Nat.log2_self_le hnum
  have hnum₂ : num < 2 ^ (num.log2 + 1) := Nat.lt_log2_self
  have hden₁ : 2 ^ den.log2 ≤ den := Nat.log2_self_le hden
  have hden₂ : den < 2 ^ (den.log2 + 1) := Nat.lt_log2_self
  have hpos : ∀ n, 0 < 2 ^ n := Nat.two_pow_pos
  -- Both bounds come from the powers of two between which numerator and denominator lie.
  constructor
  · calc den * 2 ^ down * 2 ^ 52
        < 2 ^ (den.log2 + 1) * 2 ^ down * 2 ^ 52 :=
          Nat.mul_lt_mul_of_pos_right (Nat.mul_lt_mul_of_pos_right hden₂ (hpos _)) (hpos _)
      _ = 2 ^ (den.log2 + down + 53) := by ring
      _ = 2 ^ num.log2 * 2 ^ up := by rw [← hexp, pow_add]
      _ ≤ num * 2 ^ up := Nat.mul_le_mul_right _ hnum₁
  · calc num * 2 ^ up
        < 2 ^ (num.log2 + 1) * 2 ^ up := Nat.mul_lt_mul_of_pos_right hnum₂ (hpos _)
      _ = 2 ^ (num.log2 + up) * 2 := by ring
      _ = 2 ^ den.log2 * 2 ^ down * 2 ^ 54 := by rw [hexp]; ring
      _ ≤ den * 2 ^ down * 2 ^ 54 := Nat.mul_le_mul_right _ (Nat.mul_le_mul_right _ hden₁)

/-- No two estimates differ by more than one. -/
theorem Estimate.le_succ {s t : Int} (hs : Estimate num den s) (ht : Estimate num den t) : t ≤ s + 1 := by
  by_contra hgap
  obtain ⟨down, hdown⟩ : ∃ down : Nat, 0 ≤ down + s ∧ 0 ≤ down + t := ⟨s.natAbs + t.natAbs, by omega, by omega⟩
  obtain ⟨hlow, -⟩ := hs (down + s).toNat down (by omega)
  obtain ⟨-, hhigh⟩ := ht (down + t).toNat down (by omega)
  have hpow : 2 ^ ((down + s).toNat + 2) ≤ 2 ^ (down + t).toNat := Nat.pow_le_pow_right (by decide) (by omega)
  have hmul := Nat.mul_le_mul_left num hpow
  rw [pow_add, ← Nat.mul_assoc] at hmul
  omega

theorem shiftOf_of_le {e : Int} (h : 2 ^ 53 ≤ roundShifted num den e) : shiftOf num den e = min (e - 1) 1074 := by
  unfold shiftOf
  simp only [powerOfTwo, ge_iff_le, show Nat.pow 2 53 = 2 ^ 53 from rfl, if_pos h]
  split <;> omega

theorem shiftOf_of_lt {e : Int} (h : roundShifted num den e < 2 ^ 53) : shiftOf num den e = min e 1074 := by
  unfold shiftOf
  simp only [powerOfTwo, ge_iff_le, show Nat.pow 2 53 = 2 ^ 53 from rfl, if_neg (Nat.not_le.mpr h)]
  split <;> omega

/-- A mantissa of `2 ^ 53` is one of `2 ^ 52` with another shift. -/
theorem pack?_carry {shift : Int} (h : shift ≤ 1074) :
    pack? shift (2 ^ 53) = pack? (shift - 1) (2 ^ 52) := by
  have hp : powerOfTwo 52 = 2 ^ 52 := rfl
  have hbits : (1075 - shift).toNat * 2 ^ 52 + (2 ^ 53 - 2 ^ 52)
      = (1075 - (shift - 1)).toNat * 2 ^ 52 + (2 ^ 52 - 2 ^ 52) := by omega
  unfold pack?
  simp only [hp]
  rw [if_neg (by decide : ¬ 2 ^ 53 < 2 ^ 52), if_neg (by decide : ¬ 2 ^ 52 < 2 ^ 52), hbits]
  -- what is too large for one of the shifts has too many bits for both
  have hcond : (decide (1075 - shift ≥ 2047) ||
        decide ((1075 - (shift - 1)).toNat * 2 ^ 52 + (2 ^ 52 - 2 ^ 52) ≥ 2047 * 2 ^ 52))
      = (decide (1075 - (shift - 1) ≥ 2047) ||
        decide ((1075 - (shift - 1)).toNat * 2 ^ 52 + (2 ^ 52 - 2 ^ 52) ≥ 2047 * 2 ^ 52)) := by
    rw [Bool.eq_iff_iff]
    simp only [Bool.or_eq_true, decide_eq_true_eq]
    omega
  rw [hcond]

/-- Of two estimates that differ by one, both lead to the same number. -/
theorem ofEstimate?_succ {e : Int} (hden : 0 < den) (h : Estimate num den e) (h' : Estimate num den (e + 1)) :
    ofEstimate? num den (e + 1) = ofEstimate? num den e := by
  obtain ⟨down, hdown⟩ : ∃ down : Nat, 1 ≤ down + e := ⟨e.natAbs + 1, by omega⟩
  obtain ⟨up, hup⟩ : ∃ up : Nat, (up : Int) = down + (e - 1) := ⟨(down + (e - 1)).toNat, by omega⟩
  have hden' : 0 < den * 2 ^ down := Nat.mul_pos hden (Nat.two_pow_pos _)
  have hup₁ : ((up + 1 : Nat) : Int) = down + e := by omega
  have hup₂ : ((up + 2 : Nat) : Int) = down + (e + 1) := by omega
  obtain ⟨hlow, -⟩ := h (up + 1) down hup₁
  obtain ⟨-, hhigh⟩ := h' (up + 2) down hup₂
  have hbefore := roundShifted_eq hup num den
  have hhere := roundShifted_eq hup₁ num den
  have hafter := roundShifted_eq hup₂ num den
  generalize hd : den * 2 ^ down = d at *
  obtain ⟨m, hm⟩ : ∃ m, num * 2 ^ up = m := ⟨_, rfl⟩
  have hm₁ : num * 2 ^ (up + 1) = 2 * m := by rw [← hm, pow_succ]; ring
  have hm₂ : num * 2 ^ (up + 2) = 4 * m := by rw [← hm, pow_add]; ring
  rw [hm] at hbefore
  rw [hm₁] at hhere hlow
  rw [hm₂] at hafter hhigh
  -- the later estimate is one too high
  have hmany : 2 ^ 53 ≤ roundShifted num den (e + 1) := by
    rw [hafter]
    exact le_roundDiv hden' (by omega)
  have hshift' : shiftOf num den (e + 1) = min e 1074 := by
    rw [shiftOf_of_le hmany, Int.add_sub_cancel]
  simp only [ofEstimate?, hshift']
  by_cases hcarry : 2 ^ 53 ≤ roundShifted num den e
  · -- the earlier one is right, but rounding reaches the next power of two
    rw [shiftOf_of_le hcarry]
    by_cases hlarge : 1074 < e
    · rw [min_eq_right (by omega), min_eq_right (by omega)]
    · rw [hhere] at hcarry
      have hle : m ≤ 2 ^ 52 * d := by omega
      obtain ⟨hfull, hhalf⟩ := roundDiv_carry hden' hle hcarry
      rw [min_eq_left (by omega), min_eq_left (by omega), hhere, hbefore, hfull, hhalf]
      exact pack?_carry (by omega)
  · rw [shiftOf_of_lt (by omega)]

/-- All estimates lead to the same number. -/
theorem ofEstimate?_eq {s t : Int} (hden : 0 < den) (hs : Estimate num den s) (ht : Estimate num den t) :
    ofEstimate? num den s = ofEstimate? num den t := by
  have hst := hs.le_succ ht
  have hts := ht.le_succ hs
  rcases (by omega : t = s ∨ t = s + 1 ∨ s = t + 1) with rfl | rfl | rfl
  · rfl
  · exact (ofEstimate?_succ hden hs ht).symm
  · exact ofEstimate?_succ hden ht hs

/-! ## Quotients -/

theorem roundShifted_mul_left {k : Nat} (hk : 0 < k) (num den : Nat) (shift : Int) :
    roundShifted (k * num) (k * den) shift = roundShifted num den shift := by
  unfold roundShifted
  split <;> rw [Nat.mul_assoc, roundDiv_mul_left hk]

/-- A quotient is rounded by its value. -/
theorem ofQuotient?_mul_left {k : Nat} (hk : 0 < k) (hden : 0 < den) :
    ofQuotient? (k * num) (k * den) = ofQuotient? num den := by
  by_cases hnum : num = 0
  · simp [ofQuotient?, hnum]
  · have hknum : k * num ≠ 0 := Nat.mul_ne_zero hk.ne' hnum
    have hkden : k * den ≠ 0 := Nat.mul_ne_zero hk.ne' hden.ne'
    have hsame : ∀ e, ofEstimate? (k * num) (k * den) e = ofEstimate? num den e := by
      intro e
      simp only [ofEstimate?, shiftOf, roundShifted_mul_left hk]
    -- the estimate for the larger numbers is one for the smaller ones too
    have hestimate : Estimate num den (53 - (((k * num).log2 : Int) - (k * den).log2)) := by
      intro up down h
      obtain ⟨hlow, hhigh⟩ := estimate_log2 hknum hkden up down h
      rw [Nat.mul_assoc k num, Nat.mul_assoc k den, Nat.mul_assoc k (den * _)] at hlow hhigh
      exact ⟨Nat.lt_of_mul_lt_mul_left hlow, Nat.lt_of_mul_lt_mul_left hhigh⟩
    rw [ofQuotient?, ofQuotient?, if_neg hknum, if_neg hnum, hsame]
    exact ofEstimate?_eq hden hestimate (estimate_log2 hnum hden.ne')

/-! ## Bounds -/

theorem isSome_pack? {shift : Int} {mantissa : Nat} (hmantissa : mantissa ≤ 2 ^ 53) (hshift : -971 ≤ shift)
    (hlast : shift = -971 → mantissa ≤ 2 ^ 52) : (pack? shift mantissa).isSome := by
  have hp : powerOfTwo 52 = 2 ^ 52 := rfl
  unfold pack?
  simp only [hp]
  rw [if_neg]
  · rfl
  · simp only [Bool.or_eq_true, decide_eq_true_eq]
    split_ifs <;> omega

/-- The quotient `num / den`, shifted by `up - down`, is below a power of two where the quotient itself is. -/
theorem mul_two_pow_le {limit up down n : Nat} (h : num < 2 ^ limit * den) (hn : limit + up ≤ n + down) :
    num * 2 ^ up ≤ 2 ^ n * (den * 2 ^ down) := by
  calc num * 2 ^ up ≤ 2 ^ limit * den * 2 ^ up := Nat.mul_le_mul_right _ h.le
    _ = 2 ^ (limit + up) * den := by ring
    _ ≤ 2 ^ (n + down) * den := Nat.mul_le_mul_right _ (Nat.pow_le_pow_right (by decide) hn)
    _ = 2 ^ n * (den * 2 ^ down) := by ring

theorem roundShifted_le {t : Int} {up down n : Nat} (hden : 0 < den) (ht : (up : Int) = down + t)
    (h : num * 2 ^ up ≤ 2 ^ n * (den * 2 ^ down)) : roundShifted num den t ≤ 2 ^ n := by
  rw [roundShifted_eq ht]
  exact roundDiv_le (Nat.mul_pos hden (Nat.two_pow_pos _)) h

theorem roundShifted_le_of_lt {limit n : Nat} {t : Int} (hden : 0 < den) (h : num < 2 ^ limit * den)
    (ht : limit + t ≤ n) : roundShifted num den t ≤ 2 ^ n := by
  have hup : ((t.natAbs + t).toNat : Int) = t.natAbs + t := by omega
  exact roundShifted_le hden hup (mul_two_pow_le h (by omega))

/-- A shift below an estimate leaves at most 53 bits. -/
theorem Estimate.roundShifted_le {s t : Int} (hden : 0 < den) (hs : Estimate num den s) (ht : t < s) :
    roundShifted num den t ≤ 2 ^ 53 := by
  obtain ⟨down, hdown⟩ : ∃ down : Nat, 0 ≤ down + s ∧ 0 ≤ down + t := ⟨s.natAbs + t.natAbs, by omega, by omega⟩
  obtain ⟨-, hhigh⟩ := hs (down + s).toNat down (by omega)
  have hpow : 2 ^ ((down + t).toNat + 1) ≤ 2 ^ (down + s).toNat := Nat.pow_le_pow_right (by decide) (by omega)
  have hmul := Nat.mul_le_mul_left num hpow
  rw [pow_succ, ← Nat.mul_assoc] at hmul
  have hup : ((down + t).toNat : Int) = down + t := by omega
  exact Binary.roundShifted_le hden hup (by omega)

/-- The larger a quotient may be, the less it may have to be shifted. -/
theorem Estimate.le_add {limit : Nat} {s : Int} (hs : Estimate num den s) (h : num < 2 ^ limit * den) :
    53 ≤ limit + s := by
  by_contra hless
  obtain ⟨down, hdown⟩ : ∃ down : Nat, 0 ≤ down + s := ⟨s.natAbs, by omega⟩
  obtain ⟨hlow, -⟩ := hs (down + s).toNat down (by omega)
  have hle : num * 2 ^ (down + s).toNat ≤ 2 ^ 52 * (den * 2 ^ down) := mul_two_pow_le h (by omega)
  rw [Nat.mul_comm (2 ^ 52)] at hle
  omega

/-- A quotient that is not too large can be rounded. -/
theorem isSome_ofQuotient? {limit : Nat} (hlimit : limit ≤ 1023) (hden : 0 < den) (h : num < 2 ^ limit * den) :
    (ofQuotient? num den).isSome := by
  by_cases hnum : num = 0
  · simp [ofQuotient?, hnum]
  have hestimate := estimate_log2 hnum hden.ne'
  rw [ofQuotient?, if_neg hnum]
  generalize 53 - ((num.log2 : Int) - den.log2) = e at hestimate
  have hfirst : 53 ≤ limit + e := hestimate.le_add h
  have hlast : ∀ {t : Int}, t = -971 → roundShifted num den t ≤ 2 ^ 52 := by
    rintro t rfl
    exact roundShifted_le_of_lt hden h (by omega)
  -- The estimate is off by one at most, so one of two shifts is taken, and either leaves a number that can be packed.
  by_cases hmany : 2 ^ 53 ≤ roundShifted num den e
  · simp only [ofEstimate?, shiftOf_of_le hmany]
    exact isSome_pack? (hestimate.roundShifted_le hden (by omega)) (by omega) hlast
  · simp only [ofEstimate?, shiftOf_of_lt (Nat.not_le.mp hmany)]
    refine isSome_pack? ?_ (by omega) hlast
    rcases lt_or_ge 1074 e with hlarge | hsmall
    · exact hestimate.roundShifted_le hden (by omega)
    · rw [min_eq_left hsmall]
      omega

end Binary

/-! ## Rational numbers -/

namespace Json

/-- The floating-point number for a rational one, which must not be too large. -/
def nearest (q : ℚ) : Attempt Float := quotient q.num q.den

/-- A quotient is that of a rational number. -/
theorem quotient_eq_nearest (m : Int) {n : Nat} (hn : 0 < n) : quotient m n = nearest (m / n) := by
  obtain ⟨c, hm, hc⟩ := Rat.exists_eq_mul_div_num_and_eq_mul_div_den m (Int.natCast_ne_zero.mpr hn.ne')
  rw [Int.cast_natCast] at hm hc
  unfold nearest
  generalize (m / n : ℚ) = q at hm hc
  have hden : (0 : Int) < q.den := Int.natCast_pos.mpr q.den_pos
  have hpos : 0 < c := by
    by_contra hno
    have hle : c * q.den ≤ 0 := Int.mul_nonpos_of_nonpos_of_nonneg (by omega) hden.le
    omega
  -- Reducing the fraction changes neither its sign nor its size.
  have hsign : decide (m < 0) = decide (q.num < 0) := by
    rw [hm, decide_eq_decide]
    exact ⟨fun h => neg_of_mul_neg_right h hpos.le, fun h => mul_neg_of_pos_of_neg hpos h⟩
  have hsize : Binary.ofQuotient? m.natAbs n = Binary.ofQuotient? q.num.natAbs q.den := by
    have hn' : n = c.natAbs * q.den := by
      have habs := congrArg Int.natAbs hc
      rwa [Int.natAbs_mul, Int.natAbs_natCast, Int.natAbs_natCast] at habs
    rw [hm, hn', Int.natAbs_mul, Binary.ofQuotient?_mul_left (by omega) q.den_pos]
  unfold quotient
  rw [Int.natAbs_natCast, Int.natAbs_natCast, hsize, hsign]
  have hnot : ∀ d : Nat, decide ((d : Int) < 0) = false := fun d => by simp
  simp only [hnot]

/-- A quotient that is not too large is there. -/
theorem exists_nearest {q : ℚ} {limit : Nat} (hlimit : limit ≤ 1023) (h : |q| < 2 ^ limit) :
    ∃ x, nearest q = .ok x := by
  -- A bound on a fraction is a bound on its numerator.
  have hbound : q.num.natAbs < 2 ^ limit * q.den := by
    have hden : (0 : ℚ) < q.den := Nat.cast_pos.mpr q.den_pos
    have hmul := mul_lt_mul_of_pos_right h hden
    rw [← abs_of_pos hden, ← abs_mul, abs_of_pos hden, Rat.mul_den_eq_num, ← Int.cast_abs] at hmul
    rw [← Nat.cast_lt (α := ℚ), Nat.cast_natAbs]
    exact_mod_cast hmul
  have hsome := Binary.isSome_ofQuotient? hlimit q.den_pos hbound
  obtain ⟨size, hsize⟩ := Option.isSome_iff_exists.mp hsome
  unfold nearest quotient
  rw [Int.natAbs_natCast, hsize]
  exact ⟨_, rfl⟩

end Json

end Emend
