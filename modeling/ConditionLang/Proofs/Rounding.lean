import Mathlib.Algebra.Order.Field.Power
import Mathlib.Algebra.Order.Field.Rat
import Mathlib.Tactic.Lift
import Mathlib.Tactic.Positivity
import ConditionLang.Proofs.Doubles

/-!
# Numbers that are doubles already

The double nearest to a number that is a double is that double (`nearestBits_of_isNormal`). Its exponent is found from the
sizes of numerator and denominator: between them only one power of two leaves a mantissa of 53 bits.
-/

namespace ConditionLang

namespace Number

/-- A quotient that is whole is not rounded. -/
theorem roundHalfEven_mul {m den : Nat} (h : 0 < den) : roundHalfEven (m * den) den = m := by
  simp only [roundHalfEven, Nat.mul_mod_left, Nat.mul_div_cancel m h, Nat.mul_zero, if_pos h]

/-- A power of two that is no fraction is a natural number. -/
theorem two_zpow_of_nonneg {n : Int} (h : 0 ≤ n) : (2 : ℚ) ^ n = ((2 ^ n.toNat : Nat) : ℚ) := by
  lift n to ℕ using h
  simp

/-- Multiplying on the other side with the opposite power of two. -/
theorem lt_mul_zpow_iff {num den : Nat} {n : Int} :
    (if n < 0 then num * 2 ^ (-n).toNat < den * 2 ^ 53 else num < den * 2 ^ n.toNat * 2 ^ 53) ↔
      (num : ℚ) < den * 2 ^ (n + 53) := by
  split
  · rename_i hn
    have hpos : (0 : ℚ) < 2 ^ (-n) := by positivity
    rw [← mul_lt_mul_iff_left₀ hpos, mul_assoc, ← zpow_add₀ two_ne_zero, two_zpow_of_nonneg (by omega : 0 ≤ -n)]
    rw [show n + 53 + -n = (53 : ℤ) by omega]
    norm_cast
  · rename_i hn
    rw [zpow_add₀ two_ne_zero, two_zpow_of_nonneg (Int.not_lt.mp hn), ← mul_assoc]
    norm_cast

/-- The exponent at which the mantissa of a quotient has 53 bits. -/
def exponentAt (num den : Nat) : Int :=
  let low : Int := Nat.log2 num - Nat.log2 den - 53
  if (num : ℚ) < den * 2 ^ (low + 53) then low else low + 1

/-- The exponent of the nearest double is the one at which the mantissa has 53 bits, but not below the least. -/
theorem exponentFor_eq_max {num den : Nat} (h : num ≠ 0) : exponentFor num den = max (-1074) (exponentAt num den) := by
  rw [exponentFor, if_neg h]
  exact congrArg (max (-1074)) (if_congr lt_mul_zpow_iff rfl rfl)

/-- At that exponent the quotient lies between the least and the greatest mantissa of 53 bits. -/
theorem exponentAt_bounds {num den : Nat} (hnum : num ≠ 0) (hden : den ≠ 0) :
    (den : ℚ) * 2 ^ (exponentAt num den + 52) ≤ num ∧ (num : ℚ) < den * 2 ^ (exponentAt num den + 53) := by
  obtain ⟨hnlow, hnhigh⟩ := (Nat.log2_eq_iff hnum).mp rfl
  obtain ⟨hdlow, hdhigh⟩ := (Nat.log2_eq_iff hden).mp rfl
  have hnlow : (2 : ℚ) ^ (num.log2 : ℤ) ≤ num := by exact_mod_cast hnlow
  have hnhigh : (num : ℚ) < 2 ^ (num.log2 + 1 : ℤ) := by exact_mod_cast hnhigh
  have hdlow : (2 : ℚ) ^ (den.log2 : ℤ) ≤ den := by exact_mod_cast hdlow
  have hdhigh : (den : ℚ) < 2 ^ (den.log2 + 1 : ℤ) := by exact_mod_cast hdhigh
  have hpow : ∀ n : ℤ, (0 : ℚ) < 2 ^ n := fun n => by positivity
  simp only [exponentAt]
  split
  · rename_i hfits
    refine ⟨?_, hfits⟩
    calc (den : ℚ) * 2 ^ ((num.log2 : ℤ) - den.log2 - 53 + 52)
        ≤ 2 ^ (den.log2 + 1 : ℤ) * 2 ^ ((num.log2 : ℤ) - den.log2 - 53 + 52) :=
          mul_le_mul_of_nonneg_right hdhigh.le (hpow _).le
      _ = 2 ^ (num.log2 : ℤ) := by
          rw [← zpow_add₀ two_ne_zero]
          congr 1
          omega
      _ ≤ num := hnlow
  · rename_i hfits
    refine ⟨?_, ?_⟩
    · rw [show (num.log2 : ℤ) - den.log2 - 53 + 1 + 52 = (num.log2 : ℤ) - den.log2 - 53 + 53 by omega]
      exact not_lt.mp hfits
    · calc (num : ℚ) < 2 ^ (num.log2 + 1 : ℤ) := hnhigh
        _ = 2 ^ (den.log2 : ℤ) * 2 ^ ((num.log2 : ℤ) - den.log2 - 53 + 1 + 53) := by
            rw [← zpow_add₀ two_ne_zero]
            congr 1
            omega
        _ ≤ den * 2 ^ ((num.log2 : ℤ) - den.log2 - 53 + 1 + 53) := mul_le_mul_of_nonneg_right hdlow (hpow _).le

/-- A mantissa of 53 bits, or of fewer at the least exponent, and its exponent. -/
def IsNormal (m : Nat) (q : Int) : Prop :=
  -1074 ≤ q ∧ m < 2 ^ 53 ∧ (2 ^ 52 ≤ m ∨ q = -1074)

/-- The exponent of a double is found again. -/
theorem exponentFor_of_isNormal {num den m : Nat} {q : Int} (hden : den ≠ 0) (h : IsNormal m q)
    (hvalue : (num : ℚ) = m * 2 ^ q * den) : exponentFor num den = q := by
  obtain ⟨hleast, hhigh, hlow⟩ := h
  by_cases hm : m = 0
  · have hnum : num = 0 := by
      rw [hm, Nat.cast_zero, zero_mul, zero_mul] at hvalue
      exact_mod_cast hvalue
    rw [exponentFor, if_pos hnum]
    omega
  have hpow : ∀ n : ℤ, (0 : ℚ) < 2 ^ n := fun n => by positivity
  have hdpos : (0 : ℚ) < den := by exact_mod_cast Nat.pos_of_ne_zero hden
  have hmpos : (0 : ℚ) < m := by exact_mod_cast Nat.pos_of_ne_zero hm
  have hnum : num ≠ 0 := by
    rintro rfl
    have hpos := mul_pos (mul_pos hmpos (hpow q)) hdpos
    rw [← hvalue, Nat.cast_zero] at hpos
    exact lt_irrefl 0 hpos
  obtain ⟨hbelow, habove⟩ := exponentAt_bounds hnum hden
  rw [hvalue, mul_comm _ (den : ℚ)] at hbelow habove
  have hbelow := le_of_mul_le_mul_left hbelow hdpos
  have habove := lt_of_mul_lt_mul_left habove hdpos.le
  -- The exponent of the quotient exceeds `q` by less than one, and `q` exceeds it by less than one unless it is the least.
  have hle : exponentAt num den + 52 < q + 53 := by
    rw [← zpow_lt_zpow_iff_right₀ (one_lt_two : (1 : ℚ) < 2)]
    refine hbelow.trans_lt ?_
    rw [add_comm q, zpow_add₀ two_ne_zero]
    exact mul_lt_mul_of_pos_right (by exact_mod_cast hhigh) (hpow q)
  have hge : q ≤ exponentAt num den ∨ q = -1074 := by
    refine hlow.imp_left fun hlow => ?_
    have hlt : q + 52 < exponentAt num den + 53 := by
      rw [← zpow_lt_zpow_iff_right₀ (one_lt_two : (1 : ℚ) < 2)]
      refine lt_of_le_of_lt ?_ habove
      rw [add_comm q, zpow_add₀ two_ne_zero]
      exact mul_le_mul_of_nonneg_right (by exact_mod_cast hlow) (hpow q).le
    omega
  rw [exponentFor_eq_max hnum]
  omega

/-- The bits of the double nearest to a number that is a double. -/
theorem nearestBits_of_isNormal {num den m : Nat} {q : Int} (hden : den ≠ 0) (h : IsNormal m q)
    (hvalue : (num : ℚ) = m * 2 ^ q * den) : nearestBits num den = min infinityBits ((q + 1074).toNat * 2 ^ 52 + m) := by
  have hexp := exponentFor_of_isNormal hden h hvalue
  simp only [nearestBits, hexp]
  split
  · rename_i hq
    have hscaled : num * 2 ^ (-q).toNat = m * den := by
      have hpow : ((2 ^ (-q).toNat : Nat) : ℚ) = 2 ^ (-q) := (two_zpow_of_nonneg (by omega)).symm
      have heq : (num : ℚ) * 2 ^ (-q) = m * den := by
        rw [hvalue, mul_right_comm, mul_assoc _ ((2 : ℚ) ^ q), ← zpow_add₀ two_ne_zero, add_neg_cancel, zpow_zero,
          mul_one]
      rw [← hpow] at heq
      exact_mod_cast heq
    rw [hscaled, roundHalfEven_mul (Nat.pos_of_ne_zero hden)]
  · rename_i hq
    have hscaled : num = m * (den * 2 ^ q.toNat) := by
      have hpow : ((2 ^ q.toNat : Nat) : ℚ) = 2 ^ q := (two_zpow_of_nonneg (by omega)).symm
      rw [← hpow] at hvalue
      rw [Nat.mul_comm den, ← Nat.mul_assoc]
      exact_mod_cast hvalue
    rw [hscaled, roundHalfEven_mul (Nat.mul_pos (Nat.pos_of_ne_zero hden) (Nat.two_pow_pos _))]

/-- A finite double has a mantissa of 53 bits, or of fewer at the least exponent, and its bits are made of both. -/
theorem exists_partsOfBits {bits : Nat} (h : bits < infinityBits) (negative : Bool) :
    ∃ m q, partsOfBits negative bits = .finite negative m q ∧ IsNormal m q ∧ q ≤ 971 ∧
      (q + 1074).toNat * 2 ^ 52 + m = bits := by
  have hexponent : bits / 2 ^ 52 < 2047 := by
    unfold infinityBits at h
    omega
  have hmod : bits % 2 ^ 52 < 2 ^ 52 := Nat.mod_lt _ (by decide)
  by_cases hzero : bits / 2 ^ 52 = 0
  · refine ⟨bits % 2 ^ 52, -1074, ?_, ⟨le_refl _, by omega, .inr rfl⟩, by omega, by omega⟩
    simp only [partsOfBits]
    rw [if_neg (by omega), if_pos hzero]
  · refine ⟨bits % 2 ^ 52 + 2 ^ 52, (bits / 2 ^ 52 : Nat) - 1075, ?_, ⟨by omega, by omega, .inl (by omega)⟩, by omega,
      by omega⟩
    simp only [partsOfBits]
    rw [if_neg (by omega), if_neg hzero]

end Number

end ConditionLang
