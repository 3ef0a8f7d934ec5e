import Mathlib.Data.Rat.Floor
import Mathlib.Tactic.Ring
import ConditionLang.Number.Rounding
import ConditionLang.Proofs.Rounding

/-!
# Whole numbers and doubles

A finite double stands for a rational number (`value?`). Its whole part is found exactly (`truncate?_eq`), and an integer of 64
bits is turned into a double by rounding (`value?_ofInt`). Rounding does not lead past a number that is a double itself
(`nearest_le`, `le_nearest`): with the exponent that the number is rounded at, the double is a multiple of the last place, or it
lies beyond all numbers that are rounded at this exponent. So what is rounded between two doubles stays between them, and the
double is a whole number again (`exists_nearest_eq`).
-/

namespace ConditionLang

namespace Number

/-! ## The value of a double -/

/-- The number that parts stand for. -/
def Parts.value? : Parts → Option ℚ
  | .finite negative m q => some (if negative then -(m * 2 ^ q) else m * 2 ^ q)
  | .infinite _ | .nan => none

/-- The number that a finite double stands for. -/
def value? (x : Float) : Option ℚ :=
  (parts x).value?

/-- A rational without its fraction. -/
def towardsZero (x : ℚ) : Int :=
  if 0 ≤ x then ⌊x⌋ else ⌈x⌉

/-- The whole part of the opposite number is opposite. -/
theorem towardsZero_neg (x : ℚ) : towardsZero (-x) = -towardsZero x := by
  unfold towardsZero
  rcases lt_trichotomy x 0 with h | rfl | h
  · rw [if_pos (neg_nonneg.mpr h.le), if_neg (not_le.mpr h), Int.floor_neg]
  · simp
  · rw [if_neg (not_le.mpr (neg_lt_zero.mpr h)), if_pos h.le, Int.ceil_neg]

/-- A power of two that is a fraction is one over a natural number. -/
theorem two_zpow_of_neg {q : Int} (h : q < 0) : (2 : ℚ) ^ q = ((2 ^ (-q).toNat : Nat) : ℚ)⁻¹ := by
  rw [← two_zpow_of_nonneg (by omega), zpow_neg, inv_inv]

/-- The whole part of a double without a sign is its floor. -/
theorem wholePart_eq_floor (m : Nat) (q : Int) : ((wholePart m q).1 : Int) = ⌊(m : ℚ) * 2 ^ q⌋ := by
  unfold wholePart
  split
  · rename_i hq
    rw [two_zpow_of_neg hq, ← div_eq_mul_inv, Rat.floor_natCast_div_natCast]
    norm_cast
  · rename_i hq
    rw [two_zpow_of_nonneg (Int.not_lt.mp hq), ← Nat.cast_mul, Int.floor_natCast]

/-- The whole part of a number that parts stand for. -/
theorem towardsZero_finite (negative : Bool) (m : Nat) (q : Int) :
    towardsZero (if negative then -(m * 2 ^ q) else m * 2 ^ q) =
      if negative then -((wholePart m q).1 : Int) else (wholePart m q).1 := by
  have hfloor : towardsZero (m * 2 ^ q) = (wholePart m q).1 := by
    rw [wholePart_eq_floor, towardsZero, if_pos (by positivity)]
  cases negative with
  | false => exact hfloor
  | true => exact (towardsZero_neg _).trans (congrArg Neg.neg hfloor)

/-- The whole part of a finite double is the one of the number that it stands for. -/
theorem truncate?_eq (x : Float) : truncate? x = (value? x).map towardsZero := by
  unfold truncate? value?
  cases parts x with
  | nan => rfl
  | infinite negative => rfl
  | finite negative m q => rw [Parts.value?, Option.map_some, towardsZero_finite]

/-! ## Rounding integers -/

/-- A quotient that is at most a natural is not rounded above it. -/
theorem roundHalfEven_le {num den k : Nat} (hden : 0 < den) (h : num ≤ k * den) : roundHalfEven num den ≤ k := by
  have hsplit := Nat.div_add_mod num den
  have hwhole : num / den ≤ k := Nat.div_le_of_le_mul (by rwa [Nat.mul_comm])
  simp only [roundHalfEven]
  rcases Nat.lt_or_eq_of_le hwhole with hlt | heq
  · split_ifs <;> omega
  · have hrest : num % den = 0 := by
      rw [heq, Nat.mul_comm] at hsplit
      omega
    rw [hrest, Nat.mul_zero, if_pos hden, heq]

/-- A quotient that is at least a natural is not rounded below it. -/
theorem le_roundHalfEven {num den k : Nat} (hden : 0 < den) (h : k * den ≤ num) : k ≤ roundHalfEven num den := by
  have hwhole : k ≤ num / den := (Nat.le_div_iff_mul_le hden).mpr h
  simp only [roundHalfEven]
  split_ifs <;> omega

/-- The mantissa that a natural is rounded to at an exponent. -/
def mantissaAt (n : Nat) (e : Int) : Nat :=
  if e < 0 then roundHalfEven (n * 2 ^ (-e).toNat) 1 else roundHalfEven n (1 * 2 ^ e.toNat)

variable {n k : Nat} {e : Int}

/-- What is below a number of the exponent has a mantissa below its mantissa. -/
theorem mantissaAt_le (h : (n : ℚ) ≤ k * 2 ^ e) : mantissaAt n e ≤ k := by
  unfold mantissaAt
  split
  · rename_i he
    rw [two_zpow_of_neg he, ← div_eq_mul_inv, le_div_iff₀ (by positivity)] at h
    exact roundHalfEven_le Nat.one_pos (by rw [Nat.mul_one]; exact_mod_cast h)
  · rename_i he
    rw [two_zpow_of_nonneg (Int.not_lt.mp he)] at h
    exact roundHalfEven_le (by positivity) (by rw [Nat.one_mul]; exact_mod_cast h)

/-- What is above a number of the exponent has a mantissa above its mantissa. -/
theorem le_mantissaAt (h : (k : ℚ) * 2 ^ e ≤ n) : k ≤ mantissaAt n e := by
  unfold mantissaAt
  split
  · rename_i he
    rw [two_zpow_of_neg he, ← div_eq_mul_inv, div_le_iff₀ (by positivity)] at h
    exact le_roundHalfEven Nat.one_pos (by rw [Nat.mul_one]; exact_mod_cast h)
  · rename_i he
    rw [two_zpow_of_nonneg (Int.not_lt.mp he)] at h
    exact le_roundHalfEven (by positivity) (by rw [Nat.one_mul]; exact_mod_cast h)

/-- The exponent that a natural is rounded at leaves 53 bits of it, or fewer if it is the least one. -/
theorem exponentFor_bounds (n : Nat) :
    -1074 ≤ exponentFor n 1 ∧ (n : ℚ) < 2 ^ (exponentFor n 1 + 53) ∧
      ((2 : ℚ) ^ (exponentFor n 1 + 52) ≤ n ∨ exponentFor n 1 = -1074) := by
  by_cases hn : n = 0
  · rw [hn, exponentFor, if_pos rfl]
    refine ⟨le_refl _, ?_, .inr rfl⟩
    rw [Nat.cast_zero]
    positivity
  · obtain ⟨hlow, hhigh⟩ := exponentAt_bounds hn Nat.one_ne_zero
    rw [Nat.cast_one, one_mul] at hlow hhigh
    rw [exponentFor_eq_max hn]
    refine ⟨le_max_left _ _, hhigh.trans_le ?_, ?_⟩
    · exact zpow_le_zpow_right₀ one_le_two (by omega)
    · rcases le_total (exponentAt n 1) (-1074) with h | h
      · exact .inr (max_eq_left h)
      · rw [max_eq_right h]
        exact .inl hlow

/-- The double nearest to a natural, as a number. -/
def rounded (n : Nat) : ℚ :=
  mantissaAt n (exponentFor n 1) * 2 ^ exponentFor n 1

/-- The number has a mantissa of at most 53 bits, at an exponent that doubles have. -/
def IsDouble (x : ℚ) : Prop :=
  ∃ (m : Nat) (q : Int), -1074 ≤ q ∧ m ≤ 2 ^ 53 ∧ x = m * 2 ^ q

/-- Powers of two are multiplied by adding their exponents. -/
theorem two_pow_mul_zpow (k : Nat) (e : Int) : (2 : ℚ) ^ k * 2 ^ e = 2 ^ (e + k) := by
  rw [← zpow_natCast, ← zpow_add₀ two_ne_zero, add_comm]

/-- A double at a smaller exponent than a number is rounded at is at most the least number that is rounded at it. -/
theorem le_of_exponent_lt {m : Nat} {q : Int} (hm : m ≤ 2 ^ 53) (h : q < e) :
    (m : ℚ) * 2 ^ q ≤ 2 ^ (e + 52) := by
  have hm : (m : ℚ) ≤ 2 ^ 53 := by exact_mod_cast hm
  calc (m : ℚ) * 2 ^ q ≤ 2 ^ 53 * 2 ^ q := mul_le_mul_of_nonneg_right hm (by positivity)
    _ = 2 ^ (q + 53) := two_pow_mul_zpow 53 q
    _ ≤ 2 ^ (e + 52) := zpow_le_zpow_right₀ one_le_two (by omega)

/-- At a smaller exponent a double is a multiple of the last place. -/
theorem eq_mul_of_exponent_le {m : Nat} {q : Int} (h : e ≤ q) :
    (m : ℚ) * 2 ^ q = ((m * 2 ^ (q - e).toNat : Nat) : ℚ) * 2 ^ e := by
  rw [Nat.cast_mul, ← two_zpow_of_nonneg (by omega), mul_assoc, ← zpow_add₀ two_ne_zero, Int.sub_add_cancel]

/-- Rounding does not pass a double above. -/
theorem rounded_le {x : ℚ} (hx : IsDouble x) (h : (n : ℚ) ≤ x) : rounded n ≤ x := by
  obtain ⟨m, q, hq, hm, rfl⟩ := hx
  obtain ⟨-, -, hlow⟩ := exponentFor_bounds n
  unfold rounded
  generalize exponentFor n 1 = e at hlow
  have hpos : (0 : ℚ) < 2 ^ e := by positivity
  rcases le_or_gt e q with he | he
  · rw [eq_mul_of_exponent_le he] at h ⊢
    exact mul_le_mul_of_nonneg_right (by exact_mod_cast mantissaAt_le h) hpos.le
  · -- The double is the least number at this exponent, and so is `n`.
    have hlow := hlow.resolve_right (by omega)
    have hleast := le_of_exponent_lt hm he
    have hn : (n : ℚ) ≤ (2 ^ 52 : Nat) * 2 ^ e := by
      rw [Nat.cast_pow, Nat.cast_ofNat, two_pow_mul_zpow]
      exact h.trans hleast
    have hmantissa : (mantissaAt n e : ℚ) ≤ 2 ^ 52 := by exact_mod_cast mantissaAt_le hn
    calc (mantissaAt n e : ℚ) * 2 ^ e ≤ 2 ^ 52 * 2 ^ e := mul_le_mul_of_nonneg_right hmantissa hpos.le
      _ = 2 ^ (e + 52) := two_pow_mul_zpow 52 e
      _ ≤ n := hlow
      _ ≤ m * 2 ^ q := h

/-- Rounding does not pass a double below. -/
theorem le_rounded {x : ℚ} (hx : IsDouble x) (h : x ≤ n) : x ≤ rounded n := by
  obtain ⟨m, q, hq, hm, rfl⟩ := hx
  obtain ⟨-, -, hlow⟩ := exponentFor_bounds n
  unfold rounded
  generalize exponentFor n 1 = e at hlow
  have hpos : (0 : ℚ) < 2 ^ e := by positivity
  rcases le_or_gt e q with he | he
  · rw [eq_mul_of_exponent_le he] at h ⊢
    exact mul_le_mul_of_nonneg_right (by exact_mod_cast le_mantissaAt h) hpos.le
  · have hlow := hlow.resolve_right (by omega)
    have hmantissa : (2 ^ 52 : ℚ) ≤ mantissaAt n e := by
      refine le_trans (by norm_num) (Nat.cast_le.mpr (le_mantissaAt (k := 2 ^ 52) ?_))
      rw [Nat.cast_pow, Nat.cast_ofNat, two_pow_mul_zpow]
      exact hlow
    calc (m : ℚ) * 2 ^ q ≤ 2 ^ (e + 52) := le_of_exponent_lt hm he
      _ = 2 ^ 52 * 2 ^ e := (two_pow_mul_zpow 52 e).symm
      _ ≤ mantissaAt n e * 2 ^ e := mul_le_mul_of_nonneg_right hmantissa hpos.le

/-- A natural that a double cannot hold exactly has no fraction after rounding either. -/
theorem exists_rounded_eq (n : Nat) : ∃ k : Nat, rounded n = k := by
  by_cases he : exponentFor n 1 < 0
  · -- With a negative exponent the number is below `2 ^ 53`, and a double.
    obtain ⟨-, hlt, -⟩ := exponentFor_bounds n
    have hle : n ≤ 2 ^ 53 := by
      have hlt : (n : ℚ) < 2 ^ (53 : ℤ) := hlt.trans_le (zpow_le_zpow_right₀ one_le_two (by omega))
      exact_mod_cast hlt.le
    have hdouble : IsDouble n := ⟨n, 0, by omega, hle, by rw [zpow_zero, mul_one]⟩
    exact ⟨n, le_antisymm (rounded_le hdouble le_rfl) (le_rounded hdouble le_rfl)⟩
  · refine ⟨mantissaAt n (exponentFor n 1) * 2 ^ (exponentFor n 1).toNat, ?_⟩
    rw [rounded, two_zpow_of_nonneg (Int.not_lt.mp he), Nat.cast_mul]

/-! ## The double nearest to an integer -/

/-- The mantissa that a natural is rounded to at its exponent has 53 bits, or is the next power of two, or the exponent is
the least one. -/
theorem mantissaAt_exponentFor_bounds (n : Nat) :
    mantissaAt n (exponentFor n 1) ≤ 2 ^ 53 ∧
      (2 ^ 52 ≤ mantissaAt n (exponentFor n 1) ∨ exponentFor n 1 = -1074) := by
  obtain ⟨-, hhigh, hlow⟩ := exponentFor_bounds n
  refine ⟨mantissaAt_le ?_, hlow.imp_left fun hlow => le_mantissaAt ?_⟩
  · rw [Nat.cast_pow, Nat.cast_ofNat, two_pow_mul_zpow]
    exact hhigh.le
  · rw [Nat.cast_pow, Nat.cast_ofNat, two_pow_mul_zpow]
    exact hlow

/-- The bits of a mantissa and an exponent stand for their number, also if the mantissa has grown to the next power of two. -/
theorem value?_ofMagnitude (negative : Bool) {m : Nat} {e : Int} (he : -1074 ≤ e) (hm : m ≤ 2 ^ 53)
    (hnormal : 2 ^ 52 ≤ m ∨ e = -1074) (hfinite : (e + 1074).toNat * 2 ^ 52 + m < infinityBits) :
    value? (ofMagnitude negative ((e + 1074).toNat * 2 ^ 52 + m)) =
      some (if negative then -((m : ℚ) * 2 ^ e) else m * 2 ^ e) := by
  obtain ⟨m', q, hparts, ⟨hq, hm', hnormal'⟩, -, hbits⟩ := exists_partsOfBits hfinite negative
  have hvalue : (m' : ℚ) * 2 ^ q = m * 2 ^ e := by
    rcases Nat.lt_or_eq_of_le hm with hlt | rfl
    · obtain ⟨rfl, rfl⟩ : q = e ∧ m' = m := by omega
      rfl
    · obtain ⟨rfl, rfl⟩ : q = e + 1 ∧ m' = 2 ^ 52 := by omega
      rw [zpow_add₀ two_ne_zero]
      push_cast
      ring
  rw [value?, parts_ofMagnitude_of_sign negative hfinite.le, hparts, Parts.value?, hvalue]

/-- The double nearest to an integer, as a number. -/
def nearest (z : Int) : ℚ :=
  if z < 0 then -rounded z.natAbs else rounded z.natAbs

/-- The nearest double of an integer of 64 bits is finite. -/
theorem value?_ofInt {z : Int} (h : z.natAbs < 2 ^ 64) : value? (ofInt z) = some (nearest z) := by
  obtain ⟨hleast, -, hlow⟩ := exponentFor_bounds z.natAbs
  obtain ⟨hm, hnormal⟩ := mantissaAt_exponentFor_bounds z.natAbs
  have hexponent : exponentFor z.natAbs 1 < 12 := by
    rcases hlow with hlow | heq
    · have hlt : (2 : ℚ) ^ (exponentFor z.natAbs 1 + 52) < 2 ^ (64 : ℤ) := by
        refine hlow.trans_lt ?_
        exact_mod_cast h
      have := (zpow_lt_zpow_iff_right₀ (one_lt_two : (1 : ℚ) < 2)).mp hlt
      omega
    · omega
  have hfinite : (exponentFor z.natAbs 1 + 1074).toNat * 2 ^ 52 + mantissaAt z.natAbs (exponentFor z.natAbs 1) <
      infinityBits := by
    unfold infinityBits
    omega
  have hbits : nearestBits z.natAbs 1 = (exponentFor z.natAbs 1 + 1074).toNat * 2 ^ 52 +
      mantissaAt z.natAbs (exponentFor z.natAbs 1) := Nat.min_eq_right hfinite.le
  rw [ofInt, ofRatio, hbits, value?_ofMagnitude _ hleast hm hnormal hfinite, nearest, rounded]
  simp only [decide_eq_true_eq]

/-- A natural number is not rounded below zero. -/
theorem rounded_nonneg (n : Nat) : 0 ≤ rounded n := by
  unfold rounded
  positivity

/-- The nearest double of an integer does not pass a double above it. -/
theorem nearest_le {z : Int} {x : ℚ} (hx : IsDouble |x|) (h : (z : ℚ) ≤ x) : nearest z ≤ x := by
  have habs : (z.natAbs : ℚ) = |(z : ℚ)| := (Nat.cast_natAbs z).trans Int.cast_abs
  unfold nearest
  split
  · rename_i hz
    have hz : (z : ℚ) < 0 := by exact_mod_cast hz
    rcases le_total 0 x with hpos | hneg
    · exact (neg_nonpos.mpr (rounded_nonneg _)).trans hpos
    · rw [abs_of_nonpos hneg] at hx
      rw [neg_le]
      refine le_rounded hx ?_
      rw [habs, abs_of_neg hz]
      exact neg_le_neg h
  · rename_i hz
    have hz : (0 : ℚ) ≤ z := by exact_mod_cast Int.not_lt.mp hz
    rw [abs_of_nonneg (hz.trans h)] at hx
    refine rounded_le hx ?_
    rwa [habs, abs_of_nonneg hz]

/-- The nearest double of the opposite integer is opposite. -/
theorem nearest_neg (z : Int) : nearest (-z) = -nearest z := by
  unfold nearest
  rw [Int.natAbs_neg]
  rcases lt_trichotomy z 0 with hz | rfl | hz
  · rw [if_neg (by omega), if_pos hz, neg_neg]
  · have hzero : rounded 0 = 0 := le_antisymm (rounded_le ⟨0, 0, by omega, by omega, by simp⟩ (by simp)) (rounded_nonneg 0)
    simp [hzero]
  · rw [if_pos (by omega), if_neg (by omega)]

/-- The nearest double of an integer does not pass a double below it. -/
theorem le_nearest {z : Int} {x : ℚ} (hx : IsDouble |x|) (h : x ≤ z) : x ≤ nearest z := by
  rw [← neg_le_neg_iff, ← nearest_neg]
  refine nearest_le (by rwa [abs_neg]) ?_
  rw [Int.cast_neg]
  exact neg_le_neg h

/-- The double nearest to an integer is a whole number. -/
theorem exists_nearest_eq (z : Int) : ∃ k : Int, nearest z = k := by
  obtain ⟨k, hk⟩ := exists_rounded_eq z.natAbs
  unfold nearest
  rw [hk]
  split
  · exact ⟨-k, by rw [Int.cast_neg, Int.cast_natCast]⟩
  · exact ⟨k, by rw [Int.cast_natCast]⟩

/-! ## Whole parts are doubles -/

/-- The mantissa of a finite double has at most 53 bits, and its exponent is not below the least. -/
theorem bounds_of_partsOfBits {negative s : Bool} {bits m : Nat} {q : Int}
    (h : partsOfBits negative bits = .finite s m q) : -1074 ≤ q ∧ m < 2 ^ 53 := by
  have hlt : bits % 2 ^ 52 < 2 ^ 52 := Nat.mod_lt _ (by decide)
  simp only [partsOfBits] at h
  split at h
  · split at h <;> cases h
  · split at h
    · cases h
      omega
    · cases h
      omega

/-- A double without its fraction is a double. -/
theorem isDouble_towardsZero {x : Float} {v : ℚ} (h : value? x = some v) : IsDouble |(towardsZero v : ℚ)| := by
  unfold value? at h
  cases hparts : parts x with
  | nan => rw [hparts] at h; cases h
  | infinite negative => rw [hparts] at h; cases h
  | finite negative m q =>
    obtain ⟨hq, hm⟩ := bounds_of_partsOfBits hparts
    have habs : |towardsZero v| = ((wholePart m q).1 : Int) := by
      rw [hparts, Parts.value?, Option.some.injEq] at h
      rw [← h, towardsZero_finite]
      cases negative with
      | false => exact Nat.abs_cast _
      | true => exact (abs_neg _).trans (Nat.abs_cast _)
    rw [← Int.cast_abs, habs, Int.cast_natCast]
    unfold wholePart
    split
    · exact ⟨m / 2 ^ (-q).toNat, 0, by omega, (Nat.div_le_self _ _).trans hm.le, by rw [zpow_zero, mul_one]⟩
    · rename_i hpos
      refine ⟨m, q, hq, hm.le, ?_⟩
      rw [two_zpow_of_nonneg (Int.not_lt.mp hpos), Nat.cast_mul]

end Number

end ConditionLang
