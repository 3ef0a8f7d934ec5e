import ConditionLang.Proofs.Numerals

/-!
# Texts of numbers

The text of a finite number without a sign is a literal, and it is read as that number (`read?_text`). Whether the decimal was
found among the short ones or is the exact one, it stands for the number; writing it in positional notation drops or adds
zeros at its end, and that makes no difference, because the double nearest to a quotient is found from the value of the
quotient alone (`nearestBits_mul_right`).
-/

namespace ConditionLang

namespace Number

open Lexeme (decimal IsNumeral)

/-! ## Quotients with a common factor -/

/-- A common factor does not change how a quotient is rounded. -/
theorem roundHalfEven_mul_right {num den c : Nat} (hc : 0 < c) :
    roundHalfEven (num * c) (den * c) = roundHalfEven num den := by
  have hquotient : num * c / (den * c) = num / den := Nat.mul_div_mul_right num den hc
  have hremainder : num * c % (den * c) = num % den * c := Nat.mul_mod_mul_right c num den
  have htwice : 2 * (num % den * c) = 2 * (num % den) * c := (Nat.mul_assoc _ _ _).symm
  simp only [roundHalfEven, hquotient, hremainder, htwice, Nat.mul_lt_mul_right hc]

/-- An exponent that leaves at least 53 bits is at most one that leaves no more. -/
theorem exponent_le_of_bounds {num den : ℚ} {a b : ℤ} (hden : 0 < den) (hlow : den * 2 ^ (a + 52) ≤ num)
    (hhigh : num < den * 2 ^ (b + 53)) : a ≤ b := by
  have hpow : (2 : ℚ) ^ (a + 52) < 2 ^ (b + 53) := lt_of_mul_lt_mul_left (hlow.trans_lt hhigh) hden.le
  have hexp := (zpow_lt_zpow_iff_right₀ (one_lt_two : (1 : ℚ) < 2)).mp hpow
  omega

/-- A common factor does not change where the mantissa of a quotient has 53 bits. -/
theorem exponentAt_mul_right {num den c : Nat} (hnum : num ≠ 0) (hden : den ≠ 0) (hc : 0 < c) :
    exponentAt (num * c) (den * c) = exponentAt num den := by
  have hdpos : (0 : ℚ) < den := by exact_mod_cast Nat.pos_of_ne_zero hden
  have hcpos : (0 : ℚ) < c := by exact_mod_cast hc
  obtain ⟨hlow, hhigh⟩ := exponentAt_bounds hnum hden
  obtain ⟨hlow', hhigh'⟩ := exponentAt_bounds (Nat.mul_ne_zero hnum hc.ne') (Nat.mul_ne_zero hden hc.ne')
  rw [Nat.cast_mul, Nat.cast_mul, mul_right_comm] at hlow' hhigh'
  have hlow' := le_of_mul_le_mul_right hlow' hcpos
  have hhigh' := lt_of_mul_lt_mul_right hhigh' hcpos.le
  exact le_antisymm (exponent_le_of_bounds hdpos hlow' hhigh) (exponent_le_of_bounds hdpos hlow hhigh')

/-- A common factor does not change the exponent of the nearest double. -/
theorem exponentFor_mul_right {num den c : Nat} (hden : den ≠ 0) (hc : 0 < c) :
    exponentFor (num * c) (den * c) = exponentFor num den := by
  by_cases hnum : num = 0
  · rw [hnum, Nat.zero_mul, exponentFor, exponentFor, if_pos rfl, if_pos rfl]
  · rw [exponentFor_eq_max (Nat.mul_ne_zero hnum hc.ne'), exponentFor_eq_max hnum, exponentAt_mul_right hnum hden hc]

/-- A common factor of numerator and denominator does not change the nearest double. -/
theorem nearestBits_mul_right {num den c : Nat} (hden : den ≠ 0) (hc : 0 < c) :
    nearestBits (num * c) (den * c) = nearestBits num den := by
  simp only [nearestBits, exponentFor_mul_right hden hc]
  split
  · rw [Nat.mul_right_comm, roundHalfEven_mul_right hc]
  · rw [Nat.mul_right_comm den, roundHalfEven_mul_right hc]

/-! ## Decimals with zeros at the end -/

/-- Ten times a number has a zero more. -/
theorem digits_mul_ten {d : Nat} (hd : 0 < d) : digits (d * 10) = digits d ++ ['0'] := by
  have hdigits := Nat.toDigits_append_toDigits (b := 10) (n := d) (d := 0) (by decide) hd (by decide)
  rw [Nat.add_zero, Nat.mul_comm] at hdigits
  exact hdigits.symm

/-- A power of ten lengthens a number by its zeros. -/
theorem length_digits_mul_ten_pow {d : Nat} (hd : 0 < d) (k : Nat) :
    (digits (d * 10 ^ k)).length = (digits d).length + k := by
  induction k with
  | zero => rw [Nat.pow_zero, Nat.mul_one, Nat.add_zero]
  | succ k ih =>
    rw [Nat.pow_succ, ← Nat.mul_assoc, digits_mul_ten (Nat.mul_pos hd (Nat.pow_pos (by decide))), List.length_append, ih]
    rfl

/-- Zeros at the end of a decimal do not change the double that it is read as. -/
theorem ofDecimal_mul_ten_pow (d k : Nat) (e : Int) : ofDecimal false (d * 10 ^ k) (e - k) = ofDecimal false d e := by
  rcases Nat.eq_zero_or_pos d with rfl | hd
  · rw [Nat.zero_mul]
    simp only [ofDecimal, true_or, if_true]
  have hten : ∀ n : Nat, 0 < 10 ^ n := fun n => Nat.pow_pos (by decide)
  have hzero : d * 10 ^ k ≠ 0 := (Nat.mul_pos hd (hten k)).ne'
  have hsize : ((digits (d * 10 ^ k)).length : Int) + (e - k) = (digits d).length + e := by
    rw [length_digits_mul_ten_pow hd]
    push_cast
    omega
  simp only [ofDecimal, hsize, hzero, hd.ne', false_or]
  refine if_congr Iff.rfl rfl (if_congr Iff.rfl rfl ?_)
  rcases lt_or_ge e 0 with hneg | hpos
  · -- Both are fractions, the one with more places.
    obtain ⟨n, rfl⟩ : ∃ n : Nat, e = -n := ⟨(-e).toNat, by omega⟩
    have hplaces : (-(-(n : Int) - k)).toNat = n + k := by omega
    rw [if_pos hneg, if_pos (by omega), hplaces, neg_neg, Int.toNat_natCast, Nat.pow_add]
    exact congrArg (ofMagnitude false) (nearestBits_mul_right (hten n).ne' (hten k))
  · obtain ⟨n, rfl⟩ := Int.eq_ofNat_of_zero_le hpos
    rw [if_neg (by omega : ¬(n : Int) < 0), Int.toNat_natCast]
    rcases lt_or_ge (n : Int) k with hlt | hge
    · -- A fraction whose places are all zero.
      have hplaces : (-((n : Int) - k)).toNat = k - n := by omega
      have hscaled : d * 10 ^ k = d * 10 ^ n * 10 ^ (k - n) := by
        rw [Nat.mul_assoc, ← Nat.pow_add, Nat.add_sub_cancel' (by omega)]
      rw [if_pos (by omega), hplaces, hscaled]
      have hsame : nearestBits (d * 10 ^ n * 10 ^ (k - n)) (1 * 10 ^ (k - n)) = nearestBits (d * 10 ^ n) 1 :=
        nearestBits_mul_right Nat.one_ne_zero (hten (k - n))
      rw [Nat.one_mul] at hsame
      exact congrArg (ofMagnitude false) hsame
    · have hplaces : ((n : Int) - k).toNat = n - k := by omega
      rw [if_neg (by omega), hplaces, Nat.mul_assoc, ← Nat.pow_add, Nat.add_sub_cancel' (by omega)]

/-! ## Positional notation -/

/-- Digits are those before their last zeros, and these zeros. -/
theorem exists_append_zeros (s : List Char) :
    ∃ k, s = (s.reverse.dropWhile (· == '0')).reverse ++ List.replicate k '0' := by
  have hzeros : s.reverse.takeWhile (· == '0') = List.replicate (s.reverse.takeWhile (· == '0')).length '0' :=
    List.eq_replicate_of_mem fun c hc => by simpa using List.all_eq_true.mp List.all_takeWhile c hc
  refine ⟨(s.reverse.takeWhile (· == '0')).length, ?_⟩
  rw [← List.reverse_replicate, ← hzeros, ← List.reverse_append, List.takeWhile_append_dropWhile, List.reverse_reverse]

/-- A decimal in positional notation is a literal that is read as the decimal. -/
theorem exists_positional_eq (d : Nat) (e : Int) :
    ∃ whole fraction, whole ≠ [] ∧ whole.all Char.isDigit = true ∧ fraction.all Char.isDigit = true ∧
      positional d e = decimal whole fraction ∧
      ofDecimal false (readDigits (whole ++ fraction)) (-(fraction.length : Int)) = ofDecimal false d e := by
  rcases lt_or_ge e 0 with hneg | hpos
  · obtain ⟨n, rfl⟩ : ∃ n : Nat, e = -n := ⟨(-e).toNat, by omega⟩
    have hn : n ≠ 0 := by omega
    let whole := digits (d / 10 ^ n)
    let fraction := ((lastDigits n d).reverse.dropWhile (· == '0')).reverse
    obtain ⟨k, hzeros⟩ := exists_append_zeros (lastDigits n d)
    have hfraction : fraction.all Char.isDigit = true := by
      have hall := all_isDigit_lastDigits n d
      rw [hzeros, List.all_append, Bool.and_eq_true] at hall
      exact hall.1
    have hlength : fraction.length + k = n := by
      have hlast := length_lastDigits n d
      rw [hzeros, List.length_append, List.length_replicate] at hlast
      exact hlast
    have hvalue : readDigits (whole ++ fraction) * 10 ^ k = d := by
      have hall : readDigits (whole ++ lastDigits n d) = d := by
        rw [readDigits_append, readDigits_digits, length_lastDigits, readDigits_lastDigits, Nat.div_add_mod']
      rw [hzeros, ← List.append_assoc, readDigits_append, readDigits_eq (List.replicate _ _),
        Nat.ofDigitChars_replicate_zero, Nat.mul_zero, Nat.add_zero, List.length_replicate] at hall
      exact hall
    refine ⟨whole, fraction, digits_ne_nil _, all_isDigit_digits _, hfraction, ?_, ?_⟩
    · have hpadded : List.replicate (n - (digits (d % 10 ^ n)).length) '0' ++ digits (d % 10 ^ n) = lastDigits n d :=
        (if_neg hn).symm
      simp only [positional, if_pos hneg, neg_neg, Int.toNat_natCast, hpadded]
      show whole ++ (if fraction.isEmpty then [] else '.' :: fraction) = decimal whole fraction
      unfold decimal
      split
      · exact List.append_nil whole
      · rfl
    · rw [← ofDecimal_mul_ten_pow _ k, hvalue]
      exact congrArg (ofDecimal false d) (by omega)
  · obtain ⟨n, rfl⟩ := Int.eq_ofNat_of_zero_le hpos
    refine ⟨digits (d * 10 ^ n), [], digits_ne_nil _, all_isDigit_digits _, rfl, ?_, ?_⟩
    · rw [positional, if_neg (by omega), Int.toNat_natCast]
      rfl
    · rw [List.append_nil, readDigits_digits, ← ofDecimal_mul_ten_pow d n]
      exact congrArg (ofDecimal false _) (by simp)

/-- A decimal in positional notation is read as the decimal. -/
theorem read?_positional (d : Nat) (e : Int) : read? (positional d e) = some (ofDecimal false d e) := by
  obtain ⟨whole, fraction, hne, hwhole, hfraction, htext, hvalue⟩ := exists_positional_eq d e
  rw [htext, read?_decimal hne hwhole hfraction, hvalue]

/-! ## The shortest decimal -/

/-- The digits of a short decimal are accepted only if it reads back. -/
theorem beq_of_withDigits? {x : Float} {d n d' : Nat} {e e' : Int} (h : withDigits? x d e n = some (d', e')) :
    (ofDecimal false d' e' == x) = true := by
  unfold withDigits? at h
  extract_lets _ place _ _ readsBack near far at h
  split at h
  · rename_i hnear
    obtain ⟨hd, he⟩ := Prod.mk.inj (Option.some.inj h)
    rw [← hd, ← he]
    exact hnear
  · split at h
    · rename_i hfar
      obtain ⟨hd, he⟩ := Prod.mk.inj (Option.some.inj h)
      rw [← hd, ← he]
      exact hfar
    · cases h

/-- A mantissa and an exponent are scaled to the double that they are parts of. -/
theorem ofScaled_of_isNormal {m : Nat} {q : Int} (h : IsNormal m q) (hq : q ≤ 971) :
    ofScaled false m q = ofMagnitude false ((q + 1074).toNat * 2 ^ 52 + m) := by
  unfold ofScaled
  split
  · rename_i hneg
    refine ofRatio_of_isNormal (Nat.two_pow_pos _).ne' h hq ?_
    have hpow : ((2 ^ (-q).toNat : Nat) : ℚ) = 2 ^ (-q) := (two_zpow_of_nonneg (by omega)).symm
    rw [hpow, mul_assoc, ← zpow_add₀ two_ne_zero, add_neg_cancel, zpow_zero, mul_one]
  · rename_i hpos
    refine ofRatio_of_isNormal Nat.one_ne_zero h hq ?_
    have hpow : ((2 ^ q.toNat : Nat) : ℚ) = 2 ^ q := (two_zpow_of_nonneg (Int.not_lt.mp hpos)).symm
    rw [Nat.cast_mul, hpow, Nat.cast_one, mul_one]

/-- The shortest decimal of a double is read as that double. -/
theorem ofDecimal_shortest {m : Nat} {q : Int} (h : IsNormal m q) (hq : q ≤ 971) :
    ofDecimal false (shortest m q).1 (shortest m q).2 = ofMagnitude false ((q + 1074).toNat * 2 ^ 52 + m) := by
  have hle : (q + 1074).toNat * 2 ^ 52 + m ≤ infinityBits := by
    obtain ⟨hleast, hlt, -⟩ := h
    unfold infinityBits
    omega
  simp only [shortest]
  cases hfound : (List.range 17).findSome? fun n =>
      withDigits? (ofScaled false m q) (exactDecimal m q).1 (exactDecimal m q).2 (n + 1) with
  | none => exact ofDecimal_exactDecimal h hq
  | some short =>
    obtain ⟨n, -, hshort⟩ := List.exists_of_findSome?_eq_some hfound
    have hbeq := beq_of_withDigits? hshort
    rw [ofScaled_of_isNormal h hq] at hbeq
    exact eq_of_beq (isUnsigned_iff.mpr (ofDecimal_eq_ofMagnitude _ _)) (isUnsigned_iff.mpr ⟨_, hle, rfl⟩) hbeq

/-- A finite double without a sign is packed from its mantissa and its exponent. -/
theorem parts_of_isFinite {x : Float} (h : IsUnsigned x) (hfinite : x.isInf = false) :
    ∃ m q, parts x = .finite false m q ∧ IsNormal m q ∧ q ≤ 971 ∧
      x = ofMagnitude false ((q + 1074).toNat * 2 ^ 52 + m) := by
  obtain ⟨bits, hle, rfl⟩ := isUnsigned_iff.mp h
  have hlt : bits < infinityBits := by
    refine Nat.lt_of_le_of_ne hle ?_
    rintro rfl
    have hinf : (ofMagnitude false infinityBits).isInf = true := by decide
    rw [hinf] at hfinite
    cases hfinite
  obtain ⟨m, q, hparts, hnormal, hq, hbits⟩ := exists_partsOfBits hlt false
  exact ⟨m, q, (parts_ofMagnitude hle).trans hparts, hnormal, hq, by rw [hbits]⟩

/-- The text of a finite number without a sign is a literal that is read as the number. -/
theorem read?_text {x : Float} (h : IsUnsigned x) (hfinite : x.isInf = false) :
    IsNumeral (text x).toList ∧ read? (text x).toList = some x := by
  obtain ⟨m, q, hparts, hnormal, hq, hx⟩ := parts_of_isFinite h hfinite
  have htext : (text x).toList = positional (shortest m q).1 (shortest m q).2 := by
    simp only [text, hparts]
    exact String.toList_ofList
  rw [htext]
  refine ⟨?_, ?_⟩
  · obtain ⟨whole, fraction, hne, hwhole, hfraction, heq, -⟩ := exists_positional_eq (shortest m q).1 (shortest m q).2
    exact ⟨whole, fraction, hne, hwhole, hfraction, heq⟩
  · rw [read?_positional, ofDecimal_shortest hnormal hq, ← hx]

end Number

end ConditionLang
