import ConditionLang.Number.Decimal
import ConditionLang.Proofs.Rounding
import ConditionLang.Proofs.Tokens

/-!
# Numbers that literals spell

A literal is read as a number without a sign (`isUnsigned_of_read`), and every number without a sign is read from a literal
(`read?_literal`): a finite double from its exact decimal expansion, infinity from a decimal that is too large.
-/

namespace ConditionLang

namespace Number

open Lexeme (decimal IsNumeral)

/-! ## Reading literals -/

/-- A digit is its own small form. -/
theorem toLower_of_isDigit {c : Char} (h : c.isDigit = true) : c.toLower = c := by
  have hcode := Char.isDigit_iff_toNat.mp h
  have hnine : '9'.toNat = 57 := rfl
  rw [Char.toLower, dif_neg]
  intro hupper
  have hle : 'A'.val.toNat ≤ c.val.toNat := hupper.1
  have hA : 'A'.val.toNat = 65 := rfl
  have hval : c.toNat = c.val.toNat := rfl
  omega

/-- A text that starts with a digit is read as a decimal. -/
theorem read?_of_isDigit {c : Char} (h : c.isDigit = true) (s : List Char) :
    read? (c :: s) = readUnsigned? false (c :: s) := by
  have hsign : spanSign (c :: s) = (false, c :: s) := by
    unfold spanSign
    split
    · rename_i heq
      cases heq
      cases h
    · rename_i heq
      cases heq
      cases h
    · rfl
  have hword : ∀ (d : Char) (w : List Char), d.isDigit = false →
      String.ofList ((c :: s).map Char.toLower) ≠ String.ofList (d :: w) := by
    intro d w hd heq
    replace heq := String.ofList_injective heq
    rw [List.map_cons, toLower_of_isDigit h] at heq
    rw [← (List.cons.inj heq).1, h] at hd
    cases hd
  simp only [read?, hsign]
  rw [if_neg, if_neg]
  · exact hword 'n' ['a', 'n'] rfl
  · rintro (heq | heq)
    · exact hword 'i' ['n', 'f'] rfl heq
    · exact hword 'i' ['n', 'f', 'i', 'n', 'i', 't', 'y'] rfl heq

/-- The digits of a text end where another character comes. -/
theorem spanDigits_append {s rest : List Char} (hs : s.all Char.isDigit = true)
    (hrest : ∀ c ∈ rest.head?, c.isDigit = false) : spanDigits (s ++ rest) = (s, rest) := by
  rw [spanDigits, List.span_eq_takeWhile_dropWhile, Lexeme.takeWhile_append_of_stops hs hrest,
    Lexeme.dropWhile_append_of_stops hs hrest]

/-- A text of digits is all digits. -/
theorem spanDigits_self {s : List Char} (hs : s.all Char.isDigit = true) : spanDigits s = (s, []) := by
  have h : spanDigits (s ++ []) = (s, []) := spanDigits_append hs fun _ hc => nomatch hc
  rwa [List.append_nil] at h

/-- What a literal is read as. -/
theorem read?_decimal {whole fraction : List Char} (hne : whole ≠ []) (hwhole : whole.all Char.isDigit = true)
    (hfraction : fraction.all Char.isDigit = true) :
    read? (decimal whole fraction) =
      some (ofDecimal false (readDigits (whole ++ fraction)) (-(fraction.length : Int))) := by
  obtain ⟨c, s, rfl⟩ := List.exists_cons_of_ne_nil hne
  have hc := List.all_eq_true.mp hwhole c List.mem_cons_self
  unfold decimal
  split
  · rename_i hempty
    rw [List.isEmpty_iff] at hempty
    rw [read?_of_isDigit hc, readUnsigned?, spanDigits_self hwhole, hempty]
    rfl
  · rename_i hempty
    have hdot : ∀ d ∈ ('.' :: fraction).head?, d.isDigit = false := by
      rintro d ⟨⟩
      rfl
    rw [List.cons_append, read?_of_isDigit hc, ← List.cons_append, readUnsigned?, spanDigits_append hwhole hdot]
    simp only [spanDigits_self hfraction, List.isEmpty_cons, Bool.false_and, Bool.false_eq_true, if_false, readExponent?,
      Option.map_some, zero_sub]

/-- The bits of a number that was read are at most those of infinity. -/
theorem ofDecimal_eq_ofMagnitude (d : Nat) (e : Int) :
    ∃ bits ≤ infinityBits, ofDecimal false d e = ofMagnitude false bits := by
  simp only [ofDecimal]
  split
  · exact ⟨0, Nat.zero_le _, rfl⟩
  · split
    · exact ⟨infinityBits, le_refl _, rfl⟩
    · split
      · exact ⟨_, Nat.min_le_left _ _, rfl⟩
      · exact ⟨_, Nat.min_le_left _ _, rfl⟩

/-- A literal is read, as a number without a sign. -/
theorem exists_read?_of_isNumeral {s : List Char} (hs : IsNumeral s) : ∃ x, read? s = some x ∧ IsUnsigned x := by
  obtain ⟨whole, fraction, hne, hwhole, hfraction, rfl⟩ := hs
  exact ⟨_, read?_decimal hne hwhole hfraction, isUnsigned_iff.mpr (ofDecimal_eq_ofMagnitude _ _)⟩

/-- A numeral is read as a number without a sign. -/
theorem isUnsigned_of_read {s : List Char} {x : Float} (hs : IsNumeral s) (h : read? s = some x) : IsUnsigned x := by
  obtain ⟨y, hy, hunsigned⟩ := exists_read?_of_isNumeral hs
  rw [h] at hy
  exact Option.some.inj hy ▸ hunsigned

/-! ## Writing literals -/

/-- Digits are read as the number in base ten. -/
theorem readDigits_eq (s : List Char) : readDigits s = Nat.ofDigitChars 10 s 0 := by
  rw [Nat.ofDigitChars_eq_foldl]
  rfl

/-- Digits in front count for powers of ten. -/
theorem readDigits_append (s t : List Char) : readDigits (s ++ t) = readDigits s * 10 ^ t.length + readDigits t := by
  rw [readDigits_eq, readDigits_eq, readDigits_eq, Nat.ofDigitChars_append, Nat.ofDigitChars_eq_ofDigitChars_zero,
    Nat.mul_comm]

/-- The digits of a number are read as the number. -/
theorem readDigits_digits (n : Nat) : readDigits (digits n) = n := by
  rw [readDigits_eq]
  exact Nat.ofDigitChars_ten_toDigits

theorem digits_ne_nil (n : Nat) : digits n ≠ [] :=
  Nat.toDigits_ne_nil

theorem all_isDigit_digits (n : Nat) : (digits n).all Char.isDigit = true :=
  List.all_eq_true.mpr fun _ h => Nat.isDigit_of_mem_toDigits (by decide) (by decide) h

theorem all_isDigit_zeros (n : Nat) : (List.replicate n '0').all Char.isDigit = true := by
  rw [List.all_replicate]
  split
  · rfl
  · rfl

/-- The last `n` decimal digits of a natural. -/
def lastDigits (n d : Nat) : List Char :=
  if n = 0 then [] else List.replicate (n - (digits (d % 10 ^ n)).length) '0' ++ digits (d % 10 ^ n)

/-- The last digits of a number are as many as asked for. -/
theorem length_lastDigits (n d : Nat) : (lastDigits n d).length = n := by
  unfold lastDigits
  split
  · rename_i h
    exact h.symm
  · rename_i h
    have hle : (digits (d % 10 ^ n)).length ≤ n :=
      (Nat.length_toDigits_le_iff (by decide) (Nat.pos_of_ne_zero h)).mpr (Nat.mod_lt _ (Nat.pow_pos (by decide)))
    rw [List.length_append, List.length_replicate]
    omega

theorem all_isDigit_lastDigits (n d : Nat) : (lastDigits n d).all Char.isDigit = true := by
  unfold lastDigits
  split
  · rfl
  · rw [List.all_append, all_isDigit_digits, all_isDigit_zeros]
    rfl

/-- The last digits of a number are read as its remainder by a power of ten. -/
theorem readDigits_lastDigits (n d : Nat) : readDigits (lastDigits n d) = d % 10 ^ n := by
  unfold lastDigits
  split
  · rename_i h
    rw [h, Nat.pow_zero, Nat.mod_one]
    rfl
  · rw [readDigits_append, readDigits_digits, readDigits_eq, Nat.ofDigitChars_replicate_zero, Nat.mul_zero, Nat.zero_mul,
      Nat.zero_add]

/-- The literal of a number without a sign: all digits of a finite number, or a decimal that is too large. -/
def literal (x : Float) : List Char :=
  match parts x with
  | .finite _ m q =>
    let (d, e) := exactDecimal m q
    decimal (digits (d / 10 ^ (-e).toNat)) (lastDigits (-e).toNat d)
  | _ => '1' :: List.replicate 400 '0'

/-- The literal of a number is a numeral. -/
theorem isNumeral_literal (x : Float) : IsNumeral (literal x) := by
  unfold literal
  split
  · exact ⟨_, _, digits_ne_nil _, all_isDigit_digits _, all_isDigit_lastDigits _ _, rfl⟩
  · refine ⟨_, [], List.cons_ne_nil _ _, ?_, rfl, rfl⟩
    rw [List.all_cons, all_isDigit_zeros]
    rfl

/-- The exact decimal of a double has no positive exponent. -/
theorem exactDecimal_nonpos (m : Nat) (q : Int) : (exactDecimal m q).2 ≤ 0 := by
  unfold exactDecimal
  split
  · rename_i h
    exact h.le
  · exact le_refl _

/-- A number has at most so many digits if and only if it is below that power of ten. -/
theorem length_digits_le_iff {d n : Nat} (h : 0 < n) : (digits d).length ≤ n ↔ d < 10 ^ n :=
  Nat.length_toDigits_le_iff (by decide) h

/-- A power of ten has more digits than its exponent. -/
theorem not_length_digits_le {m n : Nat} (hm : 0 < m) (h : m ≤ n) : ¬(digits (10 ^ n)).length ≤ m := by
  rw [length_digits_le_iff hm, Nat.not_lt]
  exact Nat.pow_le_pow_right (by decide) h

/-- A decimal that is not far outside the range of doubles is rounded. -/
theorem ofDecimal_eq_ofRatio {d : Nat} {e : Int} (hd : d ≠ 0) (hlow : -330 ≤ (digits d).length + e)
    (hhigh : (digits d).length + e ≤ 310) :
    ofDecimal false d e = if e < 0 then ofRatio false d (10 ^ (-e).toNat) else ofRatio false (d * 10 ^ e.toNat) 1 := by
  simp only [ofDecimal]
  rw [if_neg (by omega), if_neg (by omega)]

/-- Powers with large exponents are compared in steps. -/
theorem two_pow_le_pow {a b c d e k m n : Nat} (hk : k ≤ a * m + b) (hn : n = d * m + e) (hstep : 2 ^ a ≤ c ^ d)
    (hrest : 2 ^ b ≤ c ^ e) : 2 ^ k ≤ c ^ n := by
  calc 2 ^ k ≤ 2 ^ (a * m + b) := Nat.pow_le_pow_right (by decide) hk
    _ = (2 ^ a) ^ m * 2 ^ b := by rw [Nat.pow_add, Nat.pow_mul]
    _ ≤ (c ^ d) ^ m * c ^ e := Nat.mul_le_mul (Nat.pow_le_pow_left hstep m) hrest
    _ = c ^ n := by rw [hn, Nat.pow_add, Nat.pow_mul]

/-- The powers of two that occur are below a power of five. -/
theorem two_pow_le_five_pow {k : Nat} (h : k ≤ 743) : 2 ^ k ≤ 5 ^ 331 :=
  two_pow_le_pow (a := 9) (b := 5) (d := 4) (e := 3) (m := 82) h rfl (by decide) (by decide)

/-- The powers of two that occur are below a power of ten. -/
theorem two_pow_le_ten_pow {k : Nat} (h : k ≤ 1024) : 2 ^ k ≤ 10 ^ 310 :=
  two_pow_le_pow (a := 93) (b := 1) (d := 28) (e := 2) (m := 11) h rfl (by decide) (by decide)

/-- The digits of a fraction in terms of the places after the point. -/
theorem length_digits_fraction {m n : Nat} (hm : m ≠ 0) (hlt : m < 2 ^ 53) (hn : n ≤ 1074) :
    n ≤ (digits (m * 5 ^ n)).length + 330 ∧ (digits (m * 5 ^ n)).length ≤ n + 310 := by
  constructor
  · by_contra hlength
    have hpos : 0 < (digits (m * 5 ^ n)).length := Nat.length_toDigits_pos
    -- The number would be below `10 ^ k`, but five to the power of 331 alone makes up for the missing twos.
    obtain ⟨k, rfl⟩ : ∃ k, n = k + 331 := ⟨n - 331, by omega⟩
    have hlt : m * 5 ^ (k + 331) < 10 ^ k := (length_digits_le_iff (by omega)).mp (by omega)
    have hge : 10 ^ k ≤ m * 5 ^ (k + 331) := by
      calc 10 ^ k = 2 ^ k * 5 ^ k := by rw [← Nat.mul_pow]
        _ ≤ 5 ^ 331 * 5 ^ k := Nat.mul_le_mul_right _ (two_pow_le_five_pow (by omega))
        _ = 5 ^ (k + 331) := by rw [Nat.pow_add, Nat.mul_comm]
        _ ≤ m * 5 ^ (k + 331) := Nat.le_mul_of_pos_left _ (Nat.pos_of_ne_zero hm)
    omega
  · rw [length_digits_le_iff (by omega)]
    calc m * 5 ^ n < 2 ^ 53 * 5 ^ n := Nat.mul_lt_mul_of_pos_right hlt (Nat.pow_pos (by decide))
      _ ≤ 10 ^ 310 * 10 ^ n := Nat.mul_le_mul (two_pow_le_ten_pow (by decide)) (Nat.pow_le_pow_left (by decide) n)
      _ = 10 ^ (n + 310) := by rw [Nat.pow_add, Nat.mul_comm]

/-- The digits of a number without a fraction. -/
theorem length_digits_whole {m k : Nat} (hlt : m < 2 ^ 53) (hk : k ≤ 971) : (digits (m * 2 ^ k)).length ≤ 310 := by
  rw [length_digits_le_iff (by decide)]
  calc m * 2 ^ k < 2 ^ 53 * 2 ^ k := Nat.mul_lt_mul_of_pos_right hlt (Nat.two_pow_pos k)
    _ = 2 ^ (53 + k) := by rw [Nat.pow_add]
    _ ≤ 10 ^ 310 := two_pow_le_ten_pow (by omega)

/-- A ratio that is a double is read as that double. -/
theorem ofRatio_of_isNormal {num den m : Nat} {q : Int} (hden : den ≠ 0) (h : IsNormal m q) (hq : q ≤ 971)
    (hvalue : (num : ℚ) = m * 2 ^ q * den) :
    ofRatio false num den = ofMagnitude false ((q + 1074).toNat * 2 ^ 52 + m) := by
  obtain ⟨hleast, hlt, -⟩ := id h
  rw [ofRatio, nearestBits_of_isNormal hden h hvalue, Nat.min_eq_right]
  unfold infinityBits
  omega

/-- The exact decimal of a double is read as that double. -/
theorem ofDecimal_exactDecimal {m : Nat} {q : Int} (h : IsNormal m q) (hq : q ≤ 971) :
    ofDecimal false (exactDecimal m q).1 (exactDecimal m q).2 = ofMagnitude false ((q + 1074).toNat * 2 ^ 52 + m) := by
  obtain ⟨hleast, hlt, hnormal⟩ := id h
  by_cases hm : m = 0
  · obtain rfl : q = -1074 := by omega
    rw [hm]
    simp only [exactDecimal, Nat.zero_mul]
    rfl
  rcases lt_or_ge q 0 with hneg | hpos
  · obtain ⟨n, rfl⟩ : ∃ n : Nat, q = -n := ⟨(-q).toNat, by omega⟩
    have hlengths := length_digits_fraction hm hlt (n := n) (by omega)
    have hne : m * 5 ^ n ≠ 0 := Nat.mul_ne_zero hm (Nat.pow_pos (by decide)).ne'
    have hexact : exactDecimal m (-n) = (m * 5 ^ n, -(n : Int)) := by
      rw [exactDecimal, if_pos hneg, neg_neg, Int.toNat_natCast]
    rw [hexact, ofDecimal_eq_ofRatio hne (by omega) (by omega), if_pos hneg, neg_neg, Int.toNat_natCast]
    refine ofRatio_of_isNormal (Nat.pow_pos (by decide)).ne' h hq ?_
    have hten : (10 : ℚ) ^ n = 2 ^ n * 5 ^ n := by
      rw [← mul_pow]
      norm_num
    rw [zpow_neg, zpow_natCast]
    push_cast
    rw [hten, ← mul_assoc, inv_mul_cancel_right₀ (pow_ne_zero n two_ne_zero)]
  · obtain ⟨n, rfl⟩ := Int.eq_ofNat_of_zero_le hpos
    have hlength := length_digits_whole hlt (k := n) (by omega)
    have hne : m * 2 ^ n ≠ 0 := Nat.mul_ne_zero hm (Nat.two_pow_pos _).ne'
    have hexact : exactDecimal m n = (m * 2 ^ n, 0) := by
      rw [exactDecimal, if_neg (by omega), Int.toNat_natCast]
    rw [hexact, ofDecimal_eq_ofRatio hne (by omega) (by omega), if_neg (lt_irrefl (0 : Int))]
    refine ofRatio_of_isNormal Nat.one_ne_zero h hq ?_
    rw [zpow_natCast]
    simp

/-- A one and more than 310 zeros are read as infinity. -/
theorem read?_one_zeros {n : Nat} (h : 310 < n) :
    read? ('1' :: List.replicate n '0') = some (ofMagnitude false infinityBits) := by
  have hdigits : ('1' :: List.replicate n '0').all Char.isDigit = true := by
    rw [List.all_cons, all_isDigit_zeros]
    rfl
  have hvalue : readDigits ('1' :: List.replicate n '0') = 10 ^ n := by
    rw [← List.singleton_append, readDigits_append, List.length_replicate, readDigits_eq (List.replicate _ _),
      Nat.ofDigitChars_replicate_zero, Nat.mul_zero, Nat.add_zero]
    exact Nat.one_mul _
  have hlength : ¬(digits (10 ^ n)).length ≤ 310 := not_length_digits_le (by decide) h.le
  have hpos : 10 ^ n ≠ 0 := (Nat.pow_pos (by decide)).ne'
  have hread := read?_decimal (List.cons_ne_nil _ _) hdigits (List.all_nil : ([] : List Char).all Char.isDigit = true)
  rw [List.append_nil, hvalue] at hread
  refine hread.trans (congrArg some ?_)
  simp only [ofDecimal, List.length_nil]
  rw [if_neg (by omega), if_pos (by omega)]

/-- Every number without a sign is read from its literal. -/
theorem read?_literal {x : Float} (h : IsUnsigned x) : read? (literal x) = some x := by
  obtain ⟨bits, hle, rfl⟩ := isUnsigned_iff.mp h
  rw [literal, parts_ofMagnitude hle]
  rcases Nat.lt_or_eq_of_le hle with hlt | rfl
  · obtain ⟨m, q, hparts, hnormal, hq, hbits⟩ := exists_partsOfBits hlt false
    simp only [hparts]
    rw [read?_decimal (digits_ne_nil _) (all_isDigit_digits _) (all_isDigit_lastDigits _ _), readDigits_append,
      readDigits_digits, length_lastDigits, readDigits_lastDigits, Nat.div_add_mod', Int.toNat_of_nonneg, neg_neg,
      ofDecimal_exactDecimal hnormal hq, hbits]
    exact neg_nonneg.mpr (exactDecimal_nonpos m q)
  · have hparts : partsOfBits false infinityBits = .infinite false := by decide
    rw [hparts]
    exact read?_one_zeros (by decide)

end Number

end ConditionLang
