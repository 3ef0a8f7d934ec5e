import ConditionLang.Proofs.Bindings
import ConditionLang.Proofs.WholeNumbers

/-!
# Random integers between two bounds

The bounds of a random integer lose their fractions and are brought into the range of 64 bits before they are compared and an
integer between them is drawn. The integer is turned into a double, and this stays between the bounds, because they are doubles
themselves (`drawn_between`). For bounds beyond the range it does so only as far as the ends of the range go, of which the upper
one is rounded up to `2 ^ 63`. So two bounds beyond the same end cannot be told apart: their order does not matter, and no
number that is drawn lies between them unless they reach back to the end (`random_integer_between_iff`).
-/

namespace ConditionLang

namespace Number

/-! ## The range of 64 bits -/

/-- An integer brought between the doubles at the ends of the range of 64 bits. -/
def limitInt64 (z : Int) : Int :=
  max (-2 ^ 63) (min (2 ^ 63) z)

/-- An integer is brought into the range of 64 bits from both sides. -/
theorem clampInt64_eq (z : Int) : clampInt64 z = max (-2 ^ 63) (min (2 ^ 63 - 1) z) := rfl

/-- The bound that an integer is brought to is a double if the integer is. -/
theorem isDouble_abs_limitInt64 {z : Int} (h : IsDouble |(z : ℚ)|) : IsDouble |(limitInt64 z : ℚ)| := by
  have hend : IsDouble ((2 ^ 63 : Int) : ℚ) := ⟨1, 63, by omega, by omega, by norm_num⟩
  unfold limitInt64
  rcases le_total z (-2 ^ 63) with hlow | hlow
  · rwa [min_eq_right (by omega), max_eq_left hlow, Int.cast_neg, abs_neg, abs_of_nonneg (by positivity)]
  · rcases le_total z (2 ^ 63) with hhigh | hhigh
    · rwa [min_eq_right hhigh, max_eq_right hlow]
    · rwa [min_eq_left hhigh, max_eq_right (by omega), abs_of_nonneg (by positivity)]

/-- The greatest integer of the range is no double and is rounded up. -/
theorem nearest_maxInt64 : nearest (2 ^ 63 - 1) = 2 ^ 63 := by
  have hexponent : exponentFor (2 ^ 63 - 1) 1 = 10 := by decide
  have hmantissa : mantissaAt (2 ^ 63 - 1) 10 = 2 ^ 53 := by decide
  rw [nearest, if_neg (by decide)]
  show rounded (2 ^ 63 - 1) = 2 ^ 63
  rw [rounded, hexponent, hmantissa]
  norm_num

/-- The greatest integer of 64 bits is no double. -/
theorem ne_maxInt64_of_isDouble {z : Int} (h : IsDouble |(z : ℚ)|) : z ≠ 2 ^ 63 - 1 := by
  rintro rfl
  have heq : nearest (2 ^ 63 - 1) = ((2 ^ 63 - 1 : Int) : ℚ) := le_antisymm (nearest_le h le_rfl) (le_nearest h le_rfl)
  rw [nearest_maxInt64] at heq
  norm_num at heq

/-- What is drawn between two doubles in the range of 64 bits is a double between them, as far as they are in that range. -/
theorem drawn_between {first last n k : Int} (hfirst : IsDouble |(first : ℚ)|) (hlast : IsDouble |(last : ℚ)|)
    (hlow : clampInt64 first ≤ n) (hhigh : n ≤ clampInt64 last) (hk : nearest n = k) :
    limitInt64 first ≤ k ∧ k ≤ limitInt64 last := by
  rw [clampInt64_eq] at hlow hhigh
  constructor
  · by_cases hbeyond : 2 ^ 63 ≤ first
    · obtain rfl : n = 2 ^ 63 - 1 := by omega
      rw [nearest_maxInt64] at hk
      have hk : k = 2 ^ 63 := by exact_mod_cast hk.symm
      unfold limitInt64
      omega
    · have hle : limitInt64 first ≤ n := by
        unfold limitInt64
        omega
      have hle : (limitInt64 first : ℚ) ≤ n := by exact_mod_cast hle
      have hround := le_nearest (isDouble_abs_limitInt64 hfirst) hle
      rw [hk] at hround
      exact_mod_cast hround
  · have hle : n ≤ limitInt64 last := by
      unfold limitInt64
      omega
    have hle : (n : ℚ) ≤ limitInt64 last := by exact_mod_cast hle
    have hround := nearest_le (isDouble_abs_limitInt64 hlast) hle
    rw [hk] at hround
    exact_mod_cast hround

end Number

/-! ## Draws -/

open Number (value? towardsZero clampInt64 limitInt64)

variable {a b : Float} {x y : ℚ}

/-- A finite number is cut to its integer and brought into the range of 64 bits. -/
theorem Builtin.integerOf_number {b : Builtin} (h : value? a = some x) :
    integerOf b (.number a) = .ok (clampInt64 (towardsZero x)) := by
  rw [integerOf, Number.truncate?_eq, h]
  rfl

/-- An integer is drawn from the range between two integers, and none if it is empty. -/
theorem Builtin.integerBetween_number (ha : value? a = some x) (hb : value? b = some y) :
    integerBetween (.number a) (.number b) =
      if clampInt64 (towardsZero y) < clampInt64 (towardsZero x) then
        .error (.fault randomInt (.emptyRange (clampInt64 (towardsZero x)) (clampInt64 (towardsZero y))))
      else .ok (.choice (clampInt64 (towardsZero y) - clampInt64 (towardsZero x) + 1).toNat
        fun n => .number (Number.ofInt (clampInt64 (towardsZero x) + n))) := by
  rw [integerBetween, integerOf_number ha, integerOf_number hb]
  by_cases h : clampInt64 (towardsZero y) < clampInt64 (towardsZero x)
  · rw [if_pos h]
    exact if_pos h
  · rw [if_neg h]
    exact if_neg h

namespace Expr

/-- A draw between two literals takes them as its bounds. -/
theorem evaluate_random_int (ctx : Context) : (call "random_int" [.number a, .number b]).evaluate ctx =
    (Evaluation.ofExcept (Builtin.integerBetween (.number a) (.number b)) >>= Evaluation.settle) ctx := by
  simp only [evaluate, evaluateItems]
  rfl

/-- The result is a failure if a range is empty, and otherwise a whole number from `low` to `high`. -/
def LiesBetween (isEmpty : Prop) (low high : Int) (result : Except EvalError Value) : Prop :=
  ((∃ e, result = .error e) ↔ isEmpty) ∧
    (¬isEmpty → ∃ r, ∃ z : Int, result = .ok (.number r) ∧ value? r = some (z : ℚ) ∧ low ≤ z ∧ z ≤ high)

/-- What lies between two bounds lies between wider ones. -/
theorem LiesBetween.mono {isEmpty isEmpty' : Prop} {low low' high high' : Int} {result : Except EvalError Value}
    (h : LiesBetween isEmpty low high result) (hempty : isEmpty ↔ isEmpty') (hlow : ¬isEmpty → low' ≤ low)
    (hhigh : ¬isEmpty → high ≤ high') : LiesBetween isEmpty' low' high' result := by
  refine ⟨h.1.trans hempty, fun hsome => ?_⟩
  rw [← hempty] at hsome
  obtain ⟨r, z, hresult, hz, hfrom, hto⟩ := h.2 hsome
  exact ⟨r, z, hresult, hz, (hlow hsome).trans hfrom, hto.trans (hhigh hsome)⟩

/-- A random integer is drawn between the bounds as far as they are in the range of 64 bits. -/
theorem liesBetween_limits (ha : value? a = some x) (hb : value? b = some y) (ctx : Context) :
    LiesBetween (clampInt64 (towardsZero y) < clampInt64 (towardsZero x)) (limitInt64 (towardsZero x))
      (limitInt64 (towardsZero y)) ((call "random_int" [.number a, .number b]).evaluate ctx).1 := by
  rw [evaluate_random_int, Builtin.integerBetween_number ha hb]
  have hfirst := Number.isDouble_towardsZero ha
  have hlast := Number.isDouble_towardsZero hb
  generalize towardsZero x = first at hfirst ⊢
  generalize towardsZero y = last at hlast ⊢
  by_cases hempty : clampInt64 last < clampInt64 first
  · rw [if_pos hempty]
    exact ⟨iff_of_true ⟨_, rfl⟩ hempty, fun hsome => absurd hempty hsome⟩
  · rw [if_neg hempty]
    have hn := ctx.draws.draw_lt (show 0 < (clampInt64 last - clampInt64 first + 1).toNat by omega)
    show LiesBetween _ _ _ (.ok (.number (Number.ofInt (clampInt64 first + (ctx.draws.draw _).1))))
    generalize (ctx.draws.draw (clampInt64 last - clampInt64 first + 1).toNat).1 = n at hn ⊢
    have hrange : (clampInt64 first + n).natAbs < 2 ^ 64 := by
      have hlow := Number.clampInt64_eq first
      have hhigh := Number.clampInt64_eq last
      omega
    obtain ⟨z, hz⟩ := Number.exists_nearest_eq (clampInt64 first + n)
    refine ⟨iff_of_false ?_ hempty, fun _ => ⟨_, z, rfl, ?_, ?_⟩⟩
    · rintro ⟨e, he⟩
      cases he
    · rw [Number.value?_ofInt hrange, hz]
    · exact Number.drawn_between hfirst hlast (by omega) (by omega) hz

/-- A random integer between two finite bounds, each without its fraction, fails if and only if they are in the wrong order, and
is always a whole number between them otherwise, exactly if bounds in the right order reach back to the range of 64 bits and
bounds in the wrong order are not beyond the same end of it. In every case the ends of the range stand for bounds beyond them. -/
theorem random_integer_between_iff (a b : Float) (x y : ℚ) (ha : value? a = some x) (hb : value? b = some y) :
    let first := towardsZero x
    let last := towardsZero y
    let result := fun ctx => ((call "random_int" [.number a, .number b]).evaluate ctx).1
    ((∀ ctx, LiesBetween (last < first) first last (result ctx)) ↔
      (first ≤ last → first ≤ 2 ^ 63 ∧ -2 ^ 63 ≤ last) ∧ (last < first → last < 2 ^ 63 ∧ -2 ^ 63 < first)) ∧
    ∀ ctx, LiesBetween (clampInt64 last < clampInt64 first) (limitInt64 first) (limitInt64 last) (result ctx) := by
  intro first last result
  have hlimits : ∀ ctx, LiesBetween (clampInt64 last < clampInt64 first) (limitInt64 first) (limitInt64 last)
      (result ctx) := liesBetween_limits ha hb
  have hlast : last ≠ 2 ^ 63 - 1 := Number.ne_maxInt64_of_isDouble (Number.isDouble_towardsZero hb)
  have hclamp := Number.clampInt64_eq first
  have hclamp' := Number.clampInt64_eq last
  have hlimit : limitInt64 first = max (-2 ^ 63) (min (2 ^ 63) first) := rfl
  have hlimit' : limitInt64 last = max (-2 ^ 63) (min (2 ^ 63) last) := rfl
  refine ⟨⟨fun h => ?_, fun hbounds ctx => ?_⟩, hlimits⟩
  · have hclaim := h default
    have hlimits := hlimits default
    -- Both agree on failures, so on which bounds are in the wrong order.
    have horder : last < first ↔ clampInt64 last < clampInt64 first := hclaim.1.symm.trans hlimits.1
    refine ⟨fun hle => ?_, fun hlt => ?_⟩
    · obtain ⟨r, z, hr, hz, hfrom, hto⟩ := hclaim.2 (by omega)
      obtain ⟨r', z', hr', hz', hfrom', hto'⟩ := hlimits.2 (by omega)
      obtain rfl : r = r' := by
        have heq := hr.symm.trans hr'
        cases heq
        rfl
      obtain rfl : z = z' := by
        have heq := hz.symm.trans hz'
        exact_mod_cast Option.some.inj heq
      omega
    · have := horder.mp hlt
      omega
  · exact (hlimits ctx).mono (by omega) (by omega) (by omega)

/-- The number 1e19 is a double. -/
theorem value?_tenQuintillion : value? 1e19 = some (10 ^ 19) := by
  have hparts : Number.parts 1e19 = .finite false 4882812500000000 11 := by decide
  rw [value?, hparts, Number.Parts.value?]
  norm_num

/-- The number 1e19 is whole. -/
theorem towardsZero_tenQuintillion : towardsZero (10 ^ 19) = 10 ^ 19 := by
  rw [towardsZero, if_pos (by positivity), Int.floor_eq_iff]
  norm_num

/-- A bound with a fraction and one beyond the range. -/
theorem random_integer_between_iff_of_wide_range :
    value? (-2.75) = some (-11 / 4) ∧ value? 1e19 = some (10 ^ 19) ∧
      ∀ ctx, LiesBetween False (-2) (10 ^ 19) ((call "random_int" [.number (-2.75), .number 1e19]).evaluate ctx).1 := by
  have hparts : Number.parts (-2.75) = .finite true 6192449487634432 (-51) := by decide
  have ha : value? (-2.75) = some (-11 / 4) := by
    rw [value?, hparts, Number.Parts.value?]
    norm_num
  have hfirst : towardsZero (-11 / 4) = -2 := by
    rw [towardsZero, if_neg (by norm_num), Int.ceil_eq_iff]
    norm_num
  have hbetween := (random_integer_between_iff (-2.75) 1e19 _ _ ha value?_tenQuintillion).1.mpr (by
    rw [hfirst, towardsZero_tenQuintillion]
    decide)
  rw [hfirst, towardsZero_tenQuintillion] at hbetween
  exact ⟨ha, value?_tenQuintillion, fun ctx => (hbetween ctx).mono (by decide) (fun _ => le_rfl) fun _ => le_rfl⟩

/-- A random integer between a number and itself that is another number, and one between bounds in the wrong order. -/
theorem random_integer_beyond_range :
    let ctx := Context.ofRequest 1 (.ofTarget "GET" "/") (.seeded 1)
    value? 1e19 = some (10 ^ 19) ∧ value? 1.5e19 = some (15 * 10 ^ 18) ∧
      (∃ r, ((call "random_int" [.number 1e19, .number 1e19]).evaluate ctx).1 = .ok (.number r) ∧
        value? r = some (2 ^ 63)) ∧
      ¬∃ e, ((call "random_int" [.number 1.5e19, .number 1e19]).evaluate ctx).1 = .error e := by
  intro ctx
  have hparts : Number.parts 1.5e19 = .finite false 7324218750000000 11 := by decide
  have hlarger : value? 1.5e19 = some (15 * 10 ^ 18) := by
    rw [value?, hparts, Number.Parts.value?]
    norm_num
  have hwhole : towardsZero (15 * 10 ^ 18) = 15 * 10 ^ 18 := by
    rw [towardsZero, if_pos (by positivity), Int.floor_eq_iff]
    norm_num
  have hsame := liesBetween_limits value?_tenQuintillion value?_tenQuintillion ctx
  have hwrong := liesBetween_limits hlarger value?_tenQuintillion ctx
  rw [towardsZero_tenQuintillion] at hsame hwrong
  rw [hwhole] at hwrong
  refine ⟨value?_tenQuintillion, hlarger, ?_, fun herror => absurd (hwrong.1.mp herror) (by decide)⟩
  obtain ⟨r, z, hresult, hvalue, hfrom, hto⟩ := hsame.2 (lt_irrefl _)
  obtain rfl : z = 2 ^ 63 := by
    rw [show limitInt64 (10 ^ 19) = 2 ^ 63 from by decide] at hfrom hto
    exact le_antisymm hto hfrom
  exact ⟨r, hresult, by rw [hvalue]; norm_num⟩

end Expr

end ConditionLang
