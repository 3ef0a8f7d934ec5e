import ConditionLang.Proofs.Evaluation
import ConditionLang.Proofs.RandomIntegers

/-!
# Parts of a text between two positions

`substring` takes two numbers, drops their fractions and gives the characters from the first position up to but not including
the second. It does so exactly where the first is the position of a character and the second is not before it and at most the
length (`substring_is_slice`). That a number is brought into the range of 64 bits does not show: a position beyond the range
is behind the end of a text before it and after it. So a text that is cut at a position is its two parts joined, and a part of
a part is a part.
-/

namespace ConditionLang

/-! ## Slices -/

/-- The characters of `s` from the position `first` up to but not including `stop` are those of `t`. -/
structure Text.IsSlice (s t : List Char) (first stop : Nat) : Prop where
  ordered : first ≤ stop
  within : stop ≤ s.length
  length : t.length = stop - first
  char : ∀ k < stop - first, t[k]? = s[first + k]?

namespace Text.IsSlice

variable {s t u : List Char} {first mid stop first' stop' : Nat}

/-- Characters that are dropped and taken are a slice. -/
theorem take_drop (hordered : first ≤ stop) (hwithin : stop ≤ s.length) :
    IsSlice s ((s.drop first).take (stop - first)) first stop where
  ordered := hordered
  within := hwithin
  length := by
    rw [List.length_take, List.length_drop]
    omega
  char k hk := by rw [List.getElem?_take_of_lt hk, List.getElem?_drop]

/-- There is one slice between two positions. -/
theorem unique (h : IsSlice s t first stop) (h' : IsSlice s u first stop) : t = u := by
  refine List.ext_getElem? fun k => ?_
  rcases Nat.lt_or_ge k (stop - first) with hk | hk
  · rw [h.char k hk, h'.char k hk]
  · rw [List.getElem?_eq_none (h.length.trans_le hk), List.getElem?_eq_none (h'.length.trans_le hk)]

/-- A text is the slice of itself between its ends. -/
theorem whole (s : List Char) : IsSlice s s 0 s.length :=
  ⟨Nat.zero_le _, le_rfl, rfl, fun k _ => by rw [Nat.zero_add]⟩

/-- Slices that meet at a position are joined to one slice. -/
theorem append (h : IsSlice s t first mid) (h' : IsSlice s u mid stop) : IsSlice s (t ++ u) first stop where
  ordered := h.ordered.trans h'.ordered
  within := h'.within
  length := by
    have hordered := h.ordered
    have hordered' := h'.ordered
    rw [List.length_append, h.length, h'.length]
    omega
  char k hk := by
    have hordered := h.ordered
    rcases Nat.lt_or_ge k (mid - first) with hleft | hright
    · rw [List.getElem?_append_left (hleft.trans_eq h.length.symm), h.char k hleft]
    · rw [List.getElem?_append_right (h.length.trans_le hright), h.length, h'.char _ (by omega)]
      congr 1
      omega

/-- A slice of a slice. -/
theorem trans (h : IsSlice s t first stop) (h' : IsSlice t u first' stop') :
    IsSlice s u (first + first') (first + stop') where
  ordered := Nat.add_le_add_left h'.ordered first
  within := by
    have hordered := h.ordered
    have hwithin := h.within
    have hwithin' := h'.within
    rw [h.length] at hwithin'
    omega
  length := by rw [h'.length, Nat.add_sub_add_left]
  char k hk := by
    have hwithin := h'.within
    rw [h.length] at hwithin
    rw [h'.char k (by omega), h.char _ (by omega), Nat.add_assoc]

end Text.IsSlice

/-! ## Positions -/

namespace Number

/-- The number is finite, and the integer is what it is without its fraction. -/
def TruncatesTo (a : Float) (i : Int) : Prop :=
  (value? a).map towardsZero = some i

/-- A finite double is cut to the whole part of its number. -/
theorem truncatesTo_of_value {a : Float} {x : ℚ} {i : Int} (h : value? a = some x) (hx : towardsZero x = i) :
    TruncatesTo a i := by
  rw [TruncatesTo, h, Option.map_some, hx]

/-- The integer that a double is cut to is its whole part. -/
theorem truncatesTo_iff {a : Float} {i : Int} : TruncatesTo a i ↔ truncate? a = some i := by
  rw [TruncatesTo, truncate?_eq]

/-- A natural number is its own whole part. -/
theorem towardsZero_natCast (n : Nat) : towardsZero n = n := by
  rw [towardsZero, if_pos (Nat.cast_nonneg n), Int.floor_natCast]

/-- A natural of at most 53 bits is a double. -/
theorem truncatesTo_ofInt {n : Nat} (h : n ≤ 2 ^ 53) : TruncatesTo (ofInt n) n := by
  have hdouble : IsDouble |((n : Int) : ℚ)| := by
    rw [Int.cast_natCast, Nat.abs_cast]
    exact ⟨n, 0, by omega, h, by rw [zpow_zero, mul_one]⟩
  have hnearest : nearest n = ((n : Int) : ℚ) := le_antisymm (nearest_le hdouble le_rfl) (le_nearest hdouble le_rfl)
  refine truncatesTo_of_value (x := n) ?_ (towardsZero_natCast n)
  rw [value?_ofInt (by omega), hnearest, Int.cast_natCast]

end Number

open Number (TruncatesTo)

variable {s t u : String} {a b c d : Float} {i j i' j' : Int}

namespace Builtin

/-- A position is cut to its integer and brought into the range of 64 bits. -/
theorem integerOf_of_truncatesTo {f : Builtin} (h : TruncatesTo a i) :
    integerOf f (.number a) = .ok (Number.clampInt64 i) := by
  obtain ⟨x, hx, rfl⟩ := Option.map_eq_some_iff.mp h
  exact integerOf_number hx

/-- Between two positions of a text there is a part exactly if they are in order and the first one is that of a character. -/
theorem partBetween_eq_ok_iff (hs : s.length < 2 ^ 63 - 1) (ha : TruncatesTo a i) (hb : TruncatesTo b j) :
    partBetween (.text s) (.number a) (.number b) = .ok t ↔
      (0 ≤ i ∧ i < s.length ∧ i ≤ j ∧ j ≤ s.length) ∧ Text.IsSlice s.toList t.toList i.toNat j.toNat := by
  have hclamp := Number.clampInt64_eq i
  have hclamp' := Number.clampInt64_eq j
  rw [partBetween, integerOf_of_truncatesTo ha, integerOf_of_truncatesTo hb]
  show (if 0 ≤ Number.clampInt64 i ∧ _ then _ else _) = _ ↔ _
  by_cases hrange : 0 ≤ i ∧ i < s.length ∧ i ≤ j ∧ j ≤ s.length
  · -- Positions of a text are in the range of 64 bits.
    obtain ⟨hi, hj⟩ : Number.clampInt64 i = i ∧ Number.clampInt64 j = j := by omega
    have hpart := @Text.IsSlice.take_drop s.toList i.toNat j.toNat (by omega) (by rw [String.length_toList]; omega)
    rw [hi, hj, if_pos hrange, and_iff_right hrange, Int.toNat_sub'' (by omega) hrange.1]
    constructor
    · rintro ⟨⟩
      rwa [String.toList_ofList]
    · intro h
      rw [hpart.unique h, String.ofList_toList]
      rfl
  · rw [if_neg (by omega)]
    exact iff_of_false nofun fun h => hrange h.1

end Builtin

namespace Expr

/-- The part of a text between two positions. -/
def substring (s : String) (a b : Float) : Expr :=
  method (.text s) "substring" [.number a, .number b]

/-- The function `substring` cuts the text between its two positions. -/
theorem evaluate_substring (s : String) (a b : Float) (ctx : Context) : (substring s a b).evaluate ctx =
    ((Builtin.partBetween (.text s) (.number a) (.number b)).map .text, ctx) := by
  simp only [substring, evaluate, evaluateItems]
  exact Evaluation.ofExcept_map_bind_settle _ _ _

variable {ctx : Context}

/-- What a part of a text is, and where there is one. -/
theorem evaluate_substring_eq_ok_iff (hs : s.length < 2 ^ 63 - 1) (ha : TruncatesTo a i) (hb : TruncatesTo b j) {v : Value} :
    (substring s a b).evaluate ctx = (.ok v, ctx) ↔
      (0 ≤ i ∧ i < s.length ∧ i ≤ j ∧ j ≤ s.length) ∧
        ∃ t, v = .text t ∧ Text.IsSlice s.toList t.toList i.toNat j.toNat := by
  rw [evaluate_substring]
  constructor
  · intro h
    cases hpart : Builtin.partBetween (.text s) (.number a) (.number b) with
    | error e =>
      rw [hpart] at h
      cases h
    | ok t =>
      rw [hpart] at h
      cases h
      obtain ⟨hrange, hslice⟩ := (Builtin.partBetween_eq_ok_iff hs ha hb).mp hpart
      exact ⟨hrange, t, rfl, hslice⟩
  · rintro ⟨hrange, t, rfl, hslice⟩
    rw [(Builtin.partBetween_eq_ok_iff hs ha hb).mpr ⟨hrange, hslice⟩]
    rfl

/-- Between positions of a text there is a part. -/
theorem exists_evaluate_substring (ctx : Context) (hs : s.length < 2 ^ 63 - 1) (ha : TruncatesTo a i) (hb : TruncatesTo b j)
    (hrange : 0 ≤ i ∧ i < s.length ∧ i ≤ j ∧ j ≤ s.length) :
    ∃ t, (substring s a b).evaluate ctx = (.ok (.text t), ctx) ∧ Text.IsSlice s.toList t.toList i.toNat j.toNat := by
  have hpart := @Text.IsSlice.take_drop s.toList i.toNat j.toNat (by omega) (by rw [String.length_toList]; omega)
  rw [← String.toList_ofList (l := List.take _ _)] at hpart
  exact ⟨_, (evaluate_substring_eq_ok_iff hs ha hb).mpr ⟨hrange, _, rfl, hpart⟩, hpart⟩

/-- A text that is cut at a position is its two parts joined. -/
theorem evaluate_rejoined {zero cut whole : Float} {k : Int} (hs : s.length < 2 ^ 63 - 1) (hzero : TruncatesTo zero 0)
    (hcut : TruncatesTo cut k) (hwhole : TruncatesTo whole s.length) (hk : 0 < k) (hlt : k < s.length) :
    (binary .eq (binary .concat (substring s zero cut) (substring s cut whole)) (.text s)).evaluate ctx =
      (.ok (.truth true), ctx) := by
  obtain ⟨front, hfront, hslice⟩ := exists_evaluate_substring ctx hs hzero hcut (by omega)
  obtain ⟨back, hback, hslice'⟩ := exists_evaluate_substring ctx hs hcut hwhole (by omega)
  have hjoined : front ++ back = s := by
    rw [Int.toNat_natCast, ← String.length_toList] at hslice'
    refine String.toList_injective ?_
    rw [String.toList_append]
    exact (hslice.append hslice').unique (.whole _)
  simp only [evaluate, Evaluation.bind_apply, hfront, hback, Evaluation.ofExcept, Operator.apply, Value.display, hjoined,
    Evaluation.pure_apply, Value.equals, beq_self_eq_true]

/-- A part of a part, with its positions in the whole. -/
theorem isSlice_of_substring_substring (hs : s.length < 2 ^ 63 - 1) (ha : TruncatesTo a i) (hb : TruncatesTo b j)
    (hc : TruncatesTo c i') (hd : TruncatesTo d j') (ht : (substring s a b).evaluate ctx = (.ok (.text t), ctx))
    (hu : (substring t c d).evaluate ctx = (.ok (.text u), ctx)) :
    (0 ≤ i + i' ∧ i + i' < s.length ∧ i + i' ≤ i + j' ∧ i + j' ≤ s.length) ∧
      Text.IsSlice s.toList u.toList (i + i').toNat (i + j').toNat := by
  obtain ⟨hrange, _, heq, hslice⟩ := (evaluate_substring_eq_ok_iff hs ha hb).mp ht
  cases heq
  have hlength := hslice.length
  rw [String.length_toList] at hlength
  obtain ⟨hrange', _, heq, hslice'⟩ := (evaluate_substring_eq_ok_iff (by omega) hc hd).mp hu
  cases heq
  refine ⟨by omega, ?_⟩
  rw [Int.toNat_add hrange.1 hrange'.1, Int.toNat_add hrange.1 (by omega)]
  exact hslice.trans hslice'

/-- Of a text there is a part between two finite numbers, each without its fraction, if and only if the first is at least zero
and less than the length and the second is neither less than the first nor greater than the length. The part then has the
characters from the first position up to but not including the second. So a text that is cut at any position inside is its two
parts joined, and a part of a part is a part of the text, which two numbers give at once if all positions of the text are
doubles. The text has fewer than `2 ^ 63 - 1` characters, as any text that a memory with addresses of 64 bits holds. -/
theorem substring_is_slice (s : String) (hs : s.length < 2 ^ 63 - 1) (ctx : Context) :
    (∀ a b i j, TruncatesTo a i → TruncatesTo b j →
      ((∃ v, (substring s a b).evaluate ctx = (.ok v, ctx)) ↔ 0 ≤ i ∧ i < s.length ∧ i ≤ j ∧ j ≤ s.length) ∧
      ∀ v, (substring s a b).evaluate ctx = (.ok v, ctx) →
        ∃ t, v = .text t ∧ (t.length : Int) = j - i ∧ Text.IsSlice s.toList t.toList i.toNat j.toNat) ∧
    (∀ zero cut whole k, TruncatesTo zero 0 → TruncatesTo cut k → TruncatesTo whole s.length → 0 < k → k < s.length →
      (binary .eq (binary .concat (substring s zero cut) (substring s cut whole)) (.text s)).evaluate ctx =
        (.ok (.truth true), ctx)) ∧
    ∀ a b c d i j i' j' t u, TruncatesTo a i → TruncatesTo b j → TruncatesTo c i' → TruncatesTo d j' →
      (substring s a b).evaluate ctx = (.ok (.text t), ctx) → (substring t c d).evaluate ctx = (.ok (.text u), ctx) →
      Text.IsSlice s.toList u.toList (i + i').toNat (i + j').toNat ∧
        (s.length ≤ 2 ^ 53 → ∃ e f, (substring s e f).evaluate ctx = (.ok (.text u), ctx)) := by
  refine ⟨fun a b i j ha hb => ⟨⟨?_, fun hrange => ?_⟩, fun v hv => ?_⟩, ?_, ?_⟩
  · rintro ⟨v, hv⟩
    exact ((evaluate_substring_eq_ok_iff hs ha hb).mp hv).1
  · obtain ⟨t, ht, -⟩ := exists_evaluate_substring ctx hs ha hb hrange
    exact ⟨.text t, ht⟩
  · obtain ⟨hrange, t, hvalue, hslice⟩ := (evaluate_substring_eq_ok_iff hs ha hb).mp hv
    have hlength := hslice.length
    rw [String.length_toList] at hlength
    exact ⟨t, hvalue, by omega, hslice⟩
  · exact fun _ _ _ _ hzero hcut hwhole hk hlt => evaluate_rejoined hs hzero hcut hwhole hk hlt
  · intro a b c d i j i' j' t u ha hb hc hd ht hu
    obtain ⟨hrange, hslice⟩ := isSlice_of_substring_substring hs ha hb hc hd ht hu
    refine ⟨hslice, fun hdoubles => ?_⟩
    have hfirst := Number.truncatesTo_ofInt (n := (i + i').toNat) (by omega)
    have hstop := Number.truncatesTo_ofInt (n := (i + j').toNat) (by omega)
    exact ⟨_, _, (evaluate_substring_eq_ok_iff hs hfirst hstop).mpr ⟨by omega, u, rfl, hslice⟩⟩

/-- Numbers with fractions, one of them negative, and a character of two bytes. -/
theorem substring_is_slice_of_fractions :
    let ctx := Context.ofRequest 1 (.ofTarget "GET" "/") (.seeded 1)
    "naïve".length < 2 ^ 63 - 1 ∧ TruncatesTo (-0.5) 0 ∧ TruncatesTo 1.5 1 ∧ TruncatesTo 3.75 3 ∧ TruncatesTo 5 5 ∧
      (∃ t u, (substring "naïve" 1.5 3.75).evaluate ctx = (.ok (.text t), ctx) ∧
        (substring t (-0.5) 1.5).evaluate ctx = (.ok (.text u), ctx) ∧ Text.IsSlice "naïve".toList u.toList 1 2) ∧
      (¬∃ v, (substring "naïve" 5 5).evaluate ctx = (.ok v, ctx)) ∧
      (binary .eq (binary .concat (substring "naïve" (-0.5) 3.75) (substring "naïve" 3.75 5)) (.text "naïve")).evaluate ctx =
        (.ok (.truth true), ctx) := by
  intro ctx
  have hlength : "naïve".length = 5 := by decide
  have hs : "naïve".length < 2 ^ 63 - 1 := by omega
  have hzero : TruncatesTo (-0.5) 0 := Number.truncatesTo_iff.mpr (by decide)
  have hone : TruncatesTo 1.5 1 := Number.truncatesTo_iff.mpr (by decide)
  have hthree : TruncatesTo 3.75 3 := Number.truncatesTo_iff.mpr (by decide)
  have hfive : TruncatesTo 5 5 := Number.truncatesTo_iff.mpr (by decide)
  obtain ⟨hparts, hrejoined, hnested⟩ := substring_is_slice "naïve" hs ctx
  obtain ⟨v, hv⟩ := (hparts _ _ _ _ hone hthree).1.mpr (by omega)
  obtain ⟨t, rfl, ht, -⟩ := (hparts _ _ _ _ hone hthree).2 v hv
  have ht : t.length = 2 := by omega
  obtain ⟨hinner, -, -⟩ := substring_is_slice t (by omega) ctx
  obtain ⟨w, hw⟩ := (hinner _ _ _ _ hzero hone).1.mpr (by omega)
  obtain ⟨u, rfl, -, -⟩ := (hinner _ _ _ _ hzero hone).2 w hw
  refine ⟨hs, hzero, hone, hthree, hfive, ⟨t, u, hv, hw, ?_⟩, ?_, ?_⟩
  · exact (hnested _ _ _ _ _ _ _ _ _ _ hone hthree hzero hone hv hw).1
  · rw [(hparts _ _ _ _ hfive hfive).1]
    omega
  · exact hrejoined _ _ _ 3 hzero hthree (by rw [hlength]; exact hfive) (by omega) (by omega)

end Expr

end ConditionLang
