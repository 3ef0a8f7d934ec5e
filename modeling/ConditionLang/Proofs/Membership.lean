import ConditionLang.Proofs.Evaluation
import ConditionLang.Proofs.Separators

/-!
# Membership and the operators

`contains` looks for an item, for a number of a range, for a part of a text or for a key, and it does so in step with the
operators: an item is found if `==` says that it equals the needle, a number if `>=` and `<=` put it between the ends of the
range, and a part of a text if the text is that part with something before and after it
(`contains_agrees_with_operators`). `not_contains` makes the same search, so that it has a value in the same cases, and its
value is the other one.
-/

namespace ConditionLang

namespace Builtin

variable {b : Builtin} {t x : Value}

/-- Under either name a search comes to the same answer, or to none; only the error tells the name. -/
theorem holds_same (b b' : Builtin) (t x : Value) :
    (∃ found, holds b t x = .ok found ∧ holds b' t x = .ok found) ∨
      ∃ e e', holds b t x = .error e ∧ holds b' t x = .error e' := by
  cases t with
  | text s =>
    cases x with
    | text p => exact .inl ⟨_, rfl, rfl⟩
    | _ => exact .inr ⟨_, _, rfl, rfl⟩
  | sequence items => exact .inl ⟨_, rfl, rfl⟩
  | map entries =>
    cases x with
    | text key => exact .inl ⟨_, rfl, rfl⟩
    | _ => exact .inr ⟨_, _, rfl, rfl⟩
  | range first last =>
    cases x with
    | number y => exact .inl ⟨_, rfl, rfl⟩
    | _ => exact .inr ⟨_, _, rfl, rfl⟩
  | _ => exact .inr ⟨_, _, rfl, rfl⟩

/-- An item is found if it equals the needle as `==` decides it. -/
theorem holds_sequence (items : List Value) :
    ∃ found, holds b (.sequence items) x = .ok found ∧
      (found = true ↔ ∃ item ∈ items, Operator.eq.apply item x = .ok (.truth true)) := by
  refine ⟨items.any (·.equals x), rfl, List.any_eq_true.trans (exists_congr fun item => and_congr_right fun _ => ?_)⟩
  rw [Operator.apply, Except.ok.injEq, Value.truth.injEq]

/-- A number is found if the operators put it between the ends of the range. -/
theorem holds_range (first last y : Float) :
    (holds b (.range first last) (.number y)).map Value.truth = (do
      let above ← Operator.ge.apply (.number y) (.number first)
      let below ← Operator.le.apply (.number y) (.number last)
      Operator.and.apply above below) :=
  rfl

/-- A part of a text is found if it stands between two other parts, of which either may be empty. -/
theorem holds_text (s p : String) :
    ∃ found, holds b (.text s) (.text p) = .ok found ∧ (found = true ↔ ∃ before after, s = before ++ p ++ after) := by
  refine ⟨Text.hasInfix p.toList s.toList, rfl, Text.hasInfix_iff.trans ⟨?_, ?_⟩⟩
  · rintro ⟨before, after, h⟩
    refine ⟨String.ofList before, String.ofList after, String.toList_injective ?_⟩
    rw [String.toList_append, String.toList_append, String.toList_ofList, String.toList_ofList, h]
  · rintro ⟨before, after, rfl⟩
    rw [String.toList_append, String.toList_append]
    exact ⟨before.toList, after.toList, rfl⟩

end Builtin

namespace Expr

variable {target needle : Expr} {ctx ctx₁ ctx₂ : Context} {t x : Value}

/-- The function `contains` tests the target for the argument, evaluated after it. -/
theorem evaluate_method_contains (ht : target.evaluate ctx = (.ok t, ctx₁)) (hx : needle.evaluate ctx₁ = (.ok x, ctx₂)) :
    (method target "contains" [needle]).evaluate ctx = ((Builtin.holds .contains t x).map .truth, ctx₂) := by
  simp only [evaluate, evaluateItems, Evaluation.bind_apply, ht, hx]
  exact Evaluation.ofExcept_map_bind_settle _ _ _

/-- The function `not_contains` turns the test around. -/
theorem evaluate_method_not_contains (ht : target.evaluate ctx = (.ok t, ctx₁)) (hx : needle.evaluate ctx₁ = (.ok x, ctx₂)) :
    (method target "not_contains" [needle]).evaluate ctx =
      ((Builtin.holds .notContains t x).map fun found => .truth (!found), ctx₂) := by
  simp only [evaluate, evaluateItems, Evaluation.bind_apply, ht, hx]
  exact Evaluation.ofExcept_map_bind_settle _ _ _

/-- Whatever the target and the needle come to: in a sequence the needle is found if and only if some item equals it, in a
range a number is found as the comparisons with both ends say, and in a text another text is found if and only if the text is
that one with some text before and some text after it. Where `contains` has a value, and only there, `not_contains` has the
opposite one. -/
theorem contains_agrees_with_operators (ht : target.evaluate ctx = (.ok t, ctx₁))
    (hx : needle.evaluate ctx₁ = (.ok x, ctx₂)) :
    let contains := (method target "contains" [needle]).evaluate ctx
    let notContains := (method target "not_contains" [needle]).evaluate ctx
    (∀ items, t = .sequence items → ∃ found, contains = (.ok (.truth found), ctx₂) ∧
      (found = true ↔ ∃ item ∈ items, Operator.eq.apply item x = .ok (.truth true))) ∧
    (∀ first last y, t = .range first last → x = .number y →
      contains = (do
        let above ← Operator.ge.apply x (.number first)
        let below ← Operator.le.apply x (.number last)
        Operator.and.apply above below, ctx₂)) ∧
    (∀ s p, t = .text s → x = .text p → ∃ found, contains = (.ok (.truth found), ctx₂) ∧
      (found = true ↔ ∃ before after, s = before ++ p ++ after)) ∧
    ((∃ v, notContains = (.ok v, ctx₂)) ↔ ∃ v, contains = (.ok v, ctx₂)) ∧
    ∀ v, contains = (.ok v, ctx₂) → ∃ found, v = .truth found ∧ notContains = (.ok (.truth !found), ctx₂) := by
  intro contains notContains
  have hcontains : contains = ((Builtin.holds .contains t x).map .truth, ctx₂) := evaluate_method_contains ht hx
  have hnot : notContains = ((Builtin.holds .notContains t x).map fun found => .truth (!found), ctx₂) :=
    evaluate_method_not_contains ht hx
  rw [hcontains, hnot]
  refine ⟨?_, ?_, ?_, ?_⟩
  · rintro items rfl
    obtain ⟨found, hfound, hiff⟩ := Builtin.holds_sequence items
    exact ⟨found, by rw [hfound]; rfl, hiff⟩
  · rintro first last y rfl rfl
    rw [Builtin.holds_range]
  · rintro s p rfl rfl
    obtain ⟨found, hfound, hiff⟩ := Builtin.holds_text s p
    exact ⟨found, by rw [hfound]; rfl, hiff⟩
  · rcases Builtin.holds_same .contains .notContains t x with ⟨found, hfound, hfound'⟩ | ⟨e, e', he, he'⟩
    · rw [hfound, hfound']
      refine ⟨iff_of_true ⟨_, rfl⟩ ⟨_, rfl⟩, fun v hv => ⟨found, ?_, rfl⟩⟩
      cases hv
      rfl
    · rw [he, he']
      exact ⟨iff_of_false nofun nofun, nofun⟩

/-- A missing value is found in a sequence that has an empty text in it. -/
theorem contains_agrees_with_operators_of_missing :
    let ctx := Context.ofRequest 1 (.ofTarget "GET" "/") (.seeded 1)
    let target := sequence [.truth true, .text ""]
    let needle := reference ⟨"body", []⟩
    target.evaluate ctx = (.ok (.sequence [.truth true, .text ""]), ctx) ∧ needle.evaluate ctx = (.ok .missing, ctx) ∧
      (method target "contains" [needle]).evaluate ctx = (.ok (.truth true), ctx) ∧
      (method target "not_contains" [needle]).evaluate ctx = (.ok (.truth false), ctx) := by
  intro ctx target needle
  have ht : target.evaluate ctx = (.ok (.sequence [.truth true, .text ""]), ctx) := by
    simp only [target, evaluate, evaluateItems]
    rfl
  have hx : needle.evaluate ctx = (.ok .missing, ctx) := by
    simp only [needle, evaluate]
    rfl
  obtain ⟨hsequence, -, -, -, hopposite⟩ := contains_agrees_with_operators ht hx
  obtain ⟨found, hfound, hiff⟩ := hsequence _ rfl
  obtain rfl : found = true := hiff.mpr ⟨.text "", by simp, rfl⟩
  obtain ⟨_, heq, hnot⟩ := hopposite _ hfound
  cases heq
  exact ⟨ht, hx, hfound, hnot⟩

end Expr

end ConditionLang
