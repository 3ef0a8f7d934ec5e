import ConditionLang.Proofs.KeyedReads
import ConditionLang.Proofs.Numerals

/-!
# Items of a sequence by their positions

A step in brackets leads into a sequence if its key is a natural of 64 bits. A key of digits is one unless the position that it
writes is too large, however many zeros stand in front of it, and then the step leads to the item at that position, or to a
missing value behind the last item. A position that does not fit into 64 bits is behind the last item as well, but the step to
it is an error and not a missing value (`evaluate_position_iff`).
-/

namespace ConditionLang

open Number (readWord? readDigits readDigits_eq toLower_of_isDigit)

/-- Digits are read as the natural that they write, if it has 64 bits. -/
theorem Number.readWord?_of_digits {s : List Char} (hne : s ≠ []) (hdigits : s.all Char.isDigit = true) :
    readWord? s = if 2 ^ 64 ≤ readDigits s then none else some (readDigits s) := by
  obtain ⟨c, s, rfl⟩ := List.exists_cons_of_ne_nil hne
  have hplus : c ≠ '+' := by
    rintro rfl
    exact absurd (List.all_eq_true.mp hdigits _ List.mem_cons_self) (by decide)
  unfold readWord?
  split
  · rename_i heq
    exact absurd (List.cons.inj heq).1 hplus
  · simp only [hdigits, List.isEmpty_cons, Bool.false_eq_true, not_true_eq_false, false_or]

/-- A key of digits is the same in every scope. -/
theorem Scope.key_of_digits {key : String} (h : key.toList.all Char.isDigit = true) (scope : Scope) :
    scope.key (.index key) = key := by
  cases scope with
  | headers =>
    show key.toLower = key
    rw [← String.toList_inj, String.toLower, String.toList_map]
    exact (List.map_congr_left fun c hc => toLower_of_isDigit (List.all_eq_true.mp h c hc)).trans (List.map_id _)
  | request => rfl
  | other => rfl

/-- A step by a number reads the item at its place, and fails if the number has more than 64 bits. -/
theorem Value.step_position {key : String} (hne : key ≠ "") (hdigits : key.toList.all Char.isDigit = true)
    (items : List Value) :
    (Value.sequence items).step (.index key) key =
      if 2 ^ 64 ≤ Nat.ofDigitChars 10 key.toList 0 then .error (.noSuchStep key .table)
      else .ok (items[Nat.ofDigitChars 10 key.toList 0]?.getD .missing) := by
  rw [step, Number.readWord?_of_digits (fun h => hne (String.toList_eq_nil_iff.mp h)) hdigits, readDigits_eq]
  by_cases hlarge : 2 ^ 64 ≤ Nat.ofDigitChars 10 key.toList 0
  · rw [if_pos hlarge, if_pos hlarge]
  · rw [if_neg hlarge, if_neg hlarge]

namespace Expr

/-- A step in brackets from a sequence, with a key of digits, gives the item at the position that the digits write, or a missing
value where there is none, if and only if that position is below `2 ^ 64`. Otherwise it fails. -/
theorem evaluate_position_iff (ctx : Context) (r : Reference) (items : List Value) (key : String)
    (h : (reference r).evaluate ctx = (.ok (.sequence items), ctx)) (hne : key ≠ "")
    (hdigits : ∀ c ∈ key.toList, c.isDigit = true) :
    let position := Nat.ofDigitChars 10 key.toList 0
    let entry := (reference ⟨r.name, r.path ++ [.index key]⟩).evaluate ctx
    (entry = (.ok (items[position]?.getD .missing), ctx) ↔ position < 2 ^ 64) ∧
      (2 ^ 64 ≤ position → entry = (.error (.noSuchStep key .table), ctx)) := by
  intro position entry
  have hall := List.all_eq_true.mpr hdigits
  have hlookup : ctx.lookup r = .ok (.sequence items) := by
    rw [evaluate_reference] at h
    exact congrArg Prod.fst h
  have hentry : entry = (if 2 ^ 64 ≤ position then .error (.noSuchStep key .table)
      else .ok (items[position]?.getD .missing), ctx) := by
    show (reference _).evaluate ctx = _
    rw [evaluate_reference, Context.lookup_step hlookup rfl, Scope.key_of_digits hall, Value.step_position hne hall]
  rw [hentry]
  refine ⟨⟨fun hvalue => ?_, fun hsmall => by rw [if_neg (Nat.not_le.mpr hsmall)]⟩, fun hlarge => by rw [if_pos hlarge]⟩
  by_contra hlarge
  rw [if_pos (Nat.not_lt.mp hlarge)] at hvalue
  cases congrArg Prod.fst hvalue

/-- Zeros in front, and the last position of all behind the end. -/
theorem evaluate_position_iff_of_body :
    let ctx := Context.ofRequest 1 ((Request.ofTarget "POST" "/").withBody (.sequence [.text "a", .text "b"])) (.seeded 1)
    let body : Reference := ⟨"request", [.property "body"]⟩
    (reference body).evaluate ctx = (.ok (.sequence [.text "a", .text "b"]), ctx) ∧
      (reference ⟨"request", [.property "body", .index "0001"]⟩).evaluate ctx = (.ok (.text "b"), ctx) ∧
      (reference ⟨"request", [.property "body", .index "18446744073709551615"]⟩).evaluate ctx = (.ok .missing, ctx) ∧
      (reference ⟨"request", [.property "body", .index "18446744073709551616"]⟩).evaluate ctx =
        (.error (.noSuchStep "18446744073709551616" .table), ctx) := by
  intro ctx body
  have hbody : (reference body).evaluate ctx = (.ok (.sequence [.text "a", .text "b"]), ctx) := by
    rw [evaluate_reference]
    rfl
  refine ⟨hbody, ?_, ?_, ?_⟩
  · exact (evaluate_position_iff ctx body _ "0001" hbody (by decide) (List.all_eq_true.mp rfl)).1.mpr (by decide)
  · exact (evaluate_position_iff ctx body _ "18446744073709551615" hbody (by decide) (List.all_eq_true.mp rfl)).1.mpr
      (by decide)
  · exact (evaluate_position_iff ctx body _ "18446744073709551616" hbody (by decide) (List.all_eq_true.mp rfl)).2
      (by decide)

/-- A step to a position that is behind the end of a sequence fails, although the key is not empty and has only digits. -/
theorem position_beyond_words :
    let ctx := Context.ofRequest 1 ((Request.ofTarget "POST" "/").withBody (.sequence [.text "a"])) (.seeded 1)
    let key := "18446744073709551616"
    (reference ⟨"body", []⟩).evaluate ctx = (.ok (.sequence [.text "a"]), ctx) ∧ key ≠ "" ∧
      (∀ c ∈ key.toList, c.isDigit = true) ∧
      [Value.text "a"].length ≤ Nat.ofDigitChars 10 key.toList 0 ∧
      (reference ⟨"body", [.index key]⟩).evaluate ctx ≠ (.ok .missing, ctx) := by
  intro ctx key
  have hdigits : "18446744073709551616".toList.all Char.isDigit = true := rfl
  have hbody : ctx.lookup ⟨"body", []⟩ = .ok (.sequence [.text "a"]) := rfl
  have herror : ctx.lookup ⟨"body", [.index key]⟩ = .error (.noSuchStep key .table) := by
    refine (Context.lookup_step hbody rfl (.index key)).trans ?_
    rw [Scope.key_of_digits hdigits, Value.step_position (by decide) hdigits]
    exact if_pos (by decide)
  refine ⟨?_, by decide, List.all_eq_true.mp hdigits, by decide, ?_⟩
  · rw [evaluate_reference, hbody]
  · rw [evaluate_reference, herror]
    intro h
    cases congrArg Prod.fst h

end Expr

end ConditionLang
