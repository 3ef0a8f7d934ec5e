import ConditionLang.Eval.Basic

/-!
# The parts of a text between separators

A text is cut at the separators that are found from left to right. Nothing is lost: the parts joined with the separator are the
text (`intercalate_split`). No part has a separator left in it (`not_infix_of_mem_split`), although the search goes on behind a
separator that was found and never looks back: where it stands, none starts in the part that it has collected
(`StartsNone`). So the number of parts agrees with the test whether the text has the separator at all, and without a separator
the parts are the characters, as many as the text is long (`split_loses_nothing`).
-/

namespace ConditionLang

namespace Text

/-- A text is tested for a part at each of its places. -/
theorem hasInfix_iff {part s : List Char} : hasInfix part s = true ↔ part <:+: s := by
  induction s with
  | nil => rw [hasInfix, List.isEmpty_iff, List.infix_nil]
  | cons c s ih => rw [hasInfix, Bool.or_eq_true, ih, List.isPrefixOf_iff_prefix, List.infix_cons_iff]

/-! ## Joining the parts -/

variable {first : Char} {rest part s : List Char}

/-- A text has at least one part. -/
theorem splitAfter_ne_nil : splitAfter first rest part s ≠ [] := by
  fun_induction splitAfter first rest part s with
  | case1 => exact List.cons_ne_nil _ _
  | case2 => exact List.cons_ne_nil _ _
  | case3 _ _ _ _ ih => exact ih

/-- The parts, joined by the separator, are the text again, after what was collected before it. -/
theorem intercalate_splitAfter :
    (first :: rest).intercalate (splitAfter first rest part s) = part.reverse ++ s := by
  fun_induction splitAfter first rest part s with
  | case1 part => rw [List.intercalate_singleton, List.append_nil]
  | case2 part c s h ih =>
    obtain ⟨rfl, hrest⟩ := h
    obtain ⟨after, rfl⟩ := List.isPrefixOf_iff_prefix.mp hrest
    rw [List.intercalate_cons_of_ne_nil splitAfter_ne_nil, ih, List.drop_left, List.reverse_nil, List.nil_append,
      List.append_assoc, List.cons_append]
  | case3 part c s h ih => rw [ih, List.reverse_cons, List.append_assoc, List.singleton_append]

/-! ## No separator is left -/

/-- No separator of the text `before ++ after` starts in `before`. -/
def StartsNone (separator before after : List Char) : Prop :=
  ∀ front back, before ++ after = front ++ (separator ++ back) → before.length ≤ front.length

namespace StartsNone

variable {separator before after : List Char} {c : Char}

/-- No separator starts before the first character. -/
theorem nil (separator after : List Char) : StartsNone separator [] after :=
  fun _ _ _ => Nat.zero_le _

/-- The search moves on over a character at which no separator starts. -/
theorem concat (h : StartsNone separator before (c :: after)) (hc : ¬separator <+: c :: after) :
    StartsNone separator (before ++ [c]) after := by
  intro front back htext
  rw [List.append_assoc, List.singleton_append] at htext
  have hle := h front back htext
  rw [List.length_append, List.length_singleton, Nat.succ_le_iff]
  refine Nat.lt_of_le_of_ne hle fun hlength => hc ?_
  exact ⟨back, ((List.append_inj htext hlength).2).symm⟩

/-- Where no separator starts, none is contained. -/
theorem not_infix (h : StartsNone separator before after) (hne : separator ≠ []) : ¬separator <:+: before := by
  rintro ⟨front, back, rfl⟩
  have hle := h front (back ++ after) (by simp only [List.append_assoc])
  have hpos := List.length_pos_iff.mpr hne
  simp only [List.length_append] at hle
  omega

end StartsNone

/-- No part contains the separator, if none starts in what was collected. -/
theorem not_infix_of_mem_splitAfter (h : StartsNone (first :: rest) part.reverse s) {p : List Char}
    (hp : p ∈ splitAfter first rest part s) : ¬(first :: rest) <:+: p := by
  fun_induction splitAfter first rest part s with
  | case1 part =>
    rw [List.mem_singleton.mp hp]
    exact h.not_infix (List.cons_ne_nil _ _)
  | case2 part c s _ ih =>
    rcases List.mem_cons.mp hp with rfl | hp
    · exact h.not_infix (List.cons_ne_nil _ _)
    · exact ih (StartsNone.nil _ _) hp
  | case3 part c s hc ih =>
    refine ih ?_ hp
    rw [List.reverse_cons]
    refine h.concat fun hprefix => hc ?_
    obtain ⟨rfl, hrest⟩ := List.cons_prefix_cons.mp hprefix
    exact ⟨rfl, List.isPrefixOf_iff_prefix.mpr hrest⟩

/-! ## Parts of a text -/

variable {separator : List Char}

/-- The parts of a text, joined by the separator, are the text again. -/
theorem intercalate_split (h : separator ≠ []) (s : List Char) : separator.intercalate (split separator s) = s := by
  obtain ⟨first, rest, rfl⟩ := List.exists_cons_of_ne_nil h
  exact intercalate_splitAfter

/-- No part of a text contains the separator. -/
theorem not_infix_of_mem_split (h : separator ≠ []) (hpart : part ∈ split separator s) : ¬separator <:+: part := by
  obtain ⟨first, rest, rfl⟩ := List.exists_cons_of_ne_nil h
  exact not_infix_of_mem_splitAfter (StartsNone.nil _ _) hpart

/-- There is more than one part if and only if the text has a separator. -/
theorem one_lt_length_split_iff (h : separator ≠ []) : 1 < (split separator s).length ↔ separator <:+: s := by
  have hjoined := intercalate_split h s
  have hparts := fun part => @not_infix_of_mem_split part s separator h
  generalize split separator s = parts at hjoined hparts
  match parts with
  | [] =>
    rw [List.intercalate_nil] at hjoined
    rw [← hjoined, List.infix_nil]
    exact iff_of_false (by decide) h
  | [part] =>
    rw [List.intercalate_singleton] at hjoined
    exact iff_of_false (Nat.lt_irrefl 1) (hjoined ▸ hparts part List.mem_cons_self)
  | part :: next :: parts =>
    refine iff_of_true (by simp) ⟨part, separator.intercalate (next :: parts), ?_⟩
    rw [← hjoined, List.intercalate_cons_cons]

end Text

namespace Expr

variable (s p : String) (ctx : Context)

/-- The function `split` gives the parts of the text. -/
theorem evaluate_split : (method (.text s) "split" [.text p]).evaluate ctx =
    (.ok (.sequence ((Text.split p.toList s.toList).map fun part => .text (String.ofList part))), ctx) := by
  simp only [evaluate, evaluateItems]
  rfl

/-- The function `contains` tests a text for a part. -/
theorem evaluate_contains_text : (method (.text s) "contains" [.text p]).evaluate ctx =
    (.ok (.truth (Text.hasInfix p.toList s.toList)), ctx) := by
  simp only [evaluate, evaluateItems]
  rfl

/-- The function `len` counts the characters of a text. -/
theorem evaluate_len_text : (method (.text s) "len" []).evaluate ctx = (.ok (.number (Number.ofNat s.length)), ctx) := by
  simp only [evaluate, evaluateItems]
  rfl

/-- Splitting a text always gives its parts. Joined with the separator they are the text again, none of them has the separator
in it, and there is more than one if and only if the text has it. Without a separator they are the characters of the text in
order, and their number is its length. -/
theorem split_loses_nothing :
    ∃ parts : List String,
      (method (.text s) "split" [.text p]).evaluate ctx = (.ok (.sequence (parts.map .text)), ctx) ∧
      (p ≠ "" →
        p.intercalate parts = s ∧
        (∀ part ∈ parts, ¬p.toList <:+: part.toList) ∧
        (1 < parts.length ↔ (method (.text s) "contains" [.text p]).evaluate ctx = (.ok (.truth true), ctx))) ∧
      (p = "" →
        parts = s.toList.map (fun c => String.ofList [c]) ∧
        (method (.text s) "len" []).evaluate ctx = (.ok (.number (Number.ofNat parts.length)), ctx)) := by
  refine ⟨(Text.split p.toList s.toList).map String.ofList, ?_, fun hp => ?_, ?_⟩
  · rw [evaluate_split, List.map_map]
    rfl
  · have hne : p.toList ≠ [] := fun h => hp (String.toList_eq_nil_iff.mp h)
    refine ⟨String.toList_injective ?_, List.forall_mem_map.mpr fun part hpart => ?_, ?_⟩
    · rw [String.toList_intercalate, List.map_map, Function.comp_def]
      simp only [String.toList_ofList, List.map_id']
      exact Text.intercalate_split hne s.toList
    · rw [String.toList_ofList]
      exact Text.not_infix_of_mem_split hne hpart
    · rw [List.length_map, Text.one_lt_length_split_iff hne, evaluate_contains_text, ← Text.hasInfix_iff]
      simp
  · rintro rfl
    rw [evaluate_len_text, List.length_map, String.toList_empty, Text.split, List.length_map, String.length_toList,
      List.map_map]
    exact ⟨rfl, rfl⟩

end Expr

end ConditionLang
