import Mathlib.Data.List.MinMax
import Mathlib.Order.Bounds.Defs
import ConditionLang.Diagnostic.Suggestion

/-!
# Least edits and nearest names

The distance of two texts is the least number of characters that must be put in, left out or replaced to turn the one into the
other, and the built-in that is suggested for a name is the first of those at the least distance, if that is at most three
(`closest?_nearest_within_three_edits`).

The recursion on least edits takes both texts apart at the front, where the rows of the distance take them apart at the back.
The least number is the same from both ends, as edits of two texts are edits of the texts read backwards (`Edits.reverse`).
-/

namespace ConditionLang

namespace Text

/-! ## Edits -/

/-- One character is put in, left out or replaced. -/
inductive Edit : List Char → List Char → Prop
  | insert (c : Char) (t : List Char) : Edit t (c :: t)
  | delete (c : Char) (t : List Char) : Edit (c :: t) t
  | replace (c d : Char) (t : List Char) : Edit (c :: t) (d :: t)
  | keep (c : Char) {s t : List Char} (h : Edit s t) : Edit (c :: s) (c :: t)

/-- A text is turned into another one by a number of edits, one after the other. -/
inductive Edits : Nat → List Char → List Char → Prop
  | none (s : List Char) : Edits 0 s s
  | step {n : Nat} {s s' t : List Char} (h : Edit s s') (hs : Edits n s' t) : Edits (n + 1) s t

/-- The least number of edits: the first characters are left out, put in, or replaced by each other at no cost if they are
the same. -/
def leastEdits : List Char → List Char → Nat
  | [], t => t.length
  | s, [] => s.length
  | c :: s, d :: t =>
    min (min (leastEdits s (d :: t) + 1) (leastEdits (c :: s) t + 1)) (leastEdits s t + if c = d then 0 else 1)

variable {n : Nat} {s s' t : List Char}

/-- An edit may be made behind any text. -/
theorem Edit.append_left (u : List Char) (h : Edit s t) : Edit (u ++ s) (u ++ t) := by
  induction u with
  | nil => exact h
  | cons c u ih => exact .keep c ih

/-- An edit may be made before any text. -/
theorem Edit.append_right (u : List Char) (h : Edit s t) : Edit (s ++ u) (t ++ u) := by
  induction h with
  | insert c t => exact .insert c (t ++ u)
  | delete c t => exact .delete c (t ++ u)
  | replace c d t => exact .replace c d (t ++ u)
  | keep c _ ih => exact .keep c ih

/-- An edit read from the right is an edit. -/
theorem Edit.reverse (h : Edit s t) : Edit s.reverse t.reverse := by
  induction h with
  | insert c t => simpa using (Edit.insert c []).append_left t.reverse
  | delete c t => simpa using (Edit.delete c []).append_left t.reverse
  | replace c d t => simpa using (Edit.replace c d []).append_left t.reverse
  | keep c _ ih => simpa using ih.append_right [c]

/-- The same character in front of both texts costs no edit. -/
theorem Edits.keep (c : Char) (h : Edits n s t) : Edits n (c :: s) (c :: t) := by
  induction h with
  | none s => exact .none (c :: s)
  | step h _ ih => exact .step (h.keep c) ih

theorem Edits.reverse (h : Edits n s t) : Edits n s.reverse t.reverse := by
  induction h with
  | none s => exact .none s.reverse
  | step h _ ih => exact .step h.reverse ih

/-! ## The least number of edits -/

/-- From the empty text, every character is inserted. -/
@[simp] theorem leastEdits_nil_left (t : List Char) : leastEdits [] t = t.length := by
  simp [leastEdits]

/-- To the empty text, every character is deleted. -/
@[simp] theorem leastEdits_nil_right (s : List Char) : leastEdits s [] = s.length := by
  cases s <;> simp [leastEdits]

/-- The first characters are deleted, inserted or exchanged, whichever is least in all. -/
theorem leastEdits_cons_cons (c d : Char) (s t : List Char) : leastEdits (c :: s) (d :: t) =
    min (min (leastEdits s (d :: t) + 1) (leastEdits (c :: s) t + 1)) (leastEdits s t + if c = d then 0 else 1) := by
  rw [leastEdits]

/-- The characters of a text are inserted one by one. -/
theorem edits_insert_all (t : List Char) : Edits t.length [] t := by
  induction t with
  | nil => exact .none []
  | cons c t ih => exact .step (.insert c []) (ih.keep c)

theorem edits_delete_all (s : List Char) : Edits s.length s [] := by
  induction s with
  | nil => exact .none []
  | cons c s ih => exact .step (.delete c s) ih

/-- As many edits are enough. -/
theorem edits_leastEdits (s t : List Char) : Edits (leastEdits s t) s t := by
  fun_induction leastEdits s t with
  | case1 t => exact edits_insert_all t
  | case2 s => exact edits_delete_all s
  | case3 c s d t hdelete hinsert hreplace =>
    refine min_rec' (Edits · (c :: s) (d :: t)) (min_rec' (Edits · (c :: s) (d :: t)) ?_ ?_) ?_
    · exact .step (.delete c s) hdelete
    · exact .step (.insert d (c :: s)) (hinsert.keep d)
    · split
      · rename_i heq
        exact heq ▸ hreplace.keep c
      · exact .step (.replace c d s) (hreplace.keep d)

theorem leastEdits_self (s : List Char) : leastEdits s s = 0 := by
  induction s with
  | nil => simp
  | cons c s ih => simp [leastEdits_cons_cons, ih]

/-- A character more on the right takes at most one edit more. -/
theorem leastEdits_cons_right_le (s t : List Char) (d : Char) : leastEdits s (d :: t) ≤ leastEdits s t + 1 := by
  cases s with
  | nil => simp
  | cons c s => rw [leastEdits_cons_cons]; omega

/-- An edit saves no more than itself: by induction on the place of the edit, and at that place on the other text. -/
theorem leastEdits_le_of_edit (h : Edit s s') (t : List Char) : leastEdits s t ≤ leastEdits s' t + 1 := by
  induction h generalizing t with
  | insert c s =>
    induction t with
    | nil => simp; omega
    | cons d t ih =>
      have hput := leastEdits_cons_right_le s t d
      rw [leastEdits_cons_cons]
      omega
  | delete c s =>
    cases t with
    | nil => simp
    | cons d t => rw [leastEdits_cons_cons]; omega
  | replace c c' s =>
    induction t with
    | nil => simp
    | cons d t ih => rw [leastEdits_cons_cons, leastEdits_cons_cons c']; split <;> omega
  | @keep c s s' _ ih =>
    induction t with
    | nil => simpa using ih []
    | cons d t iht =>
      have hdelete := ih (d :: t)
      have hreplace := ih t
      rw [leastEdits_cons_cons, leastEdits_cons_cons]
      omega

/-- No fewer edits are enough. -/
theorem leastEdits_le_of_edits (h : Edits n s t) : leastEdits s t ≤ n := by
  induction h with
  | none s => exact (leastEdits_self s).le
  | @step n s s' t h _ ih =>
    have hedit := leastEdits_le_of_edit h t
    omega

/-- The recursive minimum is the least number of edits. -/
theorem isLeast_leastEdits (s t : List Char) : IsLeast {n | Edits n s t} (leastEdits s t) :=
  ⟨edits_leastEdits s t, fun _ h => leastEdits_le_of_edits h⟩

/-- Texts read from the right are as far apart. -/
theorem leastEdits_reverse (s t : List Char) : leastEdits s.reverse t.reverse = leastEdits s t := by
  apply le_antisymm
  · exact leastEdits_le_of_edits (edits_leastEdits s t).reverse
  · simpa using leastEdits_le_of_edits (edits_leastEdits s.reverse t.reverse).reverse

/-- The recursion at the last characters. -/
theorem leastEdits_concat_concat (c d : Char) (s t : List Char) : leastEdits (s ++ [c]) (t ++ [d]) =
    min (min (leastEdits s (t ++ [d]) + 1) (leastEdits (s ++ [c]) t + 1)) (leastEdits s t + if c = d then 0 else 1) := by
  rw [← leastEdits_reverse (s ++ [c]) (t ++ [d]), ← leastEdits_reverse s (t ++ [d]), ← leastEdits_reverse (s ++ [c]) t,
    ← leastEdits_reverse s t]
  simp only [List.reverse_append, List.reverse_singleton, List.singleton_append]
  exact leastEdits_cons_cons c d s.reverse t.reverse

/-! ## Rows -/

/-- The row of a text `s`: the least edits to `u` and to each longer beginning of `u ++ v`. -/
def leastRow (s u : List Char) : List Char → List Nat
  | [] => [leastEdits s u]
  | d :: v => leastEdits s u :: leastRow s (u ++ [d]) v

/-- A row starts with the edits to the part before it. -/
theorem leastRow_eq_cons (s u v : List Char) : leastRow s u v = leastEdits s u :: (leastRow s u v).tail := by
  cases v <;> rfl

/-- The first row counts the characters that are inserted. -/
theorem leastRow_nil (u v : List Char) : leastRow [] u v = List.range' u.length (v.length + 1) := by
  induction v generalizing u with
  | nil => simp [leastRow]
  | cons d v ih => rw [leastRow, ih, List.length_append, leastEdits_nil_left]; rfl

/-- A row ends with the edits to the whole text. -/
theorem getLastD_leastRow (s u v : List Char) : (leastRow s u v).getLastD 0 = leastEdits s (u ++ v) := by
  induction v generalizing u with
  | nil => simp [leastRow]
  | cons d v ih =>
    have hrest := ih (u ++ [d])
    rw [leastRow_eq_cons] at hrest
    rw [leastRow, leastRow_eq_cons s (u ++ [d]) v]
    simpa using hrest

/-- Behind the entry for `u`, the row of a text is filled to that of the text with one more character. -/
theorem fillRow_leastRow (s u v : List Char) (c : Char) :
    fillRow c (leastEdits (s ++ [c]) u) v (leastRow s u v) = (leastRow (s ++ [c]) u v).tail := by
  induction v generalizing u with
  | nil => rfl
  | cons d v ih =>
    have hrow := leastRow_eq_cons s (u ++ [d]) v
    -- The entry that is put in is that for `u ++ [d]`, and the rest is filled behind it.
    rw [leastRow, hrow, fillRow, ← hrow, ← leastEdits_concat_concat, ih, ← leastRow_eq_cons]
    rfl

/-- One step of the rows goes one character on. -/
theorem nextRow_leastRow (s t : List Char) (c : Char) : nextRow t (leastRow s [] t) c = leastRow (s ++ [c]) [] t := by
  have hfirst : (leastRow s [] t).headD 0 + 1 = leastEdits (s ++ [c]) [] := by
    rw [leastRow_eq_cons]
    simp
  rw [nextRow, hfirst, fillRow_leastRow, ← leastRow_eq_cons]

/-- The steps of the rows go through a text character by character. -/
theorem foldl_nextRow (s s' t : List Char) : s'.foldl (nextRow t) (leastRow s [] t) = leastRow (s ++ s') [] t := by
  induction s' generalizing s with
  | nil => simp
  | cons c s' ih => rw [List.foldl_cons, nextRow_leastRow, ih, List.append_assoc, List.singleton_append]

/-- The distance that two rows compute is the recursive minimum. -/
theorem editDistance_eq_leastEdits (s t : List Char) : editDistance s t = leastEdits s t := by
  have hrow : List.range (t.length + 1) = leastRow [] [] t := by
    rw [leastRow_nil, List.range_eq_range', List.length_nil]
  rw [editDistance, hrow, foldl_nextRow, getLastD_leastRow, List.nil_append, List.nil_append]

end Text

namespace Suggestion

/-! ## The nearest name -/

/-- The best candidate so far is the first at the least distance, if it is near enough. -/
theorem foldl_nearer (name : String) (candidates : List String) : candidates.foldl (nearer name) none =
    (candidates.argmin (distance name)).filter (distance name · ≤ maxDistance) := by
  induction candidates using List.reverseRecOn with
  | nil => rfl
  | append_singleton candidates c ih =>
    rw [List.foldl_append, ih, List.foldl_cons, List.foldl_nil, List.argmin_concat]
    -- A candidate that is too far away is nearer than the best so far only if that is too far away as well.
    cases candidates.argmin (distance name) with
    | none => grind [nearer, Option.filter]
    | some best => grind [nearer, Option.filter]

/-- The name that is suggested is the first of the nearest, if it is near enough. -/
theorem closest?_eq_some_iff (name c : String) :
    closest? name = some c ↔ Builtin.names.argmin (distance name) = some c ∧ distance name c ≤ maxDistance := by
  rw [closest?, foldl_nearer, Option.filter_eq_some_iff, decide_eq_true_iff]

/-- No name is suggested if and only if none is near enough. -/
theorem closest?_eq_none_iff (name : String) :
    closest? name = none ↔ ∀ c ∈ Builtin.names, maxDistance < distance name c := by
  rw [closest?, foldl_nearer, Option.filter_eq_none_iff]
  constructor
  · intro hfar c hc
    cases hbest : Builtin.names.argmin (distance name) with
    | none => simp [List.argmin_eq_none.mp hbest] at hc
    | some best =>
      have hle : distance name best ≤ distance name c := List.le_of_mem_argmin hc hbest
      have hlt : maxDistance < distance name best := by simpa using hfar best hbest
      omega
  · intro hfar best hbest
    simpa using hfar best (List.argmin_mem hbest)

/-- The distance is the least number of edits, by its recursion and among all sequences of edits, and the suggestion for a name
is the first of the built-ins at the least distance. There is none when all are farther away than three. -/
theorem closest?_nearest_within_three_edits :
    (∀ s t, Text.editDistance s t = Text.leastEdits s t ∧ IsLeast {n | Text.Edits n s t} (Text.editDistance s t)) ∧
    ∀ name,
      (∀ c, closest? name = some c ↔ Builtin.names.argmin (distance name) = some c ∧ distance name c ≤ 3) ∧
      (closest? name = none ↔ ∀ c ∈ Builtin.names, 3 < distance name c) := by
  constructor
  · intro s t
    rw [Text.editDistance_eq_leastEdits]
    exact ⟨rfl, Text.isLeast_leastEdits s t⟩
  · intro name
    exact ⟨closest?_eq_some_iff name, closest?_eq_none_iff name⟩

end Suggestion

end ConditionLang
