import ConditionLang.Proofs.Equality
import ConditionLang.Request

/-!
# Maps in the order of their keys

The type of values does not say that the keys of a map are in ascending order: a map is a list of entries inside the type that
it is a part of, and cannot carry a proof about them. `Value.Sorted` says it of a value at every depth. A map that is made by
insertions has its keys in order, so the tables of a request have, and so has whatever is read from JSON (`Json.sorted_of_read?`).

Equality compares the entries of maps in their order. Of values in order it is the same as comparing the numbers of entries and
looking each key up (`equals_eq_equalsByKey`).
-/

namespace ConditionLang

namespace Entries

variable {α β : Type} {entries : Entries α}

/-- What is found under a key is an entry. -/
theorem mem_of_get? {key : String} {v : α} (h : entries.get? key = some v) : (key, v) ∈ entries := by
  obtain ⟨entry, hentry, rfl⟩ := Option.map_eq_some_iff.mp h
  obtain rfl : entry.1 = key := by simpa using List.find?_some hentry
  exact List.mem_of_find?_eq_some hentry

/-- The entries of a list of pairs are some of the pairs. -/
theorem mem_of_mem_ofPairs {pairs : List (String × α)} {entry : String × α} (h : entry ∈ ofPairs pairs) : entry ∈ pairs := by
  have hpairs : ∀ entry ∈ ofPairs pairs, entry ∈ pairs := by
    refine List.foldlRecOn (motive := fun entries => ∀ entry ∈ entries, entry ∈ pairs) pairs _ ?_ ?_
    · exact fun _ h => absurd h List.not_mem_nil
    · intro entries hentries pair hpair entry hentry
      rcases mem_of_mem_insert hentry with rfl | hentry
      · exact hpair
      · exact hentries entry hentry
  exact hpairs entry h

/-- A map over the values keeps the keys in order. -/
theorem sorted_mapValues (f : α → β) (h : entries.Sorted) : (entries.mapValues f).Sorted :=
  List.pairwise_map.mpr h

end Entries

namespace Value

/-- Every map in the value, at any depth, has its keys in ascending order. -/
def Sorted (v : Value) : Prop :=
  ∀ entries, OccursIn (.map entries) v → Entries.Sorted entries

/-- A value without entries is sorted. -/
theorem sorted_of_isTable {v : Value} (h : v.isTable = false) : v.Sorted := by
  intro entries hoccurs
  cases hoccurs with
  | self => cases h
  | item => cases h
  | entry => cases h

/-- A sequence is sorted if and only if its items are. -/
theorem sorted_sequence_iff {items : List Value} : (sequence items).Sorted ↔ ∀ item ∈ items, item.Sorted := by
  constructor
  · exact fun h item hitem entries hoccurs => h entries (.item hitem hoccurs)
  · rintro h entries (_ | ⟨hitem, hoccurs⟩)
    exact h _ hitem entries hoccurs

/-- A map is sorted if and only if its keys ascend and its values are sorted. -/
theorem sorted_map_iff {entries : List (String × Value)} :
    (map entries).Sorted ↔ Entries.Sorted entries ∧ ∀ entry ∈ entries, entry.2.Sorted := by
  constructor
  · exact fun h => ⟨h entries .self, fun entry hentry inner hoccurs => h inner (.entry hentry hoccurs)⟩
  · rintro ⟨hself, h⟩ inner (_ | _ | ⟨hentry, hoccurs⟩)
    · exact hself
    · exact h _ hentry inner hoccurs

/-- A map of texts in the order of its keys is sorted. -/
theorem sorted_ofTexts {texts : Entries String} (h : texts.Sorted) : (ofTexts texts).Sorted := by
  refine sorted_map_iff.mpr ⟨Entries.sorted_mapValues _ h, fun entry hentry => ?_⟩
  obtain ⟨_, -, rfl⟩ := List.mem_map.mp hentry
  exact sorted_of_isTable rfl

/-- Pairs with sorted values, in any order, make a sorted map. -/
theorem sorted_ofPairs {pairs : List (String × Value)} (h : ∀ pair ∈ pairs, pair.2.Sorted) :
    (map (Entries.ofPairs pairs)).Sorted :=
  sorted_map_iff.mpr ⟨Entries.sorted_ofPairs pairs, fun entry hentry => h entry (Entries.mem_of_mem_ofPairs hentry)⟩

/-! ## Equality by keys -/

mutual

/-- Equality that compares maps by their numbers of entries and by what the keys of the one lead to in the other. -/
def equalsByKey : Value → Value → Bool
  | .sequence items, .sequence others => itemsEqualByKey items others
  | .map entries, .map others => entries.length == others.length && entriesFoundIn others entries
  | a, b => a.equals b

/-- Whether sequences have equal items at every place. -/
def itemsEqualByKey : List Value → List Value → Bool
  | [], [] => true
  | item :: items, other :: others => item.equalsByKey other && itemsEqualByKey items others
  | _, _ => false

/-- Whether each entry has an equal one under its key in the others. -/
def entriesFoundIn (others : List (String × Value)) : List (String × Value) → Bool
  | [] => true
  | (key, value) :: entries =>
    (match Entries.get? key others with
      | some other => value.equalsByKey other
      | none => false) && entriesFoundIn others entries

end

/-- Sequences are compared alike if their items are. -/
theorem itemsEqualByKey_eq {items : List Value} (others : List Value)
    (h : ∀ item ∈ items, ∀ other ∈ others, item.equals other = item.equalsByKey other) :
    equalItems items others = itemsEqualByKey items others := by
  induction items generalizing others with
  | nil => cases others <;> rfl
  | cons item items ih =>
    cases others with
    | nil => rfl
    | cons other others =>
      have hrest := ih others fun item hitem other hother => h item (.tail _ hitem) other (.tail _ hother)
      rw [equalItems, itemsEqualByKey, h item List.mem_cons_self other List.mem_cons_self, hrest]

/-- Entries are found in others if and only if each has an equal value under its key there. -/
theorem entriesFoundIn_iff (others entries : List (String × Value)) :
    entriesFoundIn others entries = true ↔
      ∀ entry ∈ entries, ∃ w, Entries.get? entry.1 others = some w ∧ entry.2.equalsByKey w = true := by
  induction entries with
  | nil => simp [entriesFoundIn]
  | cons entry entries ih =>
    rw [entriesFoundIn, Bool.and_eq_true_iff, ih, List.forall_mem_cons]
    refine and_congr_left fun _ => ?_
    cases Entries.get? entry.1 others with
    | none => simp
    | some w => simp

/-- Of values with their maps in order, equality is equality by keys. -/
theorem equals_eq_equalsByKey {a b : Value} (ha : a.Sorted) (hb : b.Sorted) : a.equals b = a.equalsByKey b := by
  induction a using inductionOnParts generalizing b with
  | sequence items ih =>
    cases b with
    | sequence others =>
      have hitems := sorted_sequence_iff.mp ha
      have hothers := sorted_sequence_iff.mp hb
      exact itemsEqualByKey_eq others fun item hitem other hother => ih item hitem (hitems item hitem) (hothers other hother)
    | _ => rfl
  | map entries ih =>
    cases b with
    | map others =>
      obtain ⟨hentries, hvalues⟩ := sorted_map_iff.mp ha
      obtain ⟨hothers, hvalues'⟩ := sorted_map_iff.mp hb
      have hfound : entriesFoundIn others entries = true ↔ ∀ key v, Entries.get? key entries = some v →
          ∃ w, Entries.get? key others = some w ∧ v.equals w = true := by
        rw [entriesFoundIn_iff]
        constructor
        · intro h key v hv
          have hentry := Entries.mem_of_get? hv
          obtain ⟨w, hw, hequal⟩ := h _ hentry
          exact ⟨w, hw, (ih _ hentry (hvalues _ hentry) (hvalues' _ (Entries.mem_of_get? hw))).trans hequal⟩
        · intro h entry hentry
          obtain ⟨w, hw, hequal⟩ := h _ _ ((get?_eq_some_iff_of_sorted hentries).mpr hentry)
          exact ⟨w, hw, (ih _ hentry (hvalues _ hentry) (hvalues' _ (Entries.mem_of_get? hw))).symm.trans hequal⟩
      rw [Bool.eq_iff_iff, equalsByKey, Bool.and_eq_true_iff, beq_iff_eq, hfound]
      exact equalEntries_iff_of_sorted hentries hothers
    | _ => rfl
  | _ => cases b <;> rfl

end Value

/-! ## Values from outside -/

namespace Json

/-- What holds of every value that is read for an element holds of all elements. -/
theorem forall_of_elements? {α : Type} {P : α → Prop} {close : Char} {element : (s : List Char) → Option (Taken s.length α)}
    (h : ∀ s t, element s = some t → P t.value) (s : List Char) (t : Taken s.length (List α))
    (ht : elements? close element s = some t) : ∀ a ∈ t.value, P a := by
  fun_induction elements? close element s with
  | case1 => cases ht
  | case2 s first hfirst =>
    cases ht
    simpa using h _ _ hfirst
  | case3 s first hfirst _ _ _ _ _ _ _ ih =>
    obtain ⟨others, hothers, rfl⟩ := Option.map_eq_some_iff.mp ht
    intro a ha
    rcases List.mem_cons.mp ha with rfl | ha
    · exact h _ _ hfirst
    · exact ih others hothers a ha
  | case4 => cases ht
  | case5 => cases ht

/-- What holds of each element that is read holds of all elements between the marks. -/
theorem forall_of_elementsOrNone? {α : Type} {P : α → Prop} {close : Char}
    {element : (s : List Char) → Option (Taken s.length α)} (h : ∀ s t, element s = some t → P t.value) {s : List Char}
    {t : Taken (s.length + 1) (List α)} (ht : elementsOrNone? close element s = some t) : ∀ a ∈ t.value, P a := by
  unfold elementsOrNone? at ht
  split at ht
  · split at ht
    · cases ht
      exact List.forall_mem_nil _
    · obtain ⟨elements, helements, rfl⟩ := Option.map_eq_some_iff.mp ht
      exact forall_of_elements? h s elements helements
  · cases ht

/-- A member that is read has a sorted value. -/
theorem sorted_of_member? {value : (s : List Char) → Option (Taken s.length Value)}
    (h : ∀ s t, value s = some t → t.value.Sorted) {s : List Char} {t : Taken s.length (String × Value)}
    (ht : member? value s = some t) : t.value.2.Sorted := by
  unfold member? at ht
  split at ht
  · split at ht
    · cases ht
    · dsimp only at ht
      split at ht
      · obtain ⟨found, hfound, rfl⟩ := Option.map_eq_some_iff.mp ht
        exact h _ _ hfound
      · cases ht
  · cases ht

/-- A value that is neither an array nor an object has no maps in it. -/
theorem sorted_of_scalar? {s : List Char} {t : Taken s.length Value} (h : scalar? s = some t) : t.value.Sorted := by
  refine Value.sorted_of_isTable ?_
  unfold scalar? at h
  split at h
  · cases h
    rfl
  · cases h
    rfl
  · cases h
    rfl
  · obtain ⟨text, -, rfl⟩ := Option.map_eq_some_iff.mp h
    rfl
  · split at h
    · obtain ⟨x, -, rfl⟩ := Option.map_eq_some_iff.mp h
      rfl
    · cases h
  · cases h

/-- Every value that is read is sorted. -/
theorem sorted_of_value? (depth : Nat) (s : List Char) (t : Taken s.length Value) (h : value? depth s = some t) :
    t.value.Sorted := by
  induction depth generalizing s with
  | zero => exact sorted_of_scalar? h
  | succ depth ih =>
    unfold value? at h
    split at h
    · obtain ⟨items, hitems, rfl⟩ := Option.map_eq_some_iff.mp h
      exact Value.sorted_sequence_iff.mpr (forall_of_elementsOrNone? ih hitems)
    · obtain ⟨members, hmembers, rfl⟩ := Option.map_eq_some_iff.mp h
      exact Value.sorted_ofPairs (forall_of_elementsOrNone? (fun _ _ => sorted_of_member? ih) hmembers)
    · exact sorted_of_scalar? h

/-- The value of a JSON document has its maps in order. -/
theorem sorted_of_read? {s : List Char} {v : Value} (h : read? s = some v) : v.Sorted := by
  unfold read? at h
  split at h
  · rename_i t ht
    split at h
    · cases h
      exact sorted_of_value? 127 _ t ht
    · cases h
  · cases h

end Json

/-- The tables of a request are in order: its headers, its query parameters, and the maps in its body. -/
structure Request.Sorted (r : Request) : Prop where
  headers : Entries.Sorted r.headers
  query : Entries.Sorted r.query
  body : r.body.Sorted

namespace Request

variable {r : Request}

/-- A request without headers, parameters and body is sorted. -/
theorem sorted_ofTarget (method path : String) : (ofTarget method path).Sorted :=
  ⟨List.Pairwise.nil, List.Pairwise.nil, Value.sorted_of_isTable rfl⟩

theorem Sorted.withHeader (h : r.Sorted) (name value : String) : (r.withHeader name value).Sorted :=
  ⟨Entries.sorted_insert h.headers, h.query, h.body⟩

theorem Sorted.withQuery (h : r.Sorted) (key value : String) : (r.withQuery key value).Sorted :=
  ⟨h.headers, Entries.sorted_insert h.query, h.body⟩

theorem Sorted.withBody (h : r.Sorted) {body : Value} (hbody : body.Sorted) : (r.withBody body).Sorted :=
  ⟨h.headers, h.query, hbody⟩

/-- A body that may be JSON has its maps in order. -/
theorem sorted_bodyOfText (text : String) : (bodyOfText text).Sorted := by
  unfold bodyOfText
  cases hread : Json.read? text.toList with
  | none => exact Value.sorted_of_isTable rfl
  | some v => exact Json.sorted_of_read? hread

/-- The table of a sorted request is sorted. -/
theorem Sorted.table (h : r.Sorted) : r.table.Sorted := by
  refine Value.sorted_map_iff.mpr ⟨?_, ?_⟩
  · show List.Pairwise _ _
    simp only [List.pairwise_cons, List.forall_mem_cons, List.not_mem_nil, false_imp_iff, implies_true, and_true,
      List.Pairwise.nil]
    decide
  · simp only [List.forall_mem_cons, List.not_mem_nil, false_imp_iff, implies_true, and_true]
    exact ⟨h.body, Value.sorted_ofTexts h.headers, Value.sorted_of_isTable rfl, Value.sorted_of_isTable rfl,
      Value.sorted_ofTexts h.query⟩

end Request

end ConditionLang
