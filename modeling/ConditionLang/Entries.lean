/-!
# Entries in the order of their keys

Tables, headers, query parameters and variables are lists of entries kept in ascending order of their keys, with one entry
to a key. `insert` keeps the order (`sorted_insert`), and looking up after it sees the new entry and all others as before.
-/

namespace ConditionLang

/-- Keys and values in ascending order of the keys. -/
abbrev Entries (α : Type) := List (String × α)

namespace Entries

variable {α β : Type}

/-- The value under a key. -/
def get? (key : String) (entries : Entries α) : Option α :=
  (entries.find? (·.1 == key)).map (·.2)

/-- Whether there is a value under a key. -/
def hasKey (key : String) (entries : Entries α) : Bool :=
  (entries.get? key).isSome

/-- Puts a value under a key, in place of the one that was there. -/
def insert (key : String) (value : α) : Entries α → Entries α
  | [] => [(key, value)]
  | (k, v) :: rest =>
    if key < k then (key, value) :: (k, v) :: rest
    else if key = k then (key, value) :: rest
    else (k, v) :: insert key value rest

/-- The entries of a list of pairs, of which the last under each key counts. -/
def ofPairs (pairs : List (String × α)) : Entries α :=
  pairs.foldl (fun entries (key, value) => entries.insert key value) []

/-- The entries with every value replaced. -/
def mapValues (f : α → β) (entries : Entries α) : Entries β :=
  entries.map fun (key, value) => (key, f value)

/-- Keys in ascending order, each once. -/
def Sorted (entries : Entries α) : Prop :=
  entries.Pairwise (·.1 < ·.1)

/-- An insertion is seen under its key, and nowhere else. -/
theorem get?_insert (key k : String) (value : α) (entries : Entries α) :
    (entries.insert key value).get? k = if k = key then some value else entries.get? k := by
  induction entries with
  | nil =>
    by_cases h : k = key
    · simp [insert, get?, h]
    · simp [insert, get?, h, Ne.symm h]
  | cons entry rest ih =>
    obtain ⟨k', v'⟩ := entry
    unfold insert
    by_cases h : k = key
    · subst h
      split
      · simp [get?]
      · split
        · simp [get?]
        · rename_i hne
          have : (k' == k) = false := by simpa using Ne.symm hne
          simpa [get?, this] using ih
    · have hb : (key == k) = false := by simpa using Ne.symm h
      split
      · simp [get?, hb]
      · split
        · rename_i heq
          subst heq
          simp [get?, hb]
        · by_cases hk : k' = k
          · simp [get?, hk]
          · have : (k' == k) = false := by simpa using hk
            simpa [get?, this, h] using ih

/-- An entry after an insertion is the new one or one that was there. -/
theorem mem_of_mem_insert {key : String} {value : α} {entries : Entries α} {entry : String × α}
    (h : entry ∈ entries.insert key value) : entry = (key, value) ∨ entry ∈ entries := by
  induction entries with
  | nil => exact Or.inl (by simpa [insert] using h)
  | cons first rest ih =>
    unfold insert at h
    split at h
    · simpa using h
    · split at h
      · rcases List.mem_cons.mp h with h | h
        · exact Or.inl h
        · exact Or.inr (List.mem_cons_of_mem _ h)
      · rcases List.mem_cons.mp h with h | h
        · exact Or.inr (h ▸ List.mem_cons_self)
        · exact (ih h).imp id (List.mem_cons_of_mem _)

/-- An insertion keeps the keys in ascending order. -/
theorem sorted_insert {key : String} {value : α} {entries : Entries α} (h : entries.Sorted) :
    (entries.insert key value).Sorted := by
  induction entries with
  | nil => simp [insert, Sorted]
  | cons first rest ih =>
    have hrest := List.pairwise_cons.mp h
    unfold insert
    split
    · rename_i hlt
      refine List.pairwise_cons.mpr ⟨fun entry hentry => ?_, h⟩
      rcases List.mem_cons.mp hentry with rfl | hentry
      · exact hlt
      · exact String.lt_trans hlt (hrest.1 _ hentry)
    · rename_i hlt
      split
      · rename_i heq
        exact List.pairwise_cons.mpr ⟨fun entry hentry => heq ▸ hrest.1 _ hentry, hrest.2⟩
      · rename_i hne
        have hgt : first.1 < key :=
          Decidable.byContradiction fun hge => hne (String.le_antisymm (String.not_lt.mp hge) (String.not_lt.mp hlt))
        refine List.pairwise_cons.mpr ⟨fun entry hentry => ?_, ih hrest.2⟩
        rcases mem_of_mem_insert hentry with rfl | hentry
        · exact hgt
        · exact hrest.1 _ hentry

/-- Pairs in any order make entries in the ascending order of their keys. -/
theorem sorted_ofPairs (pairs : List (String × α)) : (ofPairs pairs).Sorted := by
  suffices h : ∀ entries : Entries α, entries.Sorted →
      (pairs.foldl (fun entries (key, value) => entries.insert key value) entries).Sorted from h [] List.Pairwise.nil
  induction pairs with
  | nil => exact fun _ h => h
  | cons pair pairs ih => exact fun entries h => ih _ (sorted_insert h)

/-- A map over the values is seen under every key. -/
theorem get?_mapValues (f : α → β) (key : String) (entries : Entries α) :
    (entries.mapValues f).get? key = (entries.get? key).map f := by
  simp [get?, mapValues, List.find?_map, Function.comp_def]

end Entries

end ConditionLang
