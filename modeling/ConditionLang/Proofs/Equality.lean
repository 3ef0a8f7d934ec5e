import Mathlib
import ConditionLang.Value.Basic

/-!
# Equality of values

The equality that `==` decides is symmetric, it is structural where no value is missing, and it is reflexive but for NaN
(`equals_symmetric_conservative`). A missing value equals the empty text and `False`, which do not equal each other, so equality
is not transitive, and it is not structural where a value is missing.

The entries of maps are compared in their order. Of maps in the ascending order of their keys, it is enough that they have as
many entries and that each entry of the one has an equal one under its key in the other (`equalEntries_iff_of_sorted`): the
keys of the one are among those of the other, so by their number they are the same, and in the same order.
-/

namespace ConditionLang

/-! ## Equality of doubles -/

namespace Number

/-- Equality of doubles is symmetric. -/
-- The laws of equality of doubles stand in no module of Mathlib; only the whole of it brings them along.
theorem beq_comm (x y : Float) : (x == y) = (y == x) := by
  rw [Bool.eq_iff_iff, Float.beq_iff_ne_nan_and_eq, Float.beq_iff_ne_nan_and_eq]
  constructor
  · rintro ⟨hx, hy, rfl | ⟨rfl, rfl⟩ | ⟨rfl, rfl⟩⟩ <;> simp_all
  · rintro ⟨hy, hx, rfl | ⟨rfl, rfl⟩ | ⟨rfl, rfl⟩⟩ <;> simp_all

/-- A double equals itself if and only if it is a number. -/
theorem beq_self (x : Float) : (x == x) = !x.isNaN := by
  rw [Float.isNaN_eq_decide_eq_nan, Bool.eq_iff_iff, Float.beq_self_iff]
  simp

end Number

namespace Value

/-! ## Values within values -/

/-- The value is a part of another one, at any depth, or the other one itself. -/
inductive OccursIn (v : Value) : Value → Prop
  | self : OccursIn v v
  | item {items : List Value} {item : Value} (h : item ∈ items) (hv : OccursIn v item) : OccursIn v (.sequence items)
  | entry {entries : List (String × Value)} {entry : String × Value} (h : entry ∈ entries) (hv : OccursIn v entry.2) :
      OccursIn v (.map entries)

/-- Whether a value is NaN, or a range with NaN for a bound. -/
def hasNaN : Value → Bool
  | .number x => x.isNaN
  | .range first last => first.isNaN || last.isNaN
  | _ => false

/-- Values have the same shape: items at the same places, the same keys in the same order, and leaves of the same kind that are
equal. -/
inductive Same : Value → Value → Prop
  | number {x y : Float} (h : (x == y) = true) : Same (.number x) (.number y)
  | truth (b : Bool) : Same (.truth b) (.truth b)
  | text (s : String) : Same (.text s) (.text s)
  | sequence {items others : List Value} (hlength : items.length = others.length)
      (h : ∀ pair ∈ items.zip others, Same pair.1 pair.2) : Same (.sequence items) (.sequence others)
  | map {entries others : List (String × Value)} (hkeys : entries.map (·.1) = others.map (·.1))
      (h : ∀ pair ∈ entries.zip others, Same pair.1.2 pair.2.2) : Same (.map entries) (.map others)
  | range {first last first' last' : Float} (hfirst : (first == first') = true) (hlast : (last == last') = true) :
      Same (.range first last) (.range first' last')
  | missing : Same .missing .missing

variable {a b : Value}

/-- A statement about all values, proved of a table from its items or from the values of its entries. -/
@[elab_as_elim]
theorem inductionOnParts {motive : Value → Prop} (number : ∀ x, motive (.number x)) (truth : ∀ b, motive (.truth b))
    (text : ∀ s, motive (.text s)) (sequence : ∀ items, (∀ item ∈ items, motive item) → motive (.sequence items))
    (map : ∀ entries : List (String × Value), (∀ entry ∈ entries, motive entry.2) → motive (.map entries))
    (range : ∀ first last, motive (.range first last)) (missing : motive .missing) (v : Value) : motive v :=
  Value.rec (motive_1 := motive) (motive_2 := fun items => ∀ item ∈ items, motive item)
    (motive_3 := fun entries => ∀ entry ∈ entries, motive entry.2) (motive_4 := fun entry => motive entry.2)
    number truth text sequence map range missing
    (List.forall_mem_nil _) (fun _ _ hitem hitems => List.forall_mem_cons.mpr ⟨hitem, hitems⟩)
    (List.forall_mem_nil _) (fun _ _ hentry hentries => List.forall_mem_cons.mpr ⟨hentry, hentries⟩)
    (fun _ _ hvalue => hvalue) v

/-! ## Symmetry -/

theorem equalItems_comm {items : List Value} (h : ∀ item ∈ items, ∀ v, item.equals v = v.equals item)
    (others : List Value) : equalItems items others = equalItems others items := by
  induction items generalizing others with
  | nil => cases others <;> rfl
  | cons item items ih =>
    obtain ⟨hitem, hitems⟩ := List.forall_mem_cons.mp h
    cases others with
    | nil => rfl
    | cons other others => rw [equalItems, equalItems, hitem, ih hitems]

theorem equalEntries_comm {entries : List (String × Value)} (h : ∀ entry ∈ entries, ∀ v, entry.2.equals v = v.equals entry.2)
    (others : List (String × Value)) : equalEntries entries others = equalEntries others entries := by
  induction entries generalizing others with
  | nil => cases others <;> rfl
  | cons entry entries ih =>
    obtain ⟨hentry, hentries⟩ := List.forall_mem_cons.mp h
    cases others with
    | nil => rfl
    | cons other others =>
      rw [equalEntries, equalEntries, hentry, ih hentries, Bool.beq_comm]

/-- Equality of values is symmetric. -/
theorem equals_comm (a b : Value) : a.equals b = b.equals a := by
  induction a using inductionOnParts generalizing b with
  | number x =>
    cases b with
    | number y => exact Number.beq_comm x y
    | _ => rfl
  | truth t =>
    cases b with
    | truth t' => exact Bool.beq_comm
    | _ => rfl
  | text s =>
    cases b with
    | text t => exact Bool.beq_comm
    | _ => rfl
  | sequence items ih =>
    cases b with
    | sequence others => exact equalItems_comm ih others
    | _ => rfl
  | map entries ih =>
    cases b with
    | map others => exact equalEntries_comm ih others
    | _ => rfl
  | range first last =>
    cases b with
    | range first' last' =>
      rw [equals, equals, Number.beq_comm first, Number.beq_comm last]
    | _ => rfl
  | missing => cases b <;> rfl

/-! ## Equality and structure -/

/-- Sequences are equal if and only if they have as many items and those at the same place are equal. -/
theorem equalItems_iff (items others : List Value) :
    equalItems items others = true ↔
      items.length = others.length ∧ ∀ pair ∈ items.zip others, pair.1.equals pair.2 = true := by
  induction items generalizing others with
  | nil => cases others <;> simp [equalItems]
  | cons item items ih =>
    cases others with
    | nil => simp [equalItems]
    | cons other others => simp [equalItems, ih others, and_left_comm]

/-- Maps are equal if and only if they have the same keys in the same order and equal values under them. -/
theorem equalEntries_iff (entries others : List (String × Value)) :
    equalEntries entries others = true ↔
      entries.map (·.1) = others.map (·.1) ∧ ∀ pair ∈ entries.zip others, pair.1.2.equals pair.2.2 = true := by
  induction entries generalizing others with
  | nil => cases others <;> simp [equalEntries]
  | cons entry entries ih =>
    cases others with
    | nil => simp [equalEntries]
    | cons other others => simp [equalEntries, ih others, and_left_comm, and_assoc]

/-- Where no value is missing, equality is structural. -/
theorem equals_iff_same (ha : ¬OccursIn .missing a) (hb : ¬OccursIn .missing b) : a.equals b = true ↔ Same a b := by
  induction a using inductionOnParts generalizing b with
  | number x =>
    cases b with
    | number y => exact ⟨.number, fun | .number h => h⟩
    | _ => exact iff_of_false nofun nofun
  | truth t =>
    cases b with
    | truth t' =>
      refine ⟨fun h => ?_, fun | .truth _ => beq_self_eq_true _⟩
      obtain rfl : t = t' := beq_iff_eq.mp h
      exact .truth t
    | missing => exact absurd .self hb
    | _ => exact iff_of_false nofun nofun
  | text s =>
    cases b with
    | text t =>
      refine ⟨fun h => ?_, fun | .text _ => beq_self_eq_true _⟩
      obtain rfl : s = t := beq_iff_eq.mp h
      exact .text s
    | missing => exact absurd .self hb
    | _ => exact iff_of_false nofun nofun
  | sequence items ih =>
    cases b with
    | sequence others =>
      have hpairs : ∀ pair ∈ items.zip others, pair.1.equals pair.2 = true ↔ Same pair.1 pair.2 := by
        intro pair hpair
        obtain ⟨hitem, hother⟩ := List.of_mem_zip hpair
        exact ih _ hitem (mt (.item hitem) ha) (mt (.item hother) hb)
      refine (equalItems_iff items others).trans ⟨fun ⟨hlength, h⟩ => ?_, fun | .sequence hlength h => ⟨hlength, ?_⟩⟩
      · exact .sequence hlength fun pair hpair => (hpairs pair hpair).mp (h pair hpair)
      · exact fun pair hpair => (hpairs pair hpair).mpr (h pair hpair)
    | _ => exact iff_of_false nofun nofun
  | map entries ih =>
    cases b with
    | map others =>
      have hpairs : ∀ pair ∈ entries.zip others, pair.1.2.equals pair.2.2 = true ↔ Same pair.1.2 pair.2.2 := by
        intro pair hpair
        obtain ⟨hentry, hother⟩ := List.of_mem_zip hpair
        exact ih _ hentry (mt (.entry hentry) ha) (mt (.entry hother) hb)
      refine (equalEntries_iff entries others).trans ⟨fun ⟨hkeys, h⟩ => ?_, fun | .map hkeys h => ⟨hkeys, ?_⟩⟩
      · exact .map hkeys fun pair hpair => (hpairs pair hpair).mp (h pair hpair)
      · exact fun pair hpair => (hpairs pair hpair).mpr (h pair hpair)
    | _ => exact iff_of_false nofun nofun
  | range first last =>
    cases b with
    | range first' last' =>
      refine Iff.trans Bool.and_eq_true_iff ⟨fun ⟨hfirst, hlast⟩ => .range hfirst hlast, ?_⟩
      exact fun | .range hfirst hlast => ⟨hfirst, hlast⟩
    | _ => exact iff_of_false nofun nofun
  | missing => exact absurd .self ha

/-! ## Reflexivity -/

theorem equalItems_self_iff (items : List Value) :
    equalItems items items = true ↔ ∀ item ∈ items, item.equals item = true := by
  induction items with
  | nil => simp [equalItems]
  | cons item items ih => simp [equalItems, ih]

theorem equalEntries_self_iff (entries : List (String × Value)) :
    equalEntries entries entries = true ↔ ∀ entry ∈ entries, entry.2.equals entry.2 = true := by
  induction entries with
  | nil => simp [equalEntries]
  | cons entry entries ih => simp [equalEntries, ih]

/-- A value equals itself unless it has NaN in it. -/
theorem equals_self_iff (a : Value) : a.equals a = true ↔ ∀ part, OccursIn part a → part.hasNaN = false := by
  induction a using inductionOnParts with
  | number x =>
    rw [equals, Number.beq_self, Bool.not_eq_true']
    exact ⟨fun h => fun | _, .self => h, fun h => h _ .self⟩
  | truth t => exact iff_of_true (beq_self_eq_true t) fun | _, .self => rfl
  | text s => exact iff_of_true (beq_self_eq_true s) fun | _, .self => rfl
  | sequence items ih =>
    refine (equalItems_self_iff items).trans ⟨fun h => ?_, fun h item hitem => ?_⟩
    · rintro part (_ | ⟨hitem, hpart⟩)
      · rfl
      · exact (ih _ hitem).mp (h _ hitem) part hpart
    · exact (ih item hitem).mpr fun part hpart => h part (.item hitem hpart)
  | map entries ih =>
    refine (equalEntries_self_iff entries).trans ⟨fun h => ?_, fun h entry hentry => ?_⟩
    · rintro part (_ | _ | ⟨hentry, hpart⟩)
      · rfl
      · exact (ih _ hentry).mp (h _ hentry) part hpart
    · exact (ih entry hentry).mpr fun part hpart => h part (.entry hentry hpart)
  | range first last =>
    rw [equals, Number.beq_self, Number.beq_self, ← Bool.not_or, Bool.not_eq_true']
    exact ⟨fun h => fun | _, .self => h, fun h => h _ .self⟩
  | missing => exact iff_of_true rfl fun | _, .self => rfl

/-! ## Maps by their keys -/

section

variable {entries others : Entries Value}

/-- In ascending order, an entry is the one that is found under its key. -/
theorem get?_eq_some_iff_of_sorted (h : entries.Sorted) {key : String} {v : Value} :
    entries.get? key = some v ↔ (key, v) ∈ entries := by
  induction entries with
  | nil => simp [Entries.get?]
  | cons first rest ih =>
    obtain ⟨hfirst, hrest⟩ := List.pairwise_cons.mp h
    obtain ⟨k, w⟩ := first
    by_cases hk : k = key
    · subst hk
      have hfresh : (k, v) ∉ rest := fun hmem => String.lt_irrefl k (hfirst _ hmem)
      simp [Entries.get?, hfresh, eq_comm]
    · have hfound : Entries.get? key ((k, w) :: rest) = Entries.get? key rest := by
        simp [Entries.get?, hk]
      rw [hfound, ih hrest]
      simp [Ne.symm hk]

/-- Ascending keys are all different. -/
theorem nodup_keys_of_sorted (h : entries.Sorted) : (entries.map (·.1)).Nodup :=
  (List.pairwise_map.mpr h).imp fun hlt => String.ne_of_lt hlt

/-- With the same keys in the same order, entries at the same place have the same key. -/
theorem key_eq_of_mem_zip (hkeys : entries.map (·.1) = others.map (·.1)) {pair : (String × Value) × (String × Value)}
    (h : pair ∈ entries.zip others) : pair.1.1 = pair.2.1 := by
  induction entries generalizing others with
  | nil => cases h
  | cons entry entries ih =>
    cases others with
    | nil => cases h
    | cons other others =>
      obtain ⟨hkey, hrest⟩ := List.cons.inj hkeys
      rcases List.mem_cons.mp h with rfl | h
      · exact hkey
      · exact ih hrest h

/-- Ascending keys of which there are as many, and which are among the others, are the others. -/
theorem keys_eq_of_subset (hentries : entries.Sorted) (hothers : others.Sorted) (hlength : entries.length = others.length)
    (hsubset : entries.map (·.1) ⊆ others.map (·.1)) : entries.map (·.1) = others.map (·.1) := by
  have hperm : (entries.map (·.1)).Perm (others.map (·.1)) := by
    refine (List.subperm_of_subset (nodup_keys_of_sorted hentries) hsubset).perm_of_length_le ?_
    rw [List.length_map, List.length_map, hlength]
  have hascending : (entries.map (·.1)).Pairwise (· < ·) := List.pairwise_map.mpr hentries
  have hascending' : (others.map (·.1)).Pairwise (· < ·) := List.pairwise_map.mpr hothers
  exact hperm.eq_of_pairwise (fun k l _ _ hlt hgt => absurd hgt (String.lt_asymm hlt)) hascending hascending'

/-- Maps in ascending order are equal if they have as many entries and every entry of the one has an equal one in the other. -/
theorem equalEntries_iff_of_sorted (hentries : entries.Sorted) (hothers : others.Sorted) :
    equalEntries entries others = true ↔
      entries.length = others.length ∧
        ∀ key v, entries.get? key = some v → ∃ w, others.get? key = some w ∧ v.equals w = true := by
  rw [equalEntries_iff]
  constructor
  · rintro ⟨hkeys, hpairs⟩
    have hlength : entries.length = others.length := by
      simpa using congrArg List.length hkeys
    refine ⟨hlength, fun key v hv => ?_⟩
    obtain ⟨i, hi, hentry⟩ := List.getElem_of_mem ((get?_eq_some_iff_of_sorted hentries).mp hv)
    have hpair : (entries[i], others[i]) ∈ entries.zip others := by
      rw [← List.getElem_zip (h := by simpa [← hlength] using hi)]
      exact List.getElem_mem _
    have hkey := key_eq_of_mem_zip hkeys hpair
    have hequal := hpairs _ hpair
    have hother : others[i] ∈ others := (List.of_mem_zip hpair).2
    rw [hentry] at hkey hequal
    refine ⟨others[i].2, (get?_eq_some_iff_of_sorted hothers).mpr ?_, hequal⟩
    rw [show key = others[i].1 from hkey]
    exact hother
  · rintro ⟨hlength, hfound⟩
    have hsubset : entries.map (·.1) ⊆ others.map (·.1) := by
      intro key hkey
      obtain ⟨entry, hentry, rfl⟩ := List.mem_map.mp hkey
      obtain ⟨w, hw, -⟩ := hfound _ _ ((get?_eq_some_iff_of_sorted hentries).mpr hentry)
      exact List.mem_map.mpr ⟨_, (get?_eq_some_iff_of_sorted hothers).mp hw, rfl⟩
    have hkeys := keys_eq_of_subset hentries hothers hlength hsubset
    refine ⟨hkeys, fun pair hpair => ?_⟩
    obtain ⟨hentry, hother⟩ := List.of_mem_zip hpair
    obtain ⟨w, hw, hequal⟩ := hfound _ _ ((get?_eq_some_iff_of_sorted hentries).mpr hentry)
    have hsame : others.get? pair.1.1 = some pair.2.2 := by
      rw [key_eq_of_mem_zip hkeys hpair]
      exact (get?_eq_some_iff_of_sorted hothers).mpr hother
    obtain rfl : w = pair.2.2 := Option.some.inj (hw.symm.trans hsame)
    exact hequal

end

/-- Equality is symmetric. Of values in which none is missing, it holds if and only if they have the same shape and equal leaves.
A value is unequal to itself if and only if NaN is in it, as a number or as a bound of a range. -/
theorem equals_symmetric_conservative (a b : Value) :
    a.equals b = b.equals a ∧
    (¬OccursIn .missing a → ¬OccursIn .missing b → (a.equals b = true ↔ Same a b)) ∧
    (a.equals a = false ↔ ∃ part, OccursIn part a ∧ part.hasNaN = true) ∧
    ∀ entries others : Entries Value, entries.Sorted → others.Sorted →
      ((map entries).equals (map others) = true ↔ entries.length = others.length ∧
        ∀ key v, entries.get? key = some v → ∃ w, others.get? key = some w ∧ v.equals w = true) := by
  refine ⟨equals_comm a b, equals_iff_same, ?_, fun _ _ => equalEntries_iff_of_sorted⟩
  rw [← Bool.not_eq_true, equals_self_iff]
  push Not
  simp only [Bool.ne_false_iff]

/-- A missing value makes equality neither structural nor transitive. -/
example : (text "").equals .missing = true ∧ missing.equals (.truth false) = true ∧ (text "").equals (.truth false) = false := by
  decide

/-- A map of a text and a sequence, and the same map with its keys written the other way round. -/
theorem equals_symmetric_conservative_of_maps :
    let entries : Entries Value := [("k", .text ""), ("l", .sequence [.truth false])]
    let others : Entries Value := .ofPairs [("l", .sequence [.truth false]), ("k", .text "")]
    (¬OccursIn .missing (map entries) ∧ ¬OccursIn .missing (map others) ∧ entries.Sorted ∧ others.Sorted) ∧
      (map entries).equals (map others) = (map others).equals (map entries) ∧ Same (map entries) (map others) ∧
      ∀ key v, entries.get? key = some v → ∃ w, others.get? key = some w ∧ v.equals w = true := by
  intro entries others
  have hothers : others = entries := by cbv
  have hmissing : ¬OccursIn .missing (map entries) := by
    rintro (_ | _ | ⟨hentry, hv⟩)
    rcases List.mem_pair.mp hentry with rfl | rfl
    · cases hv
    · rcases hv with _ | ⟨hitem, hv⟩
      obtain rfl := List.mem_singleton.mp hitem
      cases hv
  have hmissing' : ¬OccursIn .missing (map others) := hothers ▸ hmissing
  have hsorted : entries.Sorted := List.pairwise_pair.mpr (by decide)
  have hsorted' : others.Sorted := Entries.sorted_ofPairs _
  have hequal : (map entries).equals (map others) = true := by cbv
  obtain ⟨hsymmetric, hsame, -, hkeys⟩ := equals_symmetric_conservative (map entries) (map others)
  exact ⟨⟨hmissing, hmissing', hsorted, hsorted'⟩, hsymmetric, (hsame hmissing hmissing').mp hequal,
    ((hkeys entries others hsorted hsorted').mp hequal).2⟩

end Value

end ConditionLang
