import Mathlib.Data.List.Forall2
import ConditionLang.Proofs.Marks

/-!
# Looking up headers

The name of a header is put into lower case when it is inserted, and a key when it is looked up: by the request itself and by
each of the references that lead to a header. Lower case is the same for two texts if and only if they are the same up to the
case of the letters from A to Z (`toLower_eq_toLower_iff`), so all of these lookups give one value, that of the header inserted
last under a name that is the key up to case (`header_lookups_agree`).
-/

namespace ConditionLang

namespace Text

/-- The characters are the same, or the capital and the small form of one of the letters from A to Z. -/
def SameLetter (c d : Char) : Prop :=
  c = d ∨ c.isUpper = true ∧ d.toNat = c.toNat + 32 ∨ d.isUpper = true ∧ c.toNat = d.toNat + 32

instance (c d : Char) : Decidable (SameLetter c d) :=
  inferInstanceAs (Decidable (_ ∨ _ ∨ _))

/-- The texts are the same up to the case of the letters from A to Z. -/
def SameUpToCase (s t : String) : Prop :=
  List.Forall₂ SameLetter s.toList t.toList

instance (s t : String) : Decidable (SameUpToCase s t) :=
  inferInstanceAs (Decidable (List.Forall₂ _ _ _))

/-- The capitals are the characters with the codes 65 to 90. -/
theorem isUpper_iff_toNat (c : Char) : c.isUpper = true ↔ 65 ≤ c.toNat ∧ c.toNat ≤ 90 := by
  have hbounds : c.isUpper = true ↔ 'A'.val ≤ c.val ∧ c.val ≤ 'Z'.val := decide_eq_true_iff
  rw [hbounds, UInt32.le_iff_toNat_le, UInt32.le_iff_toNat_le]
  rfl

/-- The small form of a capital stands 32 codes later, and every other character stands for itself. -/
theorem toNat_toLower (c : Char) : c.toLower.toNat = if c.isUpper = true then c.toNat + 32 else c.toNat := by
  by_cases h : c.isUpper = true
  · have hbounds := (isUpper_iff_toNat c).mp h
    have hlower : c.toLower.val = c.val + 32 := congrArg Char.val (dif_pos (of_decide_eq_true h))
    rw [if_pos h, ← Char.toNat_val, hlower, UInt32.toNat_add, Char.toNat_val]
    exact Nat.mod_eq_of_lt (Nat.lt_of_le_of_lt (Nat.add_le_add_right hbounds.2 32) (by decide))
  · have hlower : c.toLower = c := dif_neg fun hbounds => h (decide_eq_true hbounds)
    rw [if_neg h, hlower]

/-- Characters have the same small form if and only if they are the same letter. -/
theorem sameLetter_iff (c d : Char) : SameLetter c d ↔ c.toLower = d.toLower := by
  have heq : ∀ a b : Char, a = b ↔ a.toNat = b.toNat := fun _ _ => Char.toNat_inj.symm
  rw [SameLetter, heq, heq, toNat_toLower, toNat_toLower]
  simp only [isUpper_iff_toNat]
  split <;> split <;> omega

/-- A text is put into lower case one character after another. -/
theorem toList_toLower (s : String) : s.toLower.toList = s.toList.map Char.toLower :=
  String.toList_map ..

/-- Texts have the same form in lower case if and only if they are the same up to case. -/
theorem toLower_eq_toLower_iff (s t : String) : s.toLower = t.toLower ↔ SameUpToCase s t := by
  have hletters : SameLetter = fun c d => c.toLower = d.toLower :=
    funext₂ fun c d => propext (sameLetter_iff c d)
  rw [← String.toList_inj, toList_toLower, toList_toLower, SameUpToCase, hletters, ← List.forall₂_eq_eq_eq,
    List.forall₂_map_left_iff, List.forall₂_map_right_iff]

end Text

namespace Request

/-- The request with headers inserted one after another. -/
def withHeaders (r : Request) (headers : List (String × String)) : Request :=
  headers.foldl (fun r header => r.withHeader header.1 header.2) r

/-- The value of the last of some headers whose name is the key up to case. -/
def lastNamed? (key : String) (headers : List (String × String)) : Option String :=
  (headers.reverse.find? fun header => Text.SameUpToCase header.1 key).map (·.2)

/-- A later header of the same name hides an earlier one. -/
theorem lastNamed?_cons (key : String) (header : String × String) (headers : List (String × String)) :
    lastNamed? key (header :: headers) =
      (lastNamed? key headers).or (if Text.SameUpToCase header.1 key then some header.2 else none) := by
  unfold lastNamed?
  rw [List.reverse_cons, List.find?_append, Option.map_or, List.find?_singleton]
  by_cases h : Text.SameUpToCase header.1 key
  · rw [if_pos h, if_pos (decide_eq_true h)]
    rfl
  · rw [if_neg h, if_neg (by simpa using h)]
    rfl

/-- After insertions a key leads to the last header of that name up to case, and to what was there before if there is none. -/
theorem header?_withHeaders (r : Request) (headers : List (String × String)) (key : String) :
    (r.withHeaders headers).header? key = (lastNamed? key headers).or (r.header? key) := by
  induction headers generalizing r with
  | nil => rfl
  | cons header headers ih =>
    have hname : key.toLower = header.1.toLower ↔ Text.SameUpToCase header.1 key := by
      rw [eq_comm, Text.toLower_eq_toLower_iff]
    rw [withHeaders, List.foldl_cons, ← withHeaders, ih, header?_withHeader, lastNamed?_cons, Option.or_assoc]
    simp only [hname]
    by_cases h : Text.SameUpToCase header.1 key
    · rw [if_pos h, if_pos h]
      rfl
    · rw [if_neg h, if_neg h]
      rfl

end Request

/-- The references that lead to the header of a key. -/
def Reference.headerForms (key : String) : List Reference :=
  [.property key, .index key].flatMap fun access =>
    [⟨"headers", [access]⟩, ⟨"request", [.property "headers", access]⟩, ⟨"request", [.index "headers", access]⟩]

namespace Context

variable (ctx : Context)

/-- A step into the table of headers finds what the request finds. -/
theorem walk_headersTable (walked : Reference) (access : Access) :
    walk walked ctx.request.headersTable .headers [access] =
      .ok (((ctx.request.header? access.key).map .text).getD .missing) := by
  rw [Request.headersTable, Value.ofTexts, walk_map, Entries.get?_mapValues]
  rfl

/-- Each form of a reference to a header reads the header, and nothing if there is none. -/
theorem lookup_headerForms (key : String) :
    ∀ ref ∈ Reference.headerForms key, ctx.lookup ref = .ok (((ctx.request.header? key).map .text).getD .missing) := by
  have hheaders : ∀ access, ctx.lookup ⟨"headers", [access]⟩ =
      .ok (((ctx.request.header? access.key).map .text).getD .missing) := fun access =>
    (ctx.lookup_of_base (ctx.base_contextName .headers) [access]).trans (ctx.walk_headersTable _ access)
  have hrequest : ∀ outer access, outer.key = "headers" → ctx.lookup ⟨"request", [outer, access]⟩ =
      .ok (((ctx.request.header? access.key).map .text).getD .missing) := by
    intro outer access houter
    refine (ctx.lookup_of_base (ctx.base_contextName .request) [outer, access]).trans ?_
    rw [walk, Scope.key, houter]
    · exact ctx.walk_headersTable ⟨"request", [outer]⟩ access
    · intro h
      cases h
  intro ref href
  simp only [Reference.headerForms, List.mem_flatMap, List.mem_cons, List.not_mem_nil, or_false] at href
  obtain ⟨access, rfl | rfl, rfl | rfl | rfl⟩ := href
  · exact hheaders _
  · exact hrequest _ _ rfl
  · exact hrequest _ _ rfl
  · exact hheaders _
  · exact hrequest _ _ rfl
  · exact hrequest _ _ rfl

end Context

open Request

/-- However the headers of a request were inserted, the request and all references to a header find the value of the last one
whose name is the key up to case, in every context over the request; a reference gives a missing value if there is none. -/
theorem header_lookups_agree (method path : String) (query : Entries String) (body : Value)
    (headers : List (String × String)) (key : String) (ctx : Context)
    (h : ctx.request = (Request.mk method path query [] body).withHeaders headers) :
    ctx.request.header? key = lastNamed? key headers ∧
      ∀ ref ∈ Reference.headerForms key,
        (Expr.reference ref).evaluate ctx = (.ok (((lastNamed? key headers).map .text).getD .missing), ctx) := by
  have hfound : ctx.request.header? key = lastNamed? key headers := by
    rw [h, header?_withHeaders]
    exact Option.or_none
  refine ⟨hfound, fun ref href => ?_⟩
  rw [Expr.evaluate_reference, ctx.lookup_headerForms key ref href, hfound]

/-- Two headers of the same name up to case, and one that differs in a letter that has no case here. -/
theorem header_lookups_agree_of_duplicates :
    let headers := [("X-Id", "1"), ("x-ID", "2"), ("X-É", "3")]
    let ctx := Context.ofRequest 1 ((Request.ofTarget "GET" "/").withHeaders headers) (.seeded 1)
    ctx.request = (Request.ofTarget "GET" "/").withHeaders headers ∧
      (∀ ref ∈ Reference.headerForms "X-iD", (Expr.reference ref).evaluate ctx = (.ok (.text "2"), ctx)) ∧
      ∀ ref ∈ Reference.headerForms "x-é", (Expr.reference ref).evaluate ctx = (.ok .missing, ctx) := by
  intro headers ctx
  have hlast : lastNamed? "X-iD" headers = some "2" := by decide +kernel
  have hnone : lastNamed? "x-é" headers = none := by decide +kernel
  have hfirst := (header_lookups_agree "GET" "/" [] .missing headers "X-iD" ctx rfl).2
  have hsecond := (header_lookups_agree "GET" "/" [] .missing headers "x-é" ctx rfl).2
  rw [hlast] at hfirst
  rw [hnone] at hsecond
  exact ⟨rfl, hfirst, hsecond⟩

end ConditionLang
