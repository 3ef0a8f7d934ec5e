import ConditionLang.Proofs.Scopes
import ConditionLang.Proofs.Headers

/-!
# Reading a map by a key

A map is read by a key in three ways: by a step in brackets, by the key test of `contains`, and by taking it apart into names.
Only the step knows which table it starts from, and looks a key of the table of headers up in lower case; the other two see
the map as a value and take the key as it is spelled. So the three agree on every key, except on one with a capital letter in
the table of headers (`keyed_reads_agree`). There a step may find an entry while the key test fails and no name is bound,
because the keys of that table are in lower case (`NamesLower`).
-/

namespace ConditionLang

/-! ## Keys of the table of headers -/

namespace Request

/-- A text in lower case is its own form in lower case. -/
theorem toLower_toLower (s : String) : s.toLower.toLower = s.toLower := by
  rw [Text.toLower_eq_toLower_iff, Text.SameUpToCase, Text.toList_toLower, List.forall₂_map_left_iff, List.forall₂_same]
  intro c _
  rw [Text.sameLetter_iff, ← Char.toNat_inj]
  simp only [Text.toNat_toLower, Text.isUpper_iff_toNat]
  by_cases h : 65 ≤ c.toNat ∧ c.toNat ≤ 90
  · rw [if_pos h, if_neg (by omega)]
  · rw [if_neg h, if_neg h]

/-- All headers are kept under names in lower case. -/
def NamesLower (r : Request) : Prop :=
  ∀ header ∈ r.headers, header.1.toLower = header.1

/-- A header that is added is kept under a name in lower case. -/
theorem NamesLower.withHeader {r : Request} (h : r.NamesLower) (name value : String) :
    (r.withHeader name value).NamesLower := by
  intro header hheader
  rcases Entries.mem_of_mem_insert hheader with rfl | hheader
  · exact toLower_toLower name
  · exact h header hheader

/-- Headers that are added one after another are kept under names in lower case. -/
theorem NamesLower.withHeaders {r : Request} (h : r.NamesLower) (headers : List (String × String)) :
    (r.withHeaders headers).NamesLower :=
  List.foldlRecOn headers _ h fun _ h header _ => h.withHeader header.1 header.2

/-- A key with a capital letter is none of the table of headers. -/
theorem NamesLower.get?_headersTable {r : Request} (h : r.NamesLower) {entries : Entries Value}
    (hentries : r.headersTable = .map entries) {key : String} (hkey : key.toLower ≠ key) : entries.get? key = none := by
  cases hentries
  rw [Entries.get?_mapValues, Option.map_eq_none_iff, Entries.get?, Option.map_eq_none_iff, List.find?_eq_none]
  intro header hheader heq
  exact hkey (beq_iff_eq.mp heq ▸ h header hheader)

end Request

namespace Context

variable {ctx : Context} {r : Reference} {entries : Entries Value} {v : Value}

/-- The table that a reference leads to, as far as keys depend on it. -/
def scopeAt (ctx : Context) (r : Reference) : Scope :=
  match ctx.base r.name with
  | .ok (_, scope) => scope.afterSteps r.path
  | .error _ => .other

/-- A step from a value that a reference leads to looks its key up in the scope of the reference. -/
theorem lookup_step (h : ctx.lookup r = .ok v) (hv : v.isMissing = false) (access : Access) :
    ctx.lookup ⟨r.name, r.path ++ [access]⟩ = v.step access ((ctx.scopeAt r).key access) := by
  cases hbase : ctx.base r.name with
  | error e =>
    rw [lookup, hbase] at h
    cases h
  | ok start =>
    obtain ⟨w, scope⟩ := start
    have hscope : ctx.scopeAt r = scope.afterSteps r.path := by
      unfold scopeAt
      rw [hbase]
    rw [lookup_append_of_base hbase h, hscope, walk]
    simp only [hv]
    cases v.step access ((scope.afterSteps r.path).key access) <;> rfl

/-- A step into a map reads the entry under the key of the step, and nothing if there is none. -/
theorem lookup_entry (h : ctx.lookup r = .ok (.map entries)) (access : Access) :
    ctx.lookup ⟨r.name, r.path ++ [access]⟩ =
      .ok ((entries.get? ((ctx.scopeAt r).key access)).getD .missing) := by
  rw [lookup_step h rfl]
  rfl

/-- As long as the marked variables are those bound to the table of headers, only references to that table have its scope. -/
theorem namesHeaders_of_scopeAt {request : Request} (h : ctx.MarksHeaders request) (hscope : ctx.scopeAt r = .headers) :
    ctx.namesHeaders r = true := by
  by_contra hnames
  revert hscope
  unfold scopeAt
  rcases ctx.base_cases r.name with ⟨c, hname, hbase⟩ | ⟨hfree, ⟨b, hb, hbase⟩ | ⟨-, hbase⟩⟩
  · obtain ⟨name, path⟩ := r
    obtain rfl : name = c.name := hname
    have hmark : ctx.isHeaders c.name = false := by
      rw [Bool.eq_false_iff]
      intro hmark
      have hvariable := h.isVariable c.name hmark
      rw [isContextName, ContextName.ofName?_name] at hvariable
      cases hvariable
    rw [hbase]
    dsimp only
    rw [afterSteps_ofName hmark, if_neg hnames]
    split
    · intro hscope
      cases hscope
    · intro hscope
      cases hscope
  · rw [hbase]
    dsimp only
    rw [afterSteps_scopeOf hfree hb, if_neg hnames]
    intro hscope
    cases hscope
  · rw [hbase]
    intro hscope
    cases hscope

/-- Taking a map apart into a name and another one binds the name to its entry, or leaves it as it was. -/
theorem bound?_bindEntries (ctx : Context) {key other : String} (hother : other ≠ key) (entries : Entries Value) :
    (ctx.bindEntries [key, other] entries).bound? key = (entries.get? key).or (ctx.bound? key) := by
  have hfirst : ((entries.get? key).elim ctx (ctx.bind key)).bound? key = (entries.get? key).or (ctx.bound? key) := by
    cases entries.get? key with
    | none => rfl
    | some v => exact (ctx.bound?_withBinding key key ⟨v, false⟩).trans (if_pos rfl)
  show ((entries.get? other).elim ((entries.get? key).elim ctx (ctx.bind key)) _).bound? key = _
  rw [← hfirst]
  cases entries.get? other with
  | none => rfl
  | some v => exact (bound?_withBinding _ other key ⟨v, false⟩).trans (if_neg hother.symm)

end Context

namespace Expr

open Context

variable {ctx : Context} {r : Reference} {entries : Entries Value}

/-- The key test of a map that a reference leads to. -/
theorem evaluate_contains (h : ctx.lookup r = .ok (.map entries)) (key : String) :
    (method (.reference r) "contains" [.text key]).evaluate ctx = (.ok (.truth (entries.hasKey key)), ctx) := by
  rw [evaluate, Evaluation.bind_apply, evaluate_reference, h]
  simp only [evaluateItems, evaluate]
  rfl

/-- Taking a map that a reference leads to apart into two names. -/
theorem evaluate_binding_pair (h : ctx.lookup r = .ok (.map entries)) (first second : String) :
    (binding (.reference r) [first, second]).evaluate ctx =
      (.ok (.map entries), ctx.bindEntries [first, second] entries) := by
  rw [evaluate, Evaluation.bind_apply, evaluate_reference, h]
  rfl

/-- What a step in brackets finds in a map, the key test finds as well, and taking the map apart binds the key to it, unless
the map is read as the table of headers and the key has a capital letter. In every context that a fresh one becomes over a
request whose headers were inserted, the key test of such a key fails, and taking the map apart leaves the name as it was. -/
theorem keyed_reads_agree (ctx : Context) (r : Reference) (entries : Entries Value) (key other : String) (v : Value)
    (hmap : ctx.lookup r = .ok (.map entries)) (hentry : ctx.lookup ⟨r.name, r.path ++ [.index key]⟩ = .ok v)
    (hfound : v.isMissing = false) (hother : other ≠ key) :
    ((ctx.scopeAt r = .headers → key.toLower = key) →
      (method (.reference r) "contains" [.text key]).evaluate ctx = (.ok (.truth true), ctx) ∧
      ((binding (.reference r) [key, other]).evaluate ctx).1 = .ok (.map entries) ∧
      ((binding (.reference r) [key, other]).evaluate ctx).2.bound? key = some v) ∧
    ∀ callCount (request : Request) headers draws, request.headers = [] →
      Reached (ofRequest callCount (request.withHeaders headers) draws) ctx → ctx.scopeAt r = .headers →
      key.toLower ≠ key →
      (method (.reference r) "contains" [.text key]).evaluate ctx = (.ok (.truth false), ctx) ∧
      ((binding (.reference r) [key, other]).evaluate ctx).2.bound? key = ctx.bound? key := by
  rw [evaluate_contains hmap, evaluate_binding_pair hmap, bound?_bindEntries ctx hother]
  refine ⟨fun hplain => ?_, fun callCount request headers draws hempty hreached hscope hcapital => ?_⟩
  · have hkey : (ctx.scopeAt r).key (.index key) = key := by
      cases hscope : ctx.scopeAt r with
      | headers => exact hplain hscope
      | _ => rfl
    rw [lookup_entry hmap, hkey] at hentry
    cases hget : entries.get? key with
    | none =>
      rw [hget] at hentry
      cases hentry
      cases hfound
    | some w =>
      rw [hget] at hentry
      cases hentry
      rw [Entries.hasKey, hget]
      exact ⟨rfl, rfl, rfl⟩
  · have hmarks := hreached.marksHeaders (marksHeaders_ofRequest ..)
    have htable := lookup_of_namesHeaders hmarks (namesHeaders_of_scopeAt hmarks hscope)
    have hlower : request.NamesLower := by
      intro header hheader
      rw [hempty] at hheader
      cases hheader
    have hnone : entries.get? key = none :=
      (hlower.withHeaders headers).get?_headersTable (Except.ok.inj (htable.symm.trans hmap)) hcapital
    rw [Entries.hasKey, hnone]
    exact ⟨rfl, rfl⟩

/-- The header `accept`, read by its name in lower case and by a name with a capital letter. -/
theorem keyed_reads_agree_of_header :
    let request := (Request.ofTarget "GET" "/").withHeaders [("Accept", "text")]
    let ctx := ofRequest 1 request (.seeded 1)
    let read : Reference := ⟨"headers", []⟩
    ctx.lookup read = .ok (.map [("accept", .text "text")]) ∧
      ctx.lookup ⟨"headers", [.index "accept"]⟩ = .ok (.text "text") ∧
      (method (.reference read) "contains" [.text "accept"]).evaluate ctx = (.ok (.truth true), ctx) ∧
      ((binding (.reference read) ["accept", "z"]).evaluate ctx).2.bound? "accept" = some (.text "text") ∧
      ctx.lookup ⟨"headers", [.index "Accept"]⟩ = .ok (.text "text") ∧
      (method (.reference read) "contains" [.text "Accept"]).evaluate ctx = (.ok (.truth false), ctx) ∧
      ((binding (.reference read) ["Accept", "z"]).evaluate ctx).2.bound? "Accept" = none := by
  intro request ctx read
  have hlower : "Accept".toLower = "accept" := by decide +kernel
  have hmap : ctx.lookup read = .ok (.map [("accept", .text "text")]) := by
    show Except.ok (Value.map [("Accept".toLower, .text "text")]) = _
    rw [hlower]
  have hsame : "accept".toLower = "accept" := by decide +kernel
  have hsmall : ctx.lookup ⟨"headers", [.index "accept"]⟩ = .ok (.text "text") := by
    show Except.ok ((Entries.get? "accept".toLower [("Accept".toLower, Value.text "text")]).getD .missing) = _
    rw [hsame, hlower]
    rfl
  have hcapital : ctx.lookup ⟨"headers", [.index "Accept"]⟩ = .ok (.text "text") := by
    show Except.ok ((Entries.get? "Accept".toLower [("Accept".toLower, Value.text "text")]).getD .missing) = _
    rw [hlower]
    rfl
  have hscope : ctx.scopeAt read = .headers := rfl
  have hagree := (keyed_reads_agree ctx read _ "accept" "z" _ hmap hsmall rfl (by decide)).1 fun _ => by decide +kernel
  have hdiffer := (keyed_reads_agree ctx read _ "Accept" "z" _ hmap hcapital rfl (by decide)).2 1 (.ofTarget "GET" "/")
    [("Accept", "text")] (.seeded 1) rfl .start hscope (by decide +kernel)
  exact ⟨hmap, hsmall, hagree.1, hagree.2.2, hcapital, hdiffer.1, hdiffer.2⟩

/-- A header is found under a name with a capital letter by a step in brackets, but the key test of that name fails and taking
the headers apart does not bind it. -/
theorem keyed_reads_differ_of_header :
    let ctx := ofRequest 1 ((Request.ofTarget "GET" "/").withHeader "Accept" "text") (.seeded 1)
    let headers : Expr := .reference ⟨"headers", []⟩
    ((reference ⟨"headers", [.index "Accept"]⟩).evaluate ctx).1 = .ok (.text "text") ∧
      ((method headers "contains" [.text "Accept"]).evaluate ctx).1 = .ok (.truth false) ∧
      ((binding headers ["Accept", "z"]).evaluate ctx).2.bound? "Accept" = none := by
  intro ctx headers
  have hlower : "Accept".toLower = "accept" := by decide +kernel
  have hctx : ctx = ofRequest 1 { Request.ofTarget "GET" "/" with headers := [("accept", "text")] } (.seeded 1) := by
    show ofRequest 1 { Request.ofTarget "GET" "/" with headers := [("Accept".toLower, "text")] } (.seeded 1) = _
    rw [hlower]
  rw [hctx]
  refine ⟨?_, rfl, rfl⟩
  show Except.ok ((Entries.get? "Accept".toLower [("accept", Value.text "text")]).getD .missing) = _
  rw [hlower]
  rfl

end Expr

end ConditionLang
