import ConditionLang.Proofs.KeyedReads

/-!
# Reading through bindings

A variable that is bound to the value of a reference walks the same steps from the same value as the reference does, in the
scope that its mark stands for. Only steps that look a header up can tell the two scopes apart (`headerKey?`): the reference
looks the header up in lower case, and a variable without a mark as it is spelled.

A variable has a mark only if it was bound directly to a reference that names the table of headers. Bound in turn to several
names, the table is marked under the first of them and not under the others, and the whole request is never marked. So there
a header whose name is spelled with a capital letter is missed, and everything else is read as through the reference
(`evaluate_through_bindings`).
-/

namespace ConditionLang

/-- A missing value in place of a text, or the error of a step from the one in place of that of a step from the other. -/
inductive MissesText : Except EvalError Value → Except EvalError Value → Prop where
  | value (s : String) : MissesText (.ok .missing) (.ok (.text s))
  | step (walked : Reference) (key : String) :
    MissesText (.error (.stepFromMissing walked key)) (.error (.noSuchStep key .text))

/-- Where a text is missed the results are not the same, whatever errors say about references. -/
theorem MissesText.not_sameUpToReference {result result' : Except EvalError Value} (h : MissesText result result') :
    ¬SameUpToReference result result' := by
  cases h with
  | value s => exact fun hsame => by cases hsame
  | step walked key => exact fun hsame => by cases hsame

namespace Context

variable {ctx : Context} {r : Reference}

/-- The key of a header that steps after a reference look up: the first one if the reference names the table of headers, and
the one after `headers` if it is the request itself. -/
def headerKey? (ctx : Context) (r : Reference) (steps : List Access) : Option String :=
  if ctx.namesHeaders r = true then steps.head?.map (·.key)
  else if r = ⟨ContextName.request.name, []⟩ ∧ steps.head?.map (·.key) = some ContextName.headers.name then
    steps.tail.head?.map (·.key)
  else none

/-- Steps look up the same keys from a reference as from a variable without a mark, if none is that of a header spelled with
a capital letter. -/
theorem keys_eq_keys_other {steps : List Access}
    (h : ∀ key, ctx.headerKey? r steps = some key → key.toLower = key) :
    (if ctx.namesHeaders r = true then Scope.headers else if r = ⟨ContextName.request.name, []⟩ then .request
      else .other).keys steps = Scope.other.keys steps := by
  unfold headerKey? at h
  by_cases hmark : ctx.namesHeaders r = true
  · simp only [hmark, if_true] at h ⊢
    cases steps with
    | nil => rfl
    | cons access rest =>
      show access.key.toLower :: Scope.other.keys rest = access.key :: Scope.other.keys rest
      rw [h access.key rfl]
  · simp only [hmark] at h ⊢
    by_cases hrequest : r = ⟨ContextName.request.name, []⟩
    · simp only [hrequest, true_and, if_true] at h ⊢
      refine Scope.keys_request fun first second rest hsteps hfirst => ?_
      subst hsteps
      exact h second.key (by simp [hfirst])
    · simp only [hrequest]
      rfl

/-! ## Steps into the table of headers -/

variable {request : Request}

/-- A step into the table of headers leads to what the request has under the key. -/
theorem walk_headers_cons (walked : Reference) (access : Access) (rest : List Access) :
    walk walked request.headersTable .headers (access :: rest) =
      walk ⟨walked.name, walked.path ++ [access]⟩ (((request.header? access.key).map .text).getD .missing) .other rest := by
  show walk _ (((request.headers.mapValues Value.text).get? access.key.toLower).getD .missing) .other rest = _
  rw [Entries.get?_mapValues]
  rfl

/-- A key with a capital letter leads to nothing as it is spelled. -/
theorem walk_other_cons (h : request.NamesLower) {access : Access} (hcapital : access.key.toLower ≠ access.key)
    (walked : Reference) (rest : List Access) :
    walk walked request.headersTable .other (access :: rest) =
      walk ⟨walked.name, walked.path ++ [access]⟩ .missing .other rest := by
  show walk _ (((request.headers.mapValues Value.text).get? access.key).getD .missing) .other rest = _
  rw [h.get?_headersTable rfl hcapital]
  rfl

/-- Steps from a missing value miss the text that the same steps start from. -/
theorem missesText_walk (walked walked' : Reference) (s : String) (scope : Scope) (path : List Access) :
    MissesText (walk walked .missing scope path) (walk walked' (.text s) scope path) := by
  cases path with
  | nil => exact .value s
  | cons access path => exact .step walked (scope.key access)

/-- A header whose name has a capital letter is missed as it is spelled, if there is such a header. -/
theorem walk_headersTable_apart (h : request.NamesLower) {access : Access} (hcapital : access.key.toLower ≠ access.key)
    (walked walked' : Reference) (rest : List Access) :
    (request.header? access.key = none →
      SameUpToReference (walk walked request.headersTable .other (access :: rest))
        (walk walked' request.headersTable .headers (access :: rest))) ∧
    (request.header? access.key ≠ none →
      MissesText (walk walked request.headersTable .other (access :: rest))
        (walk walked' request.headersTable .headers (access :: rest))) := by
  rw [walk_headers_cons, walk_other_cons h hcapital]
  refine ⟨fun hnone => ?_, fun hsome => ?_⟩
  · rw [hnone]
    exact walk_sameUpToReference rfl _ _ .missing
  · obtain ⟨s, hs⟩ := Option.ne_none_iff_exists'.mp hsome
    rw [hs]
    exact missesText_walk _ _ s .other rest

/-- Steps from the request that start with `headers` go on from the table of headers, in whichever scope. -/
theorem walk_table_cons (walked : Reference) {first : Access} (hfirst : first.key = ContextName.headers.name)
    (rest : List Access) :
    walk walked request.table .request (first :: rest) =
      walk ⟨walked.name, walked.path ++ [first]⟩ request.headersTable .headers rest ∧
    walk walked request.table .other (first :: rest) =
      walk ⟨walked.name, walked.path ++ [first]⟩ request.headersTable .other rest := by
  rw [walk, walk, Scope.key, Scope.key, hfirst]
  · exact ⟨rfl, rfl⟩
  · intro h
    cases h
  · intro h
    cases h

/-- A header whose name has a capital letter is missed by steps from a variable without a mark, and found by the same steps
from the reference that the variable was bound to, if there is such a header. -/
theorem walk_apart_of_headerKey (hmarks : ctx.MarksHeaders request) (hlower : request.NamesLower) {v : Value}
    (h : ctx.lookup r = .ok v) {steps : List Access} {key : String} (hkey : ctx.headerKey? r steps = some key)
    (hcapital : key.toLower ≠ key) (walked walked' : Reference) :
    let bound := walk walked v .other steps
    let direct := walk walked' v (if ctx.namesHeaders r = true then .headers
      else if r = ⟨ContextName.request.name, []⟩ then .request else .other) steps
    (request.header? key = none → SameUpToReference bound direct) ∧
      (request.header? key ≠ none → MissesText bound direct) := by
  intro bound direct
  unfold headerKey? at hkey
  by_cases hmark : ctx.namesHeaders r = true
  · rw [if_pos hmark] at hkey
    obtain ⟨access, hfirst, rfl⟩ := Option.map_eq_some_iff.mp hkey
    obtain ⟨rest, rfl⟩ := List.head?_eq_some_iff.mp hfirst
    obtain rfl : request.headersTable = v := Except.ok.inj ((lookup_of_namesHeaders hmarks hmark).symm.trans h)
    have hdirect : direct = walk walked' request.headersTable .headers (access :: rest) := by
      simp only [direct, hmark, if_true]
    rw [hdirect]
    exact walk_headersTable_apart hlower hcapital walked walked' rest
  · rw [if_neg hmark] at hkey
    obtain ⟨⟨rfl, hfirst⟩, hnext⟩ := Option.ite_none_right_eq_some.mp hkey
    obtain ⟨first, hhead, hname⟩ := Option.map_eq_some_iff.mp hfirst
    obtain ⟨tail, rfl⟩ := List.head?_eq_some_iff.mp hhead
    obtain ⟨access, hsecond, rfl⟩ := Option.map_eq_some_iff.mp hnext
    obtain ⟨rest, rfl⟩ := List.head?_eq_some_iff.mp hsecond
    have hvalue : request.table = v := by
      rw [← hmarks.sameRequest]
      exact Except.ok.inj ((ctx.lookup_contextName .request).symm.trans h)
    have hdirect : direct = walk walked' v .request (first :: access :: rest) := by
      simp only [direct, hmark]
      rfl
    rw [hdirect]
    subst hvalue
    rw [(walk_table_cons walked' hname _).1]
    show (_ → SameUpToReference (walk walked request.table .other (first :: access :: rest)) _) ∧
      (_ → MissesText (walk walked request.table .other (first :: access :: rest)) _)
    rw [(walk_table_cons walked hname _).2]
    exact walk_headersTable_apart hlower hcapital _ _ rest

end Context

namespace Expr

open Context

variable {ctx ctx' : Context} {v : Value}

/-- The value of a reference bound to one name after another, `r >> t >> u`. -/
def bindInTurn (r : Reference) (names : List String) : Expr :=
  names.foldl (fun e name => .binding e [name]) (.reference r)

/-- Names that a binding is bound to in turn are bound to its value, without a mark. -/
theorem evaluate_foldl_binding {value : Expr} {bound : List String}
    (h : (binding value bound).evaluate ctx = (.ok v, ctx')) (names : List String) :
    (names.foldl (fun e name => binding e [name]) (.binding value bound)).evaluate ctx =
      (.ok v, names.foldl (fun ctx name => ctx.withBinding name ⟨v, false⟩) ctx') := by
  induction names generalizing value bound ctx' with
  | nil => exact h
  | cons name names ih => exact ih (evaluate_binding_binding h name)

/-- Of the names that a binding is given, each reads the binding, and the other names what they read before. -/
theorem get?_foldl_withBinding (ctx : Context) (b : Binding) (names : List String) (k : String) :
    (names.foldl (fun ctx name => ctx.withBinding name b) ctx).bindings.get? k =
      if k ∈ names then some b else ctx.bindings.get? k := by
  induction names generalizing ctx with
  | nil => rfl
  | cons name names ih =>
    rw [List.foldl_cons, ih, Context.get?_withBinding]
    by_cases hk : k ∈ names
    · simp [hk]
    · simp [hk]

/-- Bound in turn, every name has the value of the reference; the first one is marked if the reference names the headers. -/
theorem get?_bindInTurn {r : Reference} (h : ctx.lookup r = .ok v) {names : List String} (hdistinct : names.Nodup) {i : Nat}
    (hi : i < names.length) :
    ((bindInTurn r names).evaluate ctx).1 = .ok v ∧
      ((bindInTurn r names).evaluate ctx).2.bindings.get? names[i] = some ⟨v, i == 0 && ctx.namesHeaders r⟩ := by
  cases names with
  | nil => cases hi
  | cons name names =>
    have hturn : (bindInTurn r (name :: names)).evaluate ctx = (.ok v,
        names.foldl (fun ctx name => ctx.withBinding name ⟨v, false⟩) (ctx.withBinding name ⟨v, ctx.namesHeaders r⟩)) :=
      evaluate_foldl_binding (evaluate_binding_reference h name) names
    obtain ⟨hfirst, -⟩ := List.nodup_cons.mp hdistinct
    rw [hturn]
    refine ⟨rfl, ?_⟩
    rw [get?_foldl_withBinding]
    cases i with
    | zero =>
      rw [List.getElem_cons_zero, if_neg hfirst, Context.get?_withBinding, if_pos rfl]
      rfl
    | succ i =>
      rw [List.getElem_cons_succ, if_pos (List.getElem_mem _)]
      rfl

/-- After a reference has been bound to names in turn, the steps of each name and of the reference start from one value, the
name in the scope of its mark and the reference in the one that it has led to. -/
theorem evaluate_bindInTurn (hctx : ctx.BindsNoContextName) {r : Reference} (h : ctx.lookup r = .ok v) {names : List String}
    (hdistinct : names.Nodup) (hnames : ∀ name ∈ names, isContextName name = false) {i : Nat} (hi : i < names.length)
    (steps : List Access) :
    ((reference ⟨names[i], steps⟩).evaluate ((bindInTurn r names).evaluate ctx).2).1 =
      walk ⟨names[i], []⟩ v (if i = 0 ∧ ctx.namesHeaders r = true then .headers else .other) steps ∧
    ((reference ⟨r.name, r.path ++ steps⟩).evaluate ctx).1 =
      walk r v (if ctx.namesHeaders r = true then .headers
        else if r = ⟨ContextName.request.name, []⟩ then .request else .other) steps := by
  have hbase := base_variable _ (hnames _ (List.getElem_mem hi)) (get?_bindInTurn h hdistinct hi).2
  rw [evaluate_reference, lookup_of_base _ hbase, evaluate_reference, lookup_append hctx h]
  simp [scopeOf]

/-- After a reference has been bound to names in turn, each name followed by some steps reads like the reference followed by
them: it gives the same value, or the same error except for the reference that an error about a missing value names. This is
so if the name is marked or the header that the steps look up, if any, is spelled in lower case. In every context that a
fresh one becomes over a request whose headers were inserted, it is so exactly if the name is marked, the header is spelled
in lower case or there is no such header; else the name misses the text that the reference finds. -/
theorem evaluate_through_bindings (ctx : Context) (hctx : ctx.BindsNoContextName) (r : Reference) (v : Value)
    (h : ctx.lookup r = .ok v) (names : List String) (hdistinct : names.Nodup)
    (hnames : ∀ name ∈ names, isContextName name = false) (i : Nat) (hi : i < names.length) (steps : List Access) :
    let chain := (bindInTurn r names).evaluate ctx
    let bound := ((reference ⟨names[i], steps⟩).evaluate chain.2).1
    let direct := ((reference ⟨r.name, r.path ++ steps⟩).evaluate ctx).1
    let marked := i = 0 ∧ ctx.namesHeaders r = true
    chain.1 = .ok v ∧
      ((∀ key, ctx.headerKey? r steps = some key → marked ∨ key.toLower = key) → SameUpToReference bound direct) ∧
      ∀ callCount (request : Request) headers draws, request.headers = [] →
        Reached (ofRequest callCount (request.withHeaders headers) draws) ctx →
        let agree := ∀ key, ctx.headerKey? r steps = some key →
          marked ∨ key.toLower = key ∨ ctx.request.header? key = none
        (SameUpToReference bound direct ↔ agree) ∧ (¬agree → MissesText bound direct) := by
  intro chain bound direct marked
  obtain ⟨hbound, hdirect⟩ := evaluate_bindInTurn hctx h hdistinct hnames hi steps
  have hmarked : marked → bound = walk ⟨names[i], []⟩ v .headers steps := fun hmark =>
    hbound.trans (by rw [if_pos hmark])
  have hunmarked : ¬marked → bound = walk ⟨names[i], []⟩ v .other steps := fun hplain =>
    hbound.trans (by rw [if_neg hplain])
  have hsmall : (∀ key, ctx.headerKey? r steps = some key → marked ∨ key.toLower = key) →
      SameUpToReference bound direct := by
    intro hkeys
    by_cases hmark : marked
    · rw [hmarked hmark, show direct = _ from hdirect, if_pos hmark.2]
      exact walk_sameUpToReference rfl _ _ v
    · rw [hunmarked hmark, show direct = _ from hdirect]
      exact walk_sameUpToReference (keys_eq_keys_other fun key hkey => (hkeys key hkey).resolve_left hmark).symm _ _ v
  refine ⟨(get?_bindInTurn h hdistinct hi).1, hsmall, fun callCount request headers draws hempty hreached => ?_⟩
  intro agree
  have hmarks := hreached.marksHeaders (marksHeaders_ofRequest ..)
  have hlower : (request.withHeaders headers).NamesLower :=
    Request.NamesLower.withHeaders (fun header hheader => absurd hheader (hempty ▸ List.not_mem_nil)) headers
  have hapart : ∀ key, ctx.headerKey? r steps = some key → ¬marked → key.toLower ≠ key →
      (ctx.request.header? key = none → SameUpToReference bound direct) ∧
        (ctx.request.header? key ≠ none → MissesText bound direct) := by
    intro key hkey hmark hcapital
    rw [hunmarked hmark, show direct = _ from hdirect, hmarks.sameRequest]
    exact walk_apart_of_headerKey hmarks hlower h hkey hcapital _ _
  have hmisses : ¬agree → MissesText bound direct := by
    intro hnot
    simp only [agree, not_forall, not_or] at hnot
    obtain ⟨key, hkey, hmark, hcapital, hfound⟩ := hnot
    exact (hapart key hkey hmark hcapital).2 hfound
  refine ⟨⟨fun hsame => ?_, fun hagree => ?_⟩, hmisses⟩
  · by_contra hnot
    exact (hmisses hnot).not_sameUpToReference hsame
  · by_cases hkeys : ∀ key, ctx.headerKey? r steps = some key → marked ∨ key.toLower = key
    · exact hsmall hkeys
    · simp only [not_forall, not_or] at hkeys
      obtain ⟨key, hkey, hmark, hcapital⟩ := hkeys
      exact (hapart key hkey hmark hcapital).1 (((hagree key hkey).resolve_left hmark).resolve_left hcapital)

/-- The headers bound to two names in turn: the first finds a header in another case, the second misses it, and finds it in
lower case. -/
theorem evaluate_through_bindings_headers :
    let request := (Request.ofTarget "GET" "/").withHeaders [("X-Id", "7")]
    let ctx := ofRequest 1 request (.seeded 1)
    let chain := (bindInTurn ⟨"headers", []⟩ ["t", "u"]).evaluate ctx
    let read := fun name key => ((reference ⟨name, [.index key]⟩).evaluate chain.2).1
    let direct := fun key => ((reference ⟨"headers", [.index key]⟩).evaluate ctx).1
    ctx.BindsNoContextName ∧ ctx.lookup ⟨"headers", []⟩ = .ok request.headersTable ∧
      chain.1 = .ok request.headersTable ∧ SameUpToReference (read "t" "X-ID") (direct "X-ID") ∧
      SameUpToReference (read "u" "x-id") (direct "x-id") ∧ MissesText (read "u" "X-ID") (direct "X-ID") := by
  intro request ctx chain read direct
  have hctx : ctx.BindsNoContextName := fun _ _ => rfl
  have hheaders : ctx.lookup ⟨"headers", []⟩ = .ok request.headersTable := ctx.lookup_contextName .headers
  have hread := fun i hi key => evaluate_through_bindings ctx hctx ⟨"headers", []⟩ _ hheaders ["t", "u"] (by decide)
    (by decide) i hi [.index key]
  have hfirst := (hread 0 (by decide) "X-ID").2.1 fun _ _ => .inl ⟨rfl, rfl⟩
  have hsmall := (hread 1 (by decide) "x-id").2.1 fun key hkey => .inr <| by
    obtain rfl : "x-id" = key := Option.some.inj hkey
    decide +kernel
  have hname : "X-Id".toLower = "x-id" := by decide +kernel
  have hkey : "X-ID".toLower = "x-id" := by decide +kernel
  have hfound : ctx.request.header? "X-ID" = some "7" := by
    show Entries.get? "X-ID".toLower [("X-Id".toLower, "7")] = some "7"
    rw [hname, hkey]
    rfl
  obtain ⟨-, hmissed⟩ := (hread 1 (by decide) "X-ID").2.2 1 (.ofTarget "GET" "/") [("X-Id", "7")] (.seeded 1) rfl .start
  refine ⟨hctx, hheaders, (hread 0 (by decide) "X-ID").1, hfirst, hsmall, hmissed fun hagree => ?_⟩
  rcases hagree "X-ID" rfl with ⟨hi, -⟩ | hcase | hnone
  · cases hi
  · exact absurd hcase (by decide +kernel)
  · cases hfound.symm.trans hnone

/-- A header is not read in another case through the request as a variable, nor through the second name that the headers are
bound to. -/
theorem missing_through_bindings :
    let ctx := Context.ofRequest 1 ((Request.ofTarget "GET" "/").withHeader "X-Id" "7") (.seeded 1)
    ctx.BindsNoContextName ∧
      ((reference ⟨"request", [.property "headers", .index "X-Id"]⟩).evaluate ctx).1 = .ok (.text "7") ∧
      ((reference ⟨"t", [.property "headers", .index "X-Id"]⟩).evaluate
        ((bindInTurn ⟨"request", []⟩ ["t"]).evaluate ctx).2).1 = .ok .missing ∧
      ((reference ⟨"headers", [.index "X-Id"]⟩).evaluate ctx).1 = .ok (.text "7") ∧
      ((reference ⟨"u", [.index "X-Id"]⟩).evaluate ((bindInTurn ⟨"headers", []⟩ ["t", "u"]).evaluate ctx).2).1 =
        .ok .missing := by
  intro ctx
  have hlower : "X-Id".toLower = "x-id" := by decide +kernel
  have hctx : ctx = ofRequest 1 { Request.ofTarget "GET" "/" with headers := [("x-id", "7")] } (.seeded 1) := by
    show ofRequest 1 { Request.ofTarget "GET" "/" with headers := [("X-Id".toLower, "7")] } (.seeded 1) = _
    rw [hlower]
  have hfound : (Entries.get? "X-Id".toLower [("x-id", Value.text "7")]).getD .missing = .text "7" := by
    rw [hlower]
    rfl
  rw [hctx]
  exact ⟨fun _ _ => rfl, congrArg Except.ok hfound, rfl, congrArg Except.ok hfound, rfl⟩

end Expr

end ConditionLang
