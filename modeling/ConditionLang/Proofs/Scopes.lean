import ConditionLang.Proofs.Bindings

/-!
# Scopes of references

A reference followed by further steps walks on from its value, in the scope that its own steps have led to (`walk_append`).
Only the name of the table of headers, in one of its forms, leads to the scope of that table, and only the request itself to
that of the request (`lookup_append`). Walks from one value in two scopes agree as long as both scopes look up the same keys
(`walk_sameUpToReference`).
-/

namespace ConditionLang

/-- The same result, except that errors about a missing value may name different references. -/
inductive SameUpToReference : Except EvalError Value → Except EvalError Value → Prop where
  | same (result : Except EvalError Value) : SameUpToReference result result
  | fromMissing (walked walked' : Reference) (key : String) :
    SameUpToReference (.error (.stepFromMissing walked key)) (.error (.stepFromMissing walked' key))

namespace Scope

/-- The scope after some steps. -/
def afterSteps (scope : Scope) (path : List Access) : Scope :=
  path.foldl (fun scope access => scope.after (scope.key access)) scope

/-- The keys that steps look up, one after another. -/
def keys (scope : Scope) : List Access → List String
  | [] => []
  | access :: path => scope.key access :: (scope.after (scope.key access)).keys path

/-- From the request, the key of the headers leads to their table, and any other key to a plain value. -/
theorem after_request (key : String) :
    request.after key = if key = ContextName.headers.name then headers else other := rfl

/-- From a plain value, all steps lead to plain values. -/
theorem afterSteps_other (path : List Access) : other.afterSteps path = .other := by
  induction path with
  | nil => rfl
  | cons access path ih => exact ih

/-- From the table of headers, a step leads to a plain value. -/
theorem afterSteps_headers {path : List Access} (h : path ≠ []) : headers.afterSteps path = .other := by
  cases path with
  | nil => exact absurd rfl h
  | cons access path => exact afterSteps_other path

/-- From the request, only the step to the headers leads to their table. -/
theorem afterSteps_request_cons (access : Access) (path : List Access) :
    request.afterSteps (access :: path) =
      if access.key = ContextName.headers.name ∧ path = [] then .headers else .other := by
  show (request.after access.key).afterSteps path = _
  rw [after_request]
  by_cases hkey : access.key = ContextName.headers.name
  · rw [if_pos hkey]
    by_cases hpath : path = []
    · rw [if_pos ⟨hkey, hpath⟩, hpath]
      rfl
    · rw [if_neg fun h => hpath h.2, afterSteps_headers hpath]
  · rw [if_neg hkey, if_neg fun h => hkey h.1, afterSteps_other]

/-- Steps from the request look up the same keys as steps from a variable, if the step after `headers` is spelled in lower
case. -/
theorem keys_request {path : List Access}
    (h : ∀ first second rest, path = first :: second :: rest → first.key = ContextName.headers.name →
      second.key.toLower = second.key) : request.keys path = other.keys path := by
  match path with
  | [] => rfl
  | [_] => rfl
  | first :: second :: rest =>
    show first.key :: (request.after first.key).keys (second :: rest) = first.key :: other.keys (second :: rest)
    rw [after_request]
    by_cases hkey : first.key = ContextName.headers.name
    · rw [if_pos hkey]
      show first.key :: second.key.toLower :: other.keys rest = first.key :: second.key :: other.keys rest
      rw [h first second rest rfl hkey]
    · rw [if_neg hkey]

end Scope

namespace Context

/-! ## Walks -/

/-- A walk over two paths walks the second from where the first has led. -/
theorem walk_append (walked : Reference) (v : Value) (scope : Scope) (path more : List Access) :
    walk walked v scope (path ++ more) = walk walked v scope path >>= fun w =>
      walk ⟨walked.name, walked.path ++ path⟩ w (scope.afterSteps path) more := by
  induction path generalizing walked v scope with
  | nil =>
    rw [List.nil_append, List.append_nil]
    rfl
  | cons access path ih =>
    rw [List.cons_append, walk, walk]
    by_cases hmissing : v.isMissing = true
    · simp only [hmissing, if_true]
      rfl
    · simp only [hmissing]
      cases v.step access (scope.key access) with
      | error e => rfl
      | ok next =>
        show walk ⟨walked.name, walked.path ++ [access]⟩ next (scope.after (scope.key access)) (path ++ more) = _
        rw [ih]
        simp only [List.append_assoc, List.singleton_append]
        rfl

/-- Walks from the same value that look up the same keys give the same. -/
theorem walk_sameUpToReference {scope scope' : Scope} {path : List Access} (h : scope.keys path = scope'.keys path)
    (walked walked' : Reference) (v : Value) :
    SameUpToReference (walk walked v scope path) (walk walked' v scope' path) := by
  induction path generalizing scope scope' walked walked' v with
  | nil => exact .same _
  | cons access path ih =>
    obtain ⟨hkey, hkeys⟩ := List.cons.inj h
    rw [walk, walk, ← hkey]
    rw [← hkey] at hkeys
    by_cases hmissing : v.isMissing = true
    · simp only [hmissing, if_true]
      exact .fromMissing walked walked' _
    · simp only [hmissing]
      cases v.step access (scope.key access) with
      | error e => exact .same _
      | ok next => exact ih hkeys _ _ next

/-! ## The scope of a reference -/

variable {ctx : Context} {r : Reference} {v : Value}

/-- No name of the context is bound. -/
def BindsNoContextName (ctx : Context) : Prop :=
  ∀ name, isContextName name = true → ctx.bound? name = none

/-- Where no context name is bound, none is marked. -/
theorem isHeaders_eq_false (h : ctx.BindsNoContextName) (c : ContextName) : ctx.isHeaders c.name = false := by
  have hnone := h c.name (by rw [isContextName, ContextName.ofName?_name]; rfl)
  unfold bound? at hnone
  unfold isHeaders
  rw [Option.map_eq_none_iff.mp hnone]
  rfl

/-- The scope that the steps of a variable lead to. -/
theorem afterSteps_scopeOf {name : String} {b : Binding} (hname : isContextName name = false)
    (hb : ctx.bindings.get? name = some b) (path : List Access) :
    (scopeOf b).afterSteps path = if ctx.namesHeaders ⟨name, path⟩ = true then .headers else .other := by
  have hne : ∀ c : ContextName, (name == c.name) = false := by
    intro c
    rw [beq_eq_false_iff_ne]
    rintro rfl
    rw [isContextName, ContextName.ofName?_name] at hname
    cases hname
  have hmark : ctx.isHeaders name = b.isHeaders := by
    unfold isHeaders
    rw [hb]
    rfl
  cases path with
  | nil =>
    show scopeOf b = if (name == ContextName.headers.name || ctx.isHeaders name) = true then .headers else .other
    rw [hne, Bool.false_or, hmark]
    rfl
  | cons access path =>
    have hother : (scopeOf b).afterSteps (access :: path) = .other := by
      unfold scopeOf
      split
      · exact Scope.afterSteps_headers (List.cons_ne_nil _ _)
      · exact Scope.afterSteps_other _
    have hnames : ctx.namesHeaders ⟨name, access :: path⟩ = false := by
      cases path with
      | nil => exact (congrArg (· && _) (hne .request)).trans (Bool.false_and _)
      | cons _ _ => rfl
    rw [hother, hnames, if_neg Bool.false_ne_true]

/-- The scope that the steps of a name of the context lead to, if the name is not marked. -/
theorem afterSteps_ofName {c : ContextName} (hmark : ctx.isHeaders c.name = false) (path : List Access) :
    (Scope.ofName c).afterSteps path = if ctx.namesHeaders ⟨c.name, path⟩ = true then .headers
      else if c = .request ∧ path = [] then .request else .other := by
  match path with
  | [] =>
    show Scope.ofName c = if (c.name == ContextName.headers.name || ctx.isHeaders c.name) = true then _ else _
    rw [hmark, Bool.or_false]
    cases c <;> rfl
  | [access] =>
    show _ = if (c.name == ContextName.request.name && access.key == ContextName.headers.name) = true then _ else _
    cases c with
    | request =>
      rw [Scope.ofName, Scope.afterSteps_request_cons]
      by_cases hkey : access.key = ContextName.headers.name <;> simp [hkey]
    | headers => exact Scope.afterSteps_headers (List.cons_ne_nil _ _)
    | _ => exact Scope.afterSteps_other [access]
  | first :: second :: rest =>
    show _ = if false = true then _ else if _ ∧ _ = [] then _ else _
    rw [if_neg Bool.false_ne_true, if_neg fun h => List.cons_ne_nil _ _ h.2]
    cases c with
    | request => rw [Scope.ofName, Scope.afterSteps_request_cons, if_neg fun h => List.cons_ne_nil _ _ h.2]
    | headers => exact Scope.afterSteps_headers (List.cons_ne_nil _ _)
    | _ => exact Scope.afterSteps_other _

/-- Steps that go on from a reference to a value go on from the value, in the scope that the reference has led to. -/
theorem lookup_append_of_base {w : Value} {scope : Scope} (hbase : ctx.base r.name = .ok (w, scope))
    (h : ctx.lookup r = .ok v) (more : List Access) :
    ctx.lookup ⟨r.name, r.path ++ more⟩ = walk r v (scope.afterSteps r.path) more := by
  have hfirst : walk ⟨r.name, []⟩ w scope r.path = .ok v := by
    rw [← h]
    exact (lookup_of_base ctx hbase r.path).symm
  rw [lookup_of_base ctx hbase, walk_append, hfirst]
  rfl

/-- The scope is that of the headers if the reference names them, that of the request if the reference is the request
itself, and else that of a variable. -/
theorem lookup_append (hctx : ctx.BindsNoContextName) (h : ctx.lookup r = .ok v) (more : List Access) :
    ctx.lookup ⟨r.name, r.path ++ more⟩ = walk r v (if ctx.namesHeaders r = true then .headers
      else if r = ⟨ContextName.request.name, []⟩ then .request else .other) more := by
  rcases base_of_lookup ctx h with ⟨c, hname, hbase⟩ | ⟨b, hfree, hb, hbase⟩
  · rw [lookup_append_of_base hbase h]
    obtain ⟨name, path⟩ := r
    obtain rfl : name = c.name := hname
    have hrequest : c = .request ∧ path = [] ↔ (⟨c.name, path⟩ : Reference) = ⟨ContextName.request.name, []⟩ := by
      rw [Reference.mk.injEq]
      cases c <;> simp [ContextName.name]
    rw [afterSteps_ofName (isHeaders_eq_false hctx c)]
    simp only [hrequest]
  · have hrequest : r ≠ ⟨ContextName.request.name, []⟩ := by
      rintro rfl
      cases hfree
    rw [lookup_append_of_base hbase h, afterSteps_scopeOf hfree hb, if_neg hrequest]

end Context

end ConditionLang
