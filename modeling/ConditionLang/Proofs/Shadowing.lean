import ConditionLang.Proofs.Bindings

/-!
# Bindings of the names of the context

A name of the context always means its part of the context, so a binding of it is hidden, except for its mark: a binding of
another name to a name of the context takes the mark over. Hence a binding of a name of the context is unobservable if it
leaves the mark of the name as it was, or if the name is that of the headers, which are marked anyway; and only then
(`binding_unobservable_iff`).

`Alike` is what two runs have in common, one with such a binding and one without: it is kept by every effect of an expression
(`alike_ownEffect`) and so by every sequence of expressions (`evaluateEach_alike`).
-/

namespace ConditionLang

namespace Expr

/-- The results of expressions evaluated one after another, and the context that they leave. An error does not end the
sequence. -/
def evaluateEach : List Expr → Context → List (Except EvalError Value) × Context
  | [], ctx => ([], ctx)
  | e :: es, ctx =>
    let first := e.evaluate ctx
    let rest := evaluateEach es first.2
    (first.1 :: rest.1, rest.2)

end Expr

namespace Context

/-- No sequence of expressions tells two contexts apart: it gives the same results, and leaves every name that is not one of
the context bound to the same value. -/
def Indistinguishable (ctx ctx' : Context) : Prop :=
  ∀ es, (Expr.evaluateEach es ctx).1 = (Expr.evaluateEach es ctx').1 ∧
    ∀ name, isContextName name = false →
      (Expr.evaluateEach es ctx).2.bound? name = (Expr.evaluateEach es ctx').2.bound? name

/-- The contexts differ at most in the values that names of the context are bound to, and in the mark of the headers. -/
structure Alike (ctx ctx' : Context) : Prop where
  callCount : ctx.callCount = ctx'.callCount
  request : ctx.request = ctx'.request
  draws : ctx.draws = ctx'.draws
  bindings : ∀ name, isContextName name = false → ctx.bindings.get? name = ctx'.bindings.get? name
  marks : ∀ name, name ≠ ContextName.headers.name → ctx.isHeaders name = ctx'.isHeaders name

variable {ctx ctx' : Context}

/-! ## What two such contexts have in common -/

/-- Alike contexts have the same parts of the request. -/
theorem Alike.part (h : ctx.Alike ctx') (c : ContextName) : ctx.part c = ctx'.part c := by
  cases c <;> simp only [Context.part, h.callCount, h.request]

/-- Alike contexts read every name alike. -/
theorem Alike.base (h : ctx.Alike ctx') (name : String) : ctx.base name = ctx'.base name := by
  unfold Context.base
  cases hname : ContextName.ofName? name with
  | some c => simp only [h.part c]
  | none =>
    have hfree : isContextName name = false := by simp [isContextName, hname]
    simp only [h.bindings name hfree]

/-- Alike contexts look every reference up alike. -/
theorem Alike.lookup (h : ctx.Alike ctx') (ref : Reference) : ctx.lookup ref = ctx'.lookup ref := by
  unfold Context.lookup
  rw [h.base]

theorem Alike.namesHeaders (h : ctx.Alike ctx') (ref : Reference) : ctx.namesHeaders ref = ctx'.namesHeaders ref := by
  unfold Context.namesHeaders
  split
  · by_cases hname : ref.name = ContextName.headers.name
    · simp [hname]
    · rw [h.marks _ hname]
  · rfl
  · rfl

/-! ## What is done to both -/

/-- Alike contexts are alike after the same binding. -/
theorem Alike.withBinding (h : ctx.Alike ctx') (name : String) (b : Binding) :
    (ctx.withBinding name b).Alike (ctx'.withBinding name b) where
  callCount := h.callCount
  request := h.request
  draws := h.draws
  bindings k hk := by rw [get?_withBinding, get?_withBinding, h.bindings k hk]
  marks k hk := by rw [isHeaders_withBinding, isHeaders_withBinding, h.marks k hk]

/-- Alike contexts draw alike. -/
theorem settle_alike (d : Drawn) : (Evaluation.settle d).Agrees Alike := by
  intro ctx ctx' h
  cases d with
  | value v => exact ⟨rfl, h⟩
  | choice bound valueOf =>
    refine ⟨?_, ⟨h.callCount, h.request, ?_, h.bindings, h.marks⟩⟩
    · simp only [Evaluation.settle, h.draws]
    · simp only [Evaluation.settle, h.draws]

/-- Alike contexts call alike. -/
theorem invoke_alike (name : String) (target : Option Value) (values : List Value) :
    (Evaluation.invoke name target values).Agrees Alike := by
  have hclosed := Evaluation.closed_agrees Alike
  exact hclosed.bind (hclosed.ofExcept _) settle_alike

/-- Every effect of an expression has the same result in both contexts and keeps what they have in common. -/
theorem alike_ownEffect (e : Expr) : e.OwnEffect (@Evaluation.Agrees Alike) := by
  cases e with
  | reference ref => exact fun ctx ctx' h => ⟨h.lookup ref, h⟩
  | binding value names =>
    exact agrees_bindValue (fun ref _ _ h => h.namesHeaders ref) (fun name b _ _ h => h.withBinding name b) value names
  | call name args => exact invoke_alike name none
  | method target name args => exact fun v => invoke_alike name (some v)
  | _ => trivial

/-- An evaluation in alike contexts has the same result and leaves them alike. -/
theorem evaluate_alike (e : Expr) : e.evaluate.Agrees Alike :=
  e.evaluate_of_closed (Evaluation.closed_agrees Alike) fun part _ => alike_ownEffect part

/-- A sequence of expressions gives the same results in both contexts and keeps what they have in common. -/
theorem evaluateEach_alike (es : List Expr) (h : ctx.Alike ctx') :
    (Expr.evaluateEach es ctx).1 = (Expr.evaluateEach es ctx').1 ∧
      (Expr.evaluateEach es ctx).2.Alike (Expr.evaluateEach es ctx').2 := by
  induction es generalizing ctx ctx' with
  | nil => exact ⟨rfl, h⟩
  | cons e es ih =>
    obtain ⟨hresult, hleft⟩ := evaluate_alike e ctx ctx' h
    obtain ⟨hresults, hrest⟩ := ih hleft
    refine ⟨?_, hrest⟩
    rw [Expr.evaluateEach, Expr.evaluateEach, hresult, hresults]

/-- No sequence of expressions tells alike contexts apart. -/
theorem Alike.indistinguishable (h : ctx.Alike ctx') : ctx.Indistinguishable ctx' := by
  intro es
  obtain ⟨hresults, hleft⟩ := evaluateEach_alike es h
  refine ⟨hresults, fun name hname => ?_⟩
  rw [bound?, bound?, hleft.bindings name hname]

/-! ## Telling a mark -/

/-- Binds another name of the context to the name `c`, a variable to that name, and takes a step from the variable. -/
def markProbe (c : ContextName) : List Expr :=
  [.binding (.ofName c.name) [ContextName.method.name], .binding (.ofName ContextName.method.name) ["x"],
    .reference ⟨"x", [.property "A"]⟩]

/-- The key that the last error of the probe tells is in lower case if the name is marked. -/
theorem evaluateEach_markProbe (ctx : Context) {c : ContextName} (hc : c ≠ .headers) :
    (Expr.evaluateEach (markProbe c) ctx).1 =
      [.ok (ctx.part c), .ok (.text ctx.request.method),
        .error (.noSuchStep (if ctx.isHeaders c.name then "a" else "A") .text)] := by
  have hmark : ctx.namesHeaders ⟨c.name, []⟩ = ctx.isHeaders c.name := by
    cases c <;> first | rfl | exact absurd rfl hc
  have hfirst : (Expr.binding (.ofName c.name) [ContextName.method.name]).evaluate ctx =
      (.ok (ctx.part c), ctx.withBinding ContextName.method.name ⟨ctx.part c, ctx.isHeaders c.name⟩) := by
    rw [← hmark]
    exact Expr.evaluate_binding_reference (lookup_contextName ctx c) _
  generalize hbound : ctx.withBinding ContextName.method.name ⟨ctx.part c, ctx.isHeaders c.name⟩ = bound at hfirst
  have hcarried : bound.namesHeaders ⟨ContextName.method.name, []⟩ = ctx.isHeaders c.name := by
    rw [← hbound]
    exact (isHeaders_withBinding ..).trans (if_pos rfl)
  have hmethod : bound.part .method = .text ctx.request.method := by
    rw [← hbound, part_withBinding]
    rfl
  have hsecond : (Expr.binding (.ofName ContextName.method.name) ["x"]).evaluate bound =
      (.ok (.text ctx.request.method), bound.withBinding "x" ⟨.text ctx.request.method, ctx.isHeaders c.name⟩) := by
    rw [← hmethod, ← hcarried]
    exact Expr.evaluate_binding_reference (lookup_contextName bound .method) _
  have hthird : (bound.withBinding "x" ⟨.text ctx.request.method, ctx.isHeaders c.name⟩).lookup ⟨"x", [.property "A"]⟩ =
      .error (.noSuchStep (if ctx.isHeaders c.name then "a" else "A") .text) := by
    rw [lookup_of_base _ (base_variable _ (by decide) ((get?_withBinding ..).trans (if_pos rfl)))]
    have hlower : "A".toLower = "a" := by decide +kernel
    cases ctx.isHeaders c.name with
    | true =>
      show Except.error (EvalError.noSuchStep "A".toLower .text) = _
      rw [hlower]
      rfl
    | false => rfl
  rw [markProbe, Expr.evaluateEach, hfirst, Expr.evaluateEach, hsecond, Expr.evaluateEach, Expr.evaluate_reference, hthird]
  rfl

end Context

namespace Expr

open Context

/-- A binding of a name of the context to the value of a reference can be observed if and only if it changes the mark of the
name, and the name is not that of the headers. -/
theorem binding_unobservable_iff (ctx : Context) (ref : Reference) (v : Value) (h : ctx.lookup ref = .ok v)
    (c : ContextName) :
    ((binding (.reference ref) [c.name]).evaluate ctx).2.Indistinguishable ctx ↔
      c = .headers ∨ ctx.namesHeaders ref = ctx.isHeaders c.name := by
  rw [evaluate_binding_reference h]
  constructor
  · intro hsame
    by_cases hc : c = .headers
    · exact .inl hc
    · right
      have hprobe := (hsame (markProbe c)).1
      rw [evaluateEach_markProbe _ hc, evaluateEach_markProbe _ hc, isHeaders_withBinding, if_pos rfl] at hprobe
      cases hmark : ctx.namesHeaders ref <;> cases hmark' : ctx.isHeaders c.name <;> simp_all
  · intro hmark
    refine Alike.indistinguishable ⟨rfl, rfl, rfl, fun name hname => ?_, fun name hname => ?_⟩
    · rw [get?_withBinding, if_neg]
      rintro rfl
      rw [isContextName, ContextName.ofName?_name] at hname
      cases hname
    · rw [isHeaders_withBinding]
      split
      · rename_i heq
        rcases hmark with rfl | hmark
        · exact absurd heq hname
        · rw [heq, hmark]
      · rfl

/-- A binding of the name of the body to the method, in a context without bindings. -/
theorem binding_unobservable_body_to_method :
    let ctx := Context.ofRequest 1 (.ofTarget "GET" "/") (.seeded 1)
    ctx.lookup ⟨"method", []⟩ = .ok (.text "GET") ∧
      ((binding (.reference ⟨"method", []⟩) ["body"]).evaluate ctx).2.Indistinguishable ctx := by
  intro ctx
  exact ⟨rfl, (binding_unobservable_iff ctx ⟨"method", []⟩ (.text "GET") rfl .body).mpr (.inr rfl)⟩

/-- A binding of the name of the body to the headers is observed: a variable that is bound to the body takes the mark over,
so the key of its entry is looked up in lower case and not found. -/
theorem binding_observable_body_to_headers :
    let ctx := Context.ofRequest 1 ((Request.ofTarget "POST" "/").withBody (.map [("Id", .text "7")])) (.seeded 1)
    let bound := ((binding (.reference ⟨"headers", []⟩) ["body"]).evaluate ctx).2
    let es := [binding (.ofName "body") ["b"], .reference ⟨"b", [.property "Id"]⟩]
    ctx.lookup ⟨"headers", []⟩ = .ok (.map []) ∧
      (evaluateEach es ctx).1 = [.ok (.map [("Id", .text "7")]), .ok (.text "7")] ∧
      (evaluateEach es bound).1 = [.ok (.map [("Id", .text "7")]), .ok .missing] ∧ ¬bound.Indistinguishable ctx := by
  intro ctx bound es
  have hwithout : (evaluateEach es ctx).1 = [.ok (.map [("Id", .text "7")]), .ok (.text "7")] := rfl
  have hlower : "Id".toLower = "id" := by decide +kernel
  have hwith : (evaluateEach es bound).1 = [.ok (.map [("Id", .text "7")]), .ok .missing] := by
    show [_, Except.ok ((Entries.get? "Id".toLower [("Id", Value.text "7")]).getD .missing)] = _
    rw [hlower]
    rfl
  refine ⟨rfl, hwithout, hwith, fun hsame => ?_⟩
  have hresults := (hsame es).1
  rw [hwithout, hwith] at hresults
  simp at hresults

end Expr

end ConditionLang
