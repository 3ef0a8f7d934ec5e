import ConditionLang.Proofs.Bindings

/-!
# Marked variables

A variable is marked when it is bound to the table of headers, and the next binding of the name takes the mark away. So as
long as no expression binds a name of the context, every marked variable holds the table of headers of the request
(`MarksHeaders`): a name is marked only for a reference that has the table as its value (`lookup_of_namesHeaders`), also if
the evaluation fails afterwards.

Hence the keys of the table of headers, under whatever name, are looked up in lower case, and those of any other map as they
are spelled (`evaluate_entry_of_reached`).

Marks are kept with the values of variables, in one table; two tables that change with every binding would say the same
(`tables_ofRequest`, `tables_bind`, `tables_bindHeaders`).
-/

namespace ConditionLang

/-- Every name that the expression binds is that of a variable. -/
def Expr.BindsVariables (e : Expr) : Prop :=
  ∀ value names, .binding value names ∈ e.parts → ∀ name ∈ names, isContextName name = false

namespace Context

/-- The contexts that a context becomes as expressions that bind variables are evaluated in it, whether they fail or not, and
names are bound to values from outside. -/
inductive Reached (start : Context) : Context → Prop where
  | start : Reached start start
  | evaluate {ctx : Context} (h : Reached start ctx) {e : Expr} (he : e.BindsVariables) : Reached start (e.evaluate ctx).2
  | bind {ctx : Context} (h : Reached start ctx) (name : String) (value : Value) : Reached start (ctx.bind name value)

/-! ## Values and marks apart -/

/-- The values of variables and the marked names, each in a table of its own. -/
@[ext]
structure Tables where
  value? : String → Option Value
  isMarked : String → Bool

/-- A binding changes both tables: the value is put in, and a mark is taken away. -/
def Tables.bind (t : Tables) (name : String) (v : Value) : Tables where
  value? k := if k = name then some v else t.value? k
  isMarked k := if k = name then false else t.isMarked k

/-- A binding to the table of headers puts in the value and the mark. -/
def Tables.bindHeaders (t : Tables) (name : String) (v : Value) : Tables where
  value? k := if k = name then some v else t.value? k
  isMarked k := if k = name then true else t.isMarked k

/-- What the bindings of a context say, as two tables. -/
def tables (ctx : Context) : Tables :=
  ⟨ctx.bound?, ctx.isHeaders⟩

/-- At the start no variable is bound and no name is marked. -/
theorem tables_ofRequest (callCount : Nat) (request : Request) (draws : Draws) :
    (ofRequest callCount request draws).tables = ⟨fun _ => none, fun _ => false⟩ := rfl

/-- A context with marked bindings and two tables that are kept apart take a binding alike. -/
theorem tables_bind (ctx : Context) (name : String) (v : Value) :
    (ctx.bind name v).tables = ctx.tables.bind name v := by
  refine Tables.ext (funext fun k => ?_) (funext fun k => ?_)
  · exact ctx.bound?_withBinding name k ⟨v, false⟩
  · exact ctx.isHeaders_withBinding name k ⟨v, false⟩

theorem tables_bindHeaders (ctx : Context) (name : String) (v : Value) :
    (ctx.bindHeaders name v).tables = ctx.tables.bindHeaders name v := by
  refine Tables.ext (funext fun k => ?_) (funext fun k => ?_)
  · exact ctx.bound?_withBinding name k ⟨v, true⟩
  · exact ctx.isHeaders_withBinding name k ⟨v, true⟩

/-! ## The invariant -/

/-- Every marked name is that of a variable, and it is bound to the table of headers of the request. -/
structure MarksHeaders (request : Request) (ctx : Context) : Prop where
  sameRequest : ctx.request = request
  isVariable : ∀ name, ctx.isHeaders name = true → isContextName name = false
  bound : ∀ name, ctx.isHeaders name = true → ctx.bound? name = some request.headersTable

variable {request : Request} {ctx : Context}

/-- At the start the invariant holds, since no name is marked. -/
theorem marksHeaders_ofRequest (callCount : Nat) (request : Request) (draws : Draws) :
    (ofRequest callCount request draws).MarksHeaders request where
  sameRequest := rfl
  isVariable _ h := nomatch h
  bound _ h := nomatch h

/-- A binding that is marked only if it is of a variable, to the table of headers, keeps the invariant. -/
theorem MarksHeaders.withBinding (h : ctx.MarksHeaders request) (name : String) (b : Binding)
    (hb : b.isHeaders = true → isContextName name = false ∧ b.value = request.headersTable) :
    (ctx.withBinding name b).MarksHeaders request where
  sameRequest := h.sameRequest
  isVariable k hk := by
    rw [isHeaders_withBinding] at hk
    by_cases hname : k = name
    · rw [if_pos hname] at hk
      rw [hname]
      exact (hb hk).1
    · rw [if_neg hname] at hk
      exact h.isVariable k hk
  bound k hk := by
    rw [isHeaders_withBinding] at hk
    rw [bound?_withBinding]
    by_cases hname : k = name
    · rw [if_pos hname] at hk ⊢
      rw [(hb hk).2]
    · rw [if_neg hname] at hk ⊢
      exact h.bound k hk

/-- A binding to a value keeps the invariant. -/
theorem MarksHeaders.bind (h : ctx.MarksHeaders request) (name : String) (v : Value) :
    (ctx.bind name v).MarksHeaders request :=
  h.withBinding name ⟨v, false⟩ nofun

theorem MarksHeaders.withDraws (h : ctx.MarksHeaders request) (draws : Draws) :
    ({ ctx with draws } : Context).MarksHeaders request :=
  ⟨h.sameRequest, h.isVariable, h.bound⟩

/-! ## Keys of the table of headers -/

/-- A marked name is looked up in the table of headers. -/
theorem lookup_marked (h : ctx.MarksHeaders request) {name : String} (hmark : ctx.isHeaders name = true)
    (path : List Access) : ctx.lookup ⟨name, path⟩ = walk ⟨name, []⟩ request.headersTable .headers path := by
  obtain ⟨b, hb, hvalue⟩ := Option.map_eq_some_iff.mp (h.bound name hmark)
  have hscope : scopeOf b = .headers := by
    rw [isHeaders, hb] at hmark
    exact if_pos hmark
  rw [lookup_of_base ctx (ctx.base_variable (h.isVariable name hmark) hb), hscope, hvalue]

/-- A reference that names the table of headers has it as its value. -/
theorem lookup_of_namesHeaders (h : ctx.MarksHeaders request) {ref : Reference} (href : ctx.namesHeaders ref = true) :
    ctx.lookup ref = .ok request.headersTable := by
  obtain ⟨name, path⟩ := ref
  unfold namesHeaders at href
  split at href
  · rename_i hpath
    obtain rfl : path = [] := hpath
    rcases Bool.or_eq_true_iff.mp href with hname | hmark
    · obtain rfl : name = ContextName.headers.name := beq_iff_eq.mp hname
      rw [← h.sameRequest]
      exact ctx.lookup_contextName .headers
    · exact lookup_marked h hmark []
  · rename_i access hpath
    obtain rfl : path = [access] := hpath
    obtain ⟨hname, hkey⟩ := Bool.and_eq_true_iff.mp href
    obtain rfl : name = ContextName.request.name := beq_iff_eq.mp hname
    rw [lookup_of_base ctx (ctx.base_contextName .request), ← h.sameRequest, walk, Scope.key, beq_iff_eq.mp hkey]
    · rfl
    · nofun
  · cases href

/-! ## Every effect keeps the invariant -/

/-- Binding variables to the value of an expression marks one only if the value is that of a reference to the table. -/
theorem MarksHeaders.bindValue (h : ctx.MarksHeaders request) {source : Expr} {names : List String} {v : Value}
    (hnames : ∀ name ∈ names, isContextName name = false)
    (hvalue : ∀ ref, source = .reference ref → ctx.lookup ref = .ok v) :
    (bindValue source names v ctx).2.MarksHeaders request := by
  rcases ctx.bindValue_eq source names v with ⟨ref, name, rfl, rfl, hmark, hbound⟩ | hassign
  · rw [hbound]
    refine h.withBinding name ⟨v, true⟩ fun _ => ⟨hnames name (List.mem_singleton_self _), ?_⟩
    exact Except.ok.inj ((hvalue ref rfl).symm.trans (lookup_of_namesHeaders h hmark))
  · rw [hassign]
    exact maintains_assign (fun name _ v ctx h => h.bind name v) v ctx h

/-- A binding of variables keeps the invariant, whatever its value is. -/
theorem maintains_binding {value : Expr} {names : List String} (hnames : ∀ name ∈ names, isContextName name = false)
    (hmaintains : value.evaluate.Maintains (MarksHeaders request)) :
    (Expr.binding value names).evaluate.Maintains (MarksHeaders request) := by
  intro ctx h
  have hleft := hmaintains ctx h
  rw [Expr.evaluate, Evaluation.bind_apply]
  rcases hv : value.evaluate ctx with ⟨e | v, left⟩
  · rw [hv] at hleft
    exact hleft
  · rw [hv] at hleft
    have hbound : (bindValue value names v left).2.MarksHeaders request := by
      refine hleft.bindValue hnames fun ref href => ?_
      rw [href, Expr.evaluate_reference] at hv
      obtain ⟨hlookup, rfl⟩ := Prod.mk.inj hv
      exact hlookup
    show ((bindValue value names v >>= fun _ => pure v : Evaluation Value) left).2.MarksHeaders request
    rw [Evaluation.bind_apply]
    generalize bindValue value names v left = r at hbound
    rcases r with ⟨_ | _, last⟩
    · exact hbound
    · exact hbound

/-- An expression that binds variables keeps the invariant, whether it comes to a value or fails. -/
theorem maintains_evaluate {e : Expr} (h : e.BindsVariables) : e.evaluate.Maintains (MarksHeaders request) := by
  have hinvoke := @Evaluation.maintains_invoke (MarksHeaders request) fun ctx draws hctx => hctx.withDraws draws
  refine e.evaluate_of_inherits (Evaluation.closed_maintains _) fun part hpart => ?_
  cases part with
  | reference ref => exact fun ctx hctx => hctx
  | binding value names => exact maintains_binding (h value names hpart)
  | call name args => exact hinvoke name none
  | method target name args => exact fun v => hinvoke name (some v)
  | _ => trivial

/-- The invariant holds in every context that is reached. -/
theorem Reached.marksHeaders {start : Context} (h : Reached start ctx) (hstart : start.MarksHeaders request) :
    ctx.MarksHeaders request := by
  induction h with
  | start => exact hstart
  | evaluate _ he ih => exact maintains_evaluate he _ ih
  | bind _ name value ih => exact ih.bind name value

/-! ## Entries of variables -/

/-- A step into a map gives the entry under its key, and nothing if there is none. -/
theorem walk_map (walked : Reference) (entries : Entries Value) (scope : Scope) (access : Access) :
    walk walked (.map entries) scope [access] = .ok ((entries.get? (scope.key access)).getD .missing) := by
  rfl

end Context

namespace Expr

open Context

/-- In every context that a fresh one becomes, the marked variables are bound to the table of headers of the request, and their
entries are read as those of `headers`; the entry of any other variable that is bound to a map is the one under exactly the
key, or missing. -/
theorem evaluate_entry_of_reached (callCount : Nat) (request : Request) (draws : Draws) (ctx : Context)
    (h : Reached (ofRequest callCount request draws) ctx) (name : String) :
    (ctx.isHeaders name = true → ctx.bound? name = some request.headersTable ∧
      ∀ access, (reference ⟨name, [access]⟩).evaluate ctx = (reference ⟨"headers", [access]⟩).evaluate ctx) ∧
    ∀ entries : Entries Value, isContextName name = false → ctx.isHeaders name = false → ctx.bound? name = some (.map entries) →
      ∀ access, (reference ⟨name, [access]⟩).evaluate ctx = (.ok ((entries.get? access.key).getD .missing), ctx) := by
  have hmarks := h.marksHeaders (marksHeaders_ofRequest callCount request draws)
  refine ⟨fun hmark => ⟨hmarks.bound name hmark, fun access => ?_⟩, fun entries hname hplain hbound access => ?_⟩
  · have hheaders : ctx.lookup ⟨"headers", [access]⟩ =
        walk ⟨"headers", []⟩ request.headersTable .headers [access] := by
      rw [← hmarks.sameRequest]
      exact ctx.lookup_of_base (ctx.base_contextName .headers) [access]
    rw [evaluate_reference, evaluate_reference, lookup_marked hmarks hmark, hheaders]
    rfl
  · obtain ⟨b, hb, hvalue⟩ := Option.map_eq_some_iff.mp hbound
    have hscope : scopeOf b = .other := by
      rw [isHeaders, hb] at hplain
      exact if_neg (Bool.eq_false_iff.mp hplain)
    rw [evaluate_reference, ctx.lookup_of_base (ctx.base_variable hname hb), hscope, hvalue, walk_map]
    rfl

/-- The expression `(h >> g) + "x"` fails, and leaves `g` marked; a binding from outside then takes the mark of `h` away. -/
theorem evaluate_entry_of_reached_after_failure :
    let request := (Request.ofTarget "GET" "/").withHeader "Id" "7"
    let start := ofRequest 1 request (.seeded 1)
    let failing := binary .add (binding (.ofName "h") ["g"]) (.text "x")
    let marked := ((binding (.ofName "headers") ["h"]).evaluate start).2
    let ctx := (failing.evaluate marked).2.bind "h" (.text "x")
    Reached start ctx ∧ ctx.isHeaders "h" = false ∧ ctx.isHeaders "g" = true ∧
      ctx.bound? "g" = some request.headersTable ∧
      (reference ⟨"g", [.property "ID"]⟩).evaluate ctx = (reference ⟨"headers", [.property "ID"]⟩).evaluate ctx := by
  intro request start failing marked ctx
  have hh : isContextName "h" = false := by decide
  have hg : isContextName "g" = false := by decide
  have hfirst : (binding (.ofName "headers") ["h"]).BindsVariables := by simp [BindsVariables, parts, ofName, hh]
  have hfailing : failing.BindsVariables := by simp [failing, BindsVariables, parts, ofName, hg]
  have hreached : Reached start ctx := ((Reached.start.evaluate hfirst).evaluate hfailing).bind "h" (.text "x")
  have hplain : ctx.isHeaders "h" = false := rfl
  have hmark : ctx.isHeaders "g" = true := rfl
  obtain ⟨hbound, hentry⟩ := (evaluate_entry_of_reached 1 request (.seeded 1) ctx hreached "g").1 hmark
  exact ⟨hreached, hplain, hmark, hbound, hentry (.property "ID")⟩

end Expr

end ConditionLang
