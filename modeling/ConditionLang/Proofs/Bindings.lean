import ConditionLang.Proofs.Effects

/-!
# What a binding changes

A binding of a name is seen by lookups of that name only, and by no lookup if the name is one of the context. A name that is
bound to the value of a reference is marked if and only if the reference names the table of headers
(`evaluate_binding_reference`).
-/

namespace ConditionLang

namespace Context

variable (ctx : Context)

/-- The context with a binding of a name. -/
def withBinding (name : String) (b : Binding) : Context :=
  { ctx with bindings := ctx.bindings.insert name b }

/-- A binding is found under its name, and the others as before. -/
theorem get?_withBinding (name k : String) (b : Binding) :
    (ctx.withBinding name b).bindings.get? k = if k = name then some b else ctx.bindings.get? k := by
  exact Entries.get?_insert ..

/-- A bound value is read under its name, and the others as before. -/
theorem bound?_withBinding (name k : String) (b : Binding) :
    (ctx.withBinding name b).bound? k = if k = name then some b.value else ctx.bound? k := by
  rw [bound?, get?_withBinding]
  split
  · rfl
  · rfl

/-- A binding decides about the mark of its own name only. -/
theorem isHeaders_withBinding (name k : String) (b : Binding) :
    (ctx.withBinding name b).isHeaders k = if k = name then b.isHeaders else ctx.isHeaders k := by
  unfold isHeaders
  rw [get?_withBinding]
  split
  · rfl
  · rfl

/-- No binding changes the parts of the request. -/
@[simp] theorem part_withBinding (name : String) (b : Binding) (c : ContextName) :
    (ctx.withBinding name b).part c = ctx.part c := by
  cases c <;> rfl

/-! ## Values bound one after another -/

/-- The context after names have been bound to values one after another. -/
def bindAll (pairs : List (String × Value)) : Context :=
  pairs.foldl (fun ctx pair => ctx.bind pair.1 pair.2) ctx

/-- Names bound to the entries of a map are bound one after another to those that it has. -/
theorem bindEntries_eq_bindAll (names : List String) (entries : Entries Value) :
    ctx.bindEntries names entries =
      ctx.bindAll (names.filterMap fun name => (entries.get? name).map fun value => (name, value)) := by
  unfold bindEntries
  induction names generalizing ctx with
  | nil => rfl
  | cons name names ih =>
    rw [List.foldl_cons, ih, List.filterMap_cons]
    cases entries.get? name with
    | none => rfl
    | some value => rfl

/-- Taking a value apart binds values to some of the names, one after another. -/
theorem exists_bindAll_of_assign (names : List String) (v : Value) :
    ∃ pairs : List (String × Value), (∀ ctx, (assign names v ctx).2 = ctx.bindAll pairs) ∧
      ∀ pair ∈ pairs, pair.1 ∈ names := by
  unfold assign
  split
  · rename_i name
    exact ⟨[(name, v)], fun _ => rfl, by simp⟩
  · rename_i entries _
    refine ⟨_, fun ctx => ctx.bindEntries_eq_bindAll names entries, fun pair hpair => ?_⟩
    obtain ⟨name, hname, hvalue⟩ := List.mem_filterMap.mp hpair
    obtain ⟨value, -, rfl⟩ := Option.map_eq_some_iff.mp hvalue
    exact hname
  · rename_i items _
    exact ⟨names.zip items, fun _ => rfl, fun pair hpair => (List.of_mem_zip hpair).1⟩
  · exact ⟨[], fun _ => rfl, fun _ h => absurd h List.not_mem_nil⟩

/-- Binding names to a value marks one of them or takes the value apart. -/
theorem bindValue_eq (source : Expr) (names : List String) (v : Value) :
    (∃ ref name, source = .reference ref ∧ names = [name] ∧ ctx.namesHeaders ref = true ∧
      bindValue source names v ctx = (.ok (), ctx.withBinding name ⟨v, true⟩)) ∨
    bindValue source names v ctx = assign names v ctx := by
  unfold bindValue
  split
  · rename_i ref name
    split
    · rename_i hmark
      exact .inl ⟨ref, name, rfl, rfl, hmark, rfl⟩
    · exact .inr rfl
  · exact .inr rfl

/-- A value under a single name is bound whatever it is, with a mark or without. -/
theorem exists_withBinding_of_bindValue (source : Expr) (name : String) (v : Value) :
    ∃ mark, bindValue source [name] v ctx = (.ok (), ctx.withBinding name ⟨v, mark⟩) := by
  rcases ctx.bindValue_eq source [name] v with ⟨_, _, -, hname, -, h⟩ | h
  · cases hname
    exact ⟨true, h⟩
  · exact ⟨false, h⟩

/-! ## What every binding keeps -/

section

variable {I : Context → Prop} {R : Context → Context → Prop} {names : List String}

/-- What each single binding keeps is kept by `>>`. -/
theorem maintains_assign (h : ∀ name ∈ names, ∀ v ctx, I ctx → I (ctx.bind name v)) (v : Value) :
    (assign names v).Maintains I := by
  intro ctx hctx
  obtain ⟨pairs, hpairs, hnames⟩ := exists_bindAll_of_assign names v
  rw [hpairs]
  exact List.foldlRecOn pairs _ hctx fun ctx hctx pair hpair => h pair.1 (hnames pair hpair) pair.2 ctx hctx

/-- What every binding of some names keeps is kept when they are bound to the value of an expression. -/
theorem maintains_bindValue (h : ∀ name ∈ names, ∀ b ctx, I ctx → I (ctx.withBinding name b)) (source : Expr) (v : Value) :
    (bindValue source names v).Maintains I := by
  intro ctx hctx
  rcases ctx.bindValue_eq source names v with ⟨_, name, -, rfl, -, hmark⟩ | hassign
  · rw [hmark]
    exact h name (List.mem_singleton_self name) ⟨v, true⟩ ctx hctx
  · rw [hassign]
    exact maintains_assign (fun name hname v ctx => h name hname ⟨v, false⟩ ctx) v ctx hctx

/-- What relates two contexts after each single binding relates them after any number. -/
theorem bindAll_related (h : ∀ name v ctx ctx', R ctx ctx' → R (ctx.bind name v) (ctx'.bind name v))
    (pairs : List (String × Value)) {ctx ctx' : Context} (hR : R ctx ctx') : R (ctx.bindAll pairs) (ctx'.bindAll pairs) := by
  induction pairs generalizing ctx ctx' with
  | nil => exact hR
  | cons pair pairs ih => exact ih (h pair.1 pair.2 ctx ctx' hR)

/-- Contexts related by what single bindings keep stay related over `>>`. -/
theorem agrees_assign (h : ∀ name v ctx ctx', R ctx ctx' → R (ctx.bind name v) (ctx'.bind name v)) (names : List String)
    (v : Value) : (assign names v).Agrees R := by
  intro ctx ctx' hR
  obtain ⟨pairs, hpairs, -⟩ := exists_bindAll_of_assign names v
  rw [hpairs, hpairs]
  refine ⟨?_, bindAll_related h pairs hR⟩
  unfold assign
  split <;> rfl

/-- Two runs stay related if the same references name the table of headers in both and every binding keeps them related. -/
theorem agrees_bindValue (hmarks : ∀ ref ctx ctx', R ctx ctx' → ctx.namesHeaders ref = ctx'.namesHeaders ref)
    (h : ∀ name b ctx ctx', R ctx ctx' → R (ctx.withBinding name b) (ctx'.withBinding name b)) (source : Expr)
    (names : List String) (v : Value) : (bindValue source names v).Agrees R := by
  have hassign : ∀ names, (assign names v).Agrees R := agrees_assign (fun name v => h name ⟨v, false⟩) (v := v)
  intro ctx ctx' hR
  unfold bindValue
  split
  · rename_i ref name
    rw [hmarks ref ctx ctx' hR]
    split
    · exact ⟨rfl, h name ⟨v, true⟩ ctx ctx' hR⟩
    · exact hassign [name] ctx ctx' hR
  · exact hassign _ ctx ctx' hR

end

/-! ## Lookups -/

/-- A context name reads its part of the request, whatever is bound. -/
theorem base_contextName (c : ContextName) : ctx.base c.name = .ok (ctx.part c, .ofName c) := by
  unfold base
  rw [ContextName.ofName?_name]

/-- The scope in which a variable is read. -/
def scopeOf (b : Binding) : Scope :=
  if b.isHeaders then .headers else .other

/-- Any other name reads the value it is bound to. -/
theorem base_variable {name : String} {b : Binding} (hname : isContextName name = false)
    (hb : ctx.bindings.get? name = some b) : ctx.base name = .ok (b.value, scopeOf b) := by
  have hnone : ContextName.ofName? name = none := by
    simpa [isContextName] using hname
  unfold base
  rw [hnone]
  simp only [hb, scopeOf]

/-- A name is that of a part of the context, or a variable that is bound or is not. -/
theorem base_cases (name : String) :
    (∃ c : ContextName, name = c.name ∧ ctx.base name = .ok (ctx.part c, .ofName c)) ∨
      isContextName name = false ∧
        ((∃ b, ctx.bindings.get? name = some b ∧ ctx.base name = .ok (b.value, scopeOf b)) ∨
          ctx.bindings.get? name = none ∧ ctx.base name = .error (.undefinedVariable name)) := by
  cases hname : ContextName.ofName? name with
  | some c =>
    obtain rfl := ContextName.name_of_ofName? hname
    exact .inl ⟨c, rfl, base_contextName ctx c⟩
  | none =>
    have hfree : isContextName name = false := by simp [isContextName, hname]
    refine .inr ⟨hfree, ?_⟩
    cases hb : ctx.bindings.get? name with
    | some b => exact .inl ⟨b, rfl, base_variable ctx hfree hb⟩
    | none =>
      refine .inr ⟨rfl, ?_⟩
      unfold base
      simp only [hname, hb]

/-- A reference that leads to a value starts with a name of the context or with a variable that is bound. -/
theorem base_of_lookup {r : Reference} {v : Value} (h : ctx.lookup r = .ok v) :
    (∃ c : ContextName, r.name = c.name ∧ ctx.base r.name = .ok (ctx.part c, .ofName c)) ∨
      ∃ b, isContextName r.name = false ∧ ctx.bindings.get? r.name = some b ∧
        ctx.base r.name = .ok (b.value, scopeOf b) := by
  rcases ctx.base_cases r.name with hpart | ⟨hfree, ⟨b, hb, hbase⟩ | ⟨-, hbase⟩⟩
  · exact .inl hpart
  · exact .inr ⟨b, hfree, hb, hbase⟩
  · rw [lookup, hbase] at h
    cases h

/-- A lookup walks down from the value of its first name. -/
theorem lookup_of_base {name : String} {v : Value} {scope : Scope} (h : ctx.base name = .ok (v, scope))
    (path : List Access) : ctx.lookup ⟨name, path⟩ = walk ⟨name, []⟩ v scope path := by
  unfold lookup
  rw [h]
  rfl

/-- A name of the context means its part of the context, whatever is bound. -/
theorem lookup_contextName (c : ContextName) : ctx.lookup ⟨c.name, []⟩ = .ok (ctx.part c) := by
  rw [lookup_of_base ctx (base_contextName ctx c)]
  rfl

end Context

namespace Expr

variable {ctx ctx' : Context} {v : Value}

/-- A reference is looked up, and leaves the context as it is. -/
theorem evaluate_reference (ref : Reference) (ctx : Context) : (reference ref).evaluate ctx = (ctx.lookup ref, ctx) := by
  rw [evaluate]
  rfl

/-- A name that is bound to the value of a reference is marked if the reference names the table of headers. -/
theorem evaluate_binding_reference {ref : Reference} (h : ctx.lookup ref = .ok v) (name : String) :
    (binding (.reference ref) [name]).evaluate ctx =
      (.ok v, ctx.withBinding name ⟨v, ctx.namesHeaders ref⟩) := by
  have hvalue : (reference ref).evaluate ctx = (.ok v, ctx) := by
    rw [evaluate_reference, h]
  have hbind : bindValue (.reference ref) [name] v ctx = (.ok (), ctx.withBinding name ⟨v, ctx.namesHeaders ref⟩) := by
    show (if ctx.namesHeaders ref = true then _ else assign [name] v ctx) = _
    by_cases hmark : ctx.namesHeaders ref = true
    · rw [if_pos hmark, hmark]
      rfl
    · rw [if_neg hmark, Bool.eq_false_iff.mpr hmark]
      rfl
  rw [evaluate, Evaluation.bind_apply, hvalue]
  show (bindValue (.reference ref) [name] v >>= fun _ => pure v : Evaluation Value) ctx = _
  rw [Evaluation.bind_apply, hbind]
  rfl

/-- A name that is bound to the value of another binding is not marked. -/
theorem evaluate_binding_binding {value : Expr} {names : List String}
    (h : (binding value names).evaluate ctx = (.ok v, ctx')) (name : String) :
    (binding (.binding value names) [name]).evaluate ctx = (.ok v, ctx'.withBinding name ⟨v, false⟩) := by
  rw [evaluate, Evaluation.bind_apply, h]
  rfl

end Expr

end ConditionLang
