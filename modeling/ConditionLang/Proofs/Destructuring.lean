import ConditionLang.Proofs.Bindings

/-!
# What a binding binds

A binding whose value is known changes bindings and nothing else, and what each of its names is bound to depends on the value
alone (`evaluate_binding_of_value`). A single name takes the whole value; several names take a sequence apart by position and a
map by key, where a name without an item or an entry keeps its binding; any other value cannot be taken apart, and then no name
is bound. Names are bound one after another, so a name bound by position keeps its item only if no later name is the same
(`get?_bindItems`); by key, a name that stands twice is bound to the same entry again (`get?_bindEntries`).
-/

namespace ConditionLang

namespace Context

variable {names : List String}

/-! ## Names bound one after another -/

/-- The second context differs from the first at most in bindings of some names. -/
structure BindsOnly (names : List String) (start ctx : Context) : Prop where
  callCount : ctx.callCount = start.callCount
  request : ctx.request = start.request
  draws : ctx.draws = start.draws
  others : ∀ k, k ∉ names → ctx.bindings.get? k = start.bindings.get? k

/-- A binding of one of the names is allowed among those that bind only them. -/
theorem BindsOnly.withBinding {start ctx : Context} (h : start.BindsOnly names ctx) {name : String} (hname : name ∈ names)
    (b : Binding) : start.BindsOnly names (ctx.withBinding name b) where
  callCount := h.callCount
  request := h.request
  draws := h.draws
  others k hk := by
    have hne : k ≠ name := by
      rintro rfl
      exact hk hname
    rw [get?_withBinding, if_neg hne]
    exact h.others k hk

/-- The operator `>>` binds only the names on its right. -/
theorem bindsOnly_bindValue (source : Expr) (names : List String) (v : Value) (ctx : Context) :
    ctx.BindsOnly names (bindValue source names v ctx).2 :=
  maintains_bindValue (fun _ hname b _ h => h.withBinding hname b) source v ctx ⟨rfl, rfl, rfl, fun _ _ => rfl⟩

variable (ctx : Context)

/-- Whether an expression is a reference that names the table of headers. -/
def givesHeaders (source : Expr) : Bool :=
  match source with
  | .reference ref => ctx.namesHeaders ref
  | _ => false

/-- A single name is bound to the whole value, and marked if the value is that of a reference to the table of headers. -/
theorem bindValue_singleton (source : Expr) (name : String) (v : Value) :
    bindValue source [name] v ctx = (.ok (), ctx.withBinding name ⟨v, ctx.givesHeaders source⟩) := by
  unfold bindValue givesHeaders
  cases source with
  | reference ref =>
    dsimp only
    split
    · rename_i hmark
      rw [hmark]
      rfl
    · rename_i hmark
      rw [Bool.eq_false_iff.mpr hmark]
      rfl
  | _ => rfl

/-- Several names take the value apart, whatever expression it is the value of. -/
theorem bindValue_of_length_ne_one (hseveral : names.length ≠ 1) (source : Expr) (v : Value) :
    bindValue source names v ctx =
      match v with
      | .sequence items => (.ok (), ctx.bindItems names items)
      | .map entries => (.ok (), ctx.bindEntries names entries)
      | v => (.error (.notDestructible v.kind names.length), ctx) := by
  have hsingle : ∀ name, names ≠ [name] := by
    rintro name rfl
    exact hseveral rfl
  have hassign : bindValue source names v ctx = assign names v ctx := by
    rcases ctx.bindValue_eq source names v with ⟨_, name, -, hnames, -⟩ | h
    · exact absurd hnames (hsingle name)
    · exact h
  rw [hassign]
  unfold assign
  split
  · exact absurd rfl (hsingle _)
  · rfl
  · rfl
  · rename_i hmap hsequence
    cases v with
    | sequence items => exact absurd rfl (hsequence items)
    | map entries => exact absurd rfl (hmap entries)
    | _ => rfl

/-- A name that is none of those bound reads what it read before. -/
theorem get?_bindAll_of_not_mem {pairs : List (String × Value)} {k : String} (h : ∀ pair ∈ pairs, k ≠ pair.1) :
    (ctx.bindAll pairs).bindings.get? k = ctx.bindings.get? k := by
  induction pairs generalizing ctx with
  | nil => rfl
  | cons pair pairs ih =>
    obtain ⟨hne, hrest⟩ := List.forall_mem_cons.mp h
    exact (ih _ hrest).trans ((ctx.get?_withBinding pair.1 k ⟨pair.2, false⟩).trans (if_neg hne))

/-- Of distinct names, each is bound to the item at its position, as far as there are items. -/
theorem get?_bindItems (hdistinct : names.Nodup) (items : List Value) {i : Nat} (hi : i < names.length) :
    (ctx.bindItems names items).bindings.get? names[i] =
      (items[i]?.map (⟨·, false⟩)).or (ctx.bindings.get? names[i]) := by
  induction names generalizing ctx items i with
  | nil => exact absurd hi (Nat.not_lt_zero i)
  | cons name names ih =>
    obtain ⟨hfresh, hrest⟩ := List.nodup_cons.mp hdistinct
    cases items with
    | nil => rfl
    | cons item items =>
      have hbound := fun k => ctx.get?_withBinding name k ⟨item, false⟩
      show ((ctx.bind name item).bindItems names items).bindings.get? _ = _
      cases i with
      | zero =>
        refine (get?_bindAll_of_not_mem _ fun pair hpair => ?_).trans ((hbound name).trans (if_pos rfl))
        rintro rfl
        exact hfresh (List.of_mem_zip hpair).1
      | succ i =>
        have hlt : i < names.length := Nat.lt_of_succ_lt_succ hi
        have hne : names[i] ≠ name := by
          rintro rfl
          exact hfresh (List.getElem_mem hlt)
        have hkept : (ctx.bind name item).bindings.get? names[i] = ctx.bindings.get? names[i] :=
          (hbound names[i]).trans (if_neg hne)
        rw [List.getElem_cons_succ, ih _ hrest items hlt, hkept, List.getElem?_cons_succ]

/-- A name of several is bound to the entry of that key, if there is one. -/
theorem get?_bindEntries (names : List String) (entries : Entries Value) (k : String) :
    (ctx.bindEntries names entries).bindings.get? k =
      if k ∈ names then ((entries.get? k).map (⟨·, false⟩)).or (ctx.bindings.get? k) else ctx.bindings.get? k := by
  induction names generalizing ctx with
  | nil => rfl
  | cons name names ih =>
    have hfirst : ((entries.get? name).elim ctx (ctx.bind name)).bindings.get? k =
        if k = name then ((entries.get? k).map (⟨·, false⟩)).or (ctx.bindings.get? k) else ctx.bindings.get? k := by
      cases hentry : entries.get? name with
      | none =>
        split
        · rename_i hk
          rw [hk, hentry]
          rfl
        · rfl
      | some v =>
        refine (ctx.get?_withBinding name k ⟨v, false⟩).trans ?_
        split
        · rename_i hk
          rw [hk, hentry]
          rfl
        · rfl
    refine (ih _).trans ?_
    dsimp only
    rw [hfirst]
    by_cases hk : k = name
    · simp [hk, ← Option.or_assoc]
    · simp [hk]

end Context

namespace Expr

open Context

/-- A binding whose value is known comes to it, unless the names cannot be bound. -/
theorem evaluate_binding_eq {value : Expr} {ctx mid : Context} {v : Value} (h : value.evaluate ctx = (.ok v, mid))
    (names : List String) :
    (binding value names).evaluate ctx =
      ((bindValue value names v mid).1.map fun _ => v, (bindValue value names v mid).2) := by
  rw [evaluate, Evaluation.bind_apply, h]
  show (bindValue value names v >>= fun _ => pure v : Evaluation Value) mid = _
  rw [Evaluation.bind_apply]
  rcases bindValue value names v mid with ⟨_ | _, left⟩
  · rfl
  · rfl

/-- Once the value of a binding of distinct names is known, the binding changes nothing but what its names are bound to. A single
name is bound to the value, and marked if and only if the value is that of a reference to the table of headers. Several names
are bound to the items of a sequence at their positions or to the entries of a map under them, and a name without one keeps its
binding. A value of another kind is no table to take apart, and leaves everything as it was. -/
theorem evaluate_binding_of_value (value : Expr) (names : List String) (v : Value) (ctx mid : Context)
    (hdistinct : names.Nodup) (hvalue : value.evaluate ctx = (.ok v, mid)) :
    let result := ((binding value names).evaluate ctx).1
    let left := ((binding value names).evaluate ctx).2
    (left.callCount = mid.callCount ∧ left.request = mid.request ∧ left.draws = mid.draws ∧
      ∀ k, k ∉ names → left.bindings.get? k = mid.bindings.get? k) ∧
    (∀ name, names = [name] →
      result = .ok v ∧ left.bindings.get? name = some ⟨v, mid.givesHeaders value⟩) ∧
    (names.length ≠ 1 →
      (∀ items, v = .sequence items → result = .ok v ∧ ∀ i (hi : i < names.length),
        left.bindings.get? names[i] = (items[i]?.map (⟨·, false⟩)).or (mid.bindings.get? names[i])) ∧
      (∀ entries : Entries Value, v = .map entries → result = .ok v ∧ ∀ name ∈ names,
        left.bindings.get? name = ((entries.get? name).map (⟨·, false⟩)).or (mid.bindings.get? name)) ∧
      (v.isTable = false → result = .error (.notDestructible v.kind names.length) ∧ left = mid)) := by
  intro result left
  have hresult : result = (bindValue value names v mid).1.map fun _ => v :=
    congrArg Prod.fst (evaluate_binding_eq hvalue names)
  have hleft : left = (bindValue value names v mid).2 := congrArg Prod.snd (evaluate_binding_eq hvalue names)
  refine ⟨?_, ?_, fun hseveral => ⟨?_, ?_, ?_⟩⟩
  · have hframe := bindsOnly_bindValue value names v mid
    rw [hleft]
    exact ⟨hframe.callCount, hframe.request, hframe.draws, hframe.others⟩
  · rintro name rfl
    rw [hresult, hleft, mid.bindValue_singleton]
    exact ⟨rfl, (mid.get?_withBinding name name _).trans (if_pos rfl)⟩
  · rintro items rfl
    rw [hresult, hleft, mid.bindValue_of_length_ne_one hseveral]
    exact ⟨rfl, fun i hi => mid.get?_bindItems hdistinct items hi⟩
  · rintro entries rfl
    rw [hresult, hleft, mid.bindValue_of_length_ne_one hseveral]
    exact ⟨rfl, fun name hname => (mid.get?_bindEntries names entries name).trans (if_pos hname)⟩
  · intro htable
    rw [hresult, hleft, mid.bindValue_of_length_ne_one hseveral]
    cases v with
    | sequence items => cases htable
    | map entries => cases htable
    | _ => exact ⟨rfl, rfl⟩

/-- The sequence `{"x" >> b}` is taken apart into `a` and `b`. There is no item for `b`, which keeps what evaluating the sequence
has bound it to. -/
theorem evaluate_binding_of_value_of_short_sequence :
    let value : Expr := .sequence [.binding (.text "x") ["b"]]
    let names := ["a", "b"]
    let ctx := Context.ofRequest 1 (.ofTarget "GET" "/") (.seeded 1)
    let mid := ctx.bind "b" (.text "x")
    let left := ((binding value names).evaluate ctx).2
    names.Nodup ∧ value.evaluate ctx = (.ok (.sequence [.text "x"]), mid) ∧
      left.bindings.get? "a" = some ⟨.text "x", false⟩ ∧ left.bindings.get? "b" = some ⟨.text "x", false⟩ ∧
      left.bindings.get? "c" = none := by
  intro value names ctx mid left
  have hvalue : value.evaluate ctx = (.ok (.sequence [.text "x"]), mid) := by rfl
  have hdistinct : names.Nodup := by decide
  obtain ⟨hframe, -, hseveral⟩ := evaluate_binding_of_value value names _ ctx mid hdistinct hvalue
  have hitems := ((hseveral (by decide)).1 _ rfl).2
  exact ⟨hdistinct, hvalue, hitems 0 (by decide), hitems 1 (by decide), hframe.2.2.2 "c" (by decide)⟩

end Expr

end ConditionLang
