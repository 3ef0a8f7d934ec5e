import ConditionLang.Condition.Run
import ConditionLang.Proofs.Bindings
import ConditionLang.Proofs.Evaluation
import ConditionLang.Proofs.Linting
import ConditionLang.Proofs.Loading
import ConditionLang.Proofs.Operations

/-!
# Linting and running

Linting and a run visit the reads and the bindings of an expression in the same order. So a relation between computations
and the states of linting before and after them that survives sequencing (`Tracks`) holds of an evaluation and of linting
the same expression as soon as it holds of single reads and bindings (`tracks_visit`).

There are two such relations. A run binds no more than linting does, and passes no read that linting warns of (`Covers`):
hence no warning about an unbound variable is a false alarm (`run_fails_at_unbound_variable`). Where every binding is of a
single name, it also binds no less (`Supplies`): hence no undefined variable is read without a warning, as long as no line
is skipped before one that is evaluated (`run_ne_undefinedVariable`).
-/

namespace ConditionLang

/-! ## Bound names -/

namespace Context

/-- A variable of that name is bound. -/
def Binds (ctx : Context) (name : String) : Prop :=
  ctx.bound? name ≠ none

variable {ctx : Context} {name k : String}

/-- A name is bound if and only if there is a binding of it. -/
theorem binds_iff : ctx.Binds name ↔ ∃ b, ctx.bindings.get? name = some b := by
  rw [Binds, bound?, ne_eq, Option.map_eq_none_iff, ← ne_eq, Option.ne_none_iff_exists']

/-- A binding binds its name besides those bound before. -/
theorem binds_withBinding {b : Binding} : (ctx.withBinding name b).Binds k ↔ k = name ∨ ctx.Binds k := by
  rw [Binds, Binds, bound?_withBinding]
  by_cases hk : k = name
  · simp [hk]
  · simp [hk]

/-- A name that is bound after several bindings is one of theirs or was bound before. -/
theorem of_binds_bindAll {pairs : List (String × Value)} (h : (ctx.bindAll pairs).Binds k) :
    (∃ pair ∈ pairs, pair.1 = k) ∨ ctx.Binds k := by
  induction pairs generalizing ctx with
  | nil => exact .inr h
  | cons pair pairs ih =>
    rcases ih h with ⟨p, hp, hk⟩ | h
    · exact .inl ⟨p, List.mem_cons_of_mem _ hp, hk⟩
    · rcases binds_withBinding.mp h with rfl | h
      · exact .inl ⟨pair, List.mem_cons_self, rfl⟩
      · exact .inr h

/-- A binding binds none but its names. -/
theorem of_binds_bindValue {source : Expr} {names : List String} {v : Value}
    (h : (bindValue source names v ctx).2.Binds k) : k ∈ names ∨ ctx.Binds k := by
  rcases ctx.bindValue_eq source names v with ⟨_, name, -, rfl, -, hmark⟩ | hassign
  · rw [hmark] at h
    exact (binds_withBinding.mp h).imp List.mem_singleton.mpr id
  · obtain ⟨pairs, hpairs, hnames⟩ := exists_bindAll_of_assign names v
    rw [hassign, hpairs] at h
    rcases of_binds_bindAll h with ⟨pair, hpair, rfl⟩ | h
    · exact .inl (hnames pair hpair)
    · exact .inr h

/-- A reference has a value only if its name is one of the context or is bound. -/
theorem of_lookup_eq_ok {ref : Reference} {v : Value} (h : ctx.lookup ref = .ok v) :
    isContextName ref.name = true ∨ ctx.Binds ref.name := by
  rcases ctx.base_of_lookup h with ⟨c, hname, -⟩ | ⟨b, -, hb, -⟩
  · rw [hname, isContextName, ContextName.ofName?_name]
    exact .inl rfl
  · exact .inr (binds_iff.mpr ⟨b, hb⟩)

/-- A reference whose name is one of the context or is bound is not undefined. -/
theorem lookup_ne_undefinedVariable {ref : Reference} (h : isContextName ref.name = true ∨ ctx.Binds ref.name)
    (x : String) : ctx.lookup ref ≠ .error (.undefinedVariable x) := by
  have hbase : ∃ found, ctx.base ref.name = .ok found := by
    rcases ctx.base_cases ref.name with ⟨c, -, hbase⟩ | ⟨hfree, ⟨b, -, hbase⟩ | ⟨hnone, -⟩⟩
    · exact ⟨_, hbase⟩
    · exact ⟨_, hbase⟩
    · rcases h with h | h
      · cases hfree.symm.trans h
      · obtain ⟨b, hb⟩ := binds_iff.mp h
        cases hnone.symm.trans hb
  obtain ⟨⟨v, scope⟩, hbase⟩ := hbase
  intro herror
  unfold lookup at herror
  rw [hbase] at herror
  exact failsOfOperation_walk _ _ _ _ _ herror

end Context

/-- What fails of an operation has read no undefined variable. -/
theorem FailsOfOperation.ne_undefinedVariable {α : Type} {r : Except EvalError α} (h : FailsOfOperation r) (x : String) :
    r ≠ .error (.undefinedVariable x) :=
  fun herror => h _ herror

/-- Whatever is called, a call reads no variables. -/
theorem Builtin.call_ne_undefinedVariable (name : String) (target : Option Value) (args : List Value) (x : String) :
    call name target args ≠ .error (.undefinedVariable x) := by
  rcases call_cases name target args with ⟨-, hcall⟩ | ⟨b, -, ⟨cause, -, hcall⟩ | ⟨-, hcount, hcall⟩⟩
  · rw [hcall]
    nofun
  · rw [hcall]
    nofun
  · rw [hcall]
    exact (failsOfOperation_apply b _ args hcount).ne_undefinedVariable x

namespace Lint

/-! ## Linting beside an evaluation -/

/-- A relation between computations and the states of linting before and after them, which holds of computations that read no
variables and leave the state as it is, of lookups, and of a sequence if it holds of both parts. -/
structure Tracks (P : (α : Type) → Evaluation α → State → State → Prop) : Prop where
  ofExcept : ∀ {α : Type} {r : Except EvalError α} (s : State), (∀ x, r ≠ .error (.undefinedVariable x)) →
    P α (.ofExcept r) s s
  settle : ∀ (d : Drawn) (s : State), P Value (.settle d) s s
  lookup : ∀ (ref : Reference) (s : State), P Value (.read (·.lookup ref)) s (s.read ref.name)
  bind : ∀ {α β : Type} {m : Evaluation α} {f : α → Evaluation β} {s t u : State}, P α m s t → (∀ a, P β (f a) t u) →
    t.Within u → P β (m >>= f) s u

variable {P : (α : Type) → Evaluation α → State → State → Prop}

theorem Tracks.pure (hP : Tracks P) {α : Type} (a : α) (s : State) : P α (Pure.pure a) s s :=
  hP.ofExcept s fun _ h => nomatch h

/-- What follows may leave the state of linting as it is. -/
theorem Tracks.seq (hP : Tracks P) {α β : Type} {m : Evaluation α} {f : α → Evaluation β} {s t : State} (hm : P α m s t)
    (hf : ∀ a, P β (f a) t t) : P β (m >>= f) s t :=
  hP.bind hm hf t.within_refl

theorem Tracks.invoke (hP : Tracks P) (name : String) (target : Option Value) (values : List Value) (s : State) :
    P Value (Evaluation.invoke name target values) s s :=
  hP.seq (hP.ofExcept s (Builtin.call_ne_undefinedVariable name target values)) fun d => hP.settle d s

/-- The relation holds of what an expression binds by itself, if it is a binding. -/
def TracksBinding (P : (α : Type) → Evaluation α → State → State → Prop) : Expr → Prop
  | .binding value names => ∀ v (s : State), P Unit (bindValue value names v) s (names.foldl .bind s)
  | _ => True

mutual

/-- The relation holds of an evaluation and of linting the expression, if it holds of its bindings. -/
theorem tracks_visit (hP : Tracks P) (e : Expr) (h : ∀ part ∈ e.parts, TracksBinding P part) (s : State) :
    P Value e.evaluate s (visit s e) := by
  cases e with
  | number _ | truth _ | text _ | range _ _ =>
    rw [Expr.evaluate, visit]
    exact hP.pure _ s
  | reference ref =>
    rw [Expr.evaluate, visit]
    exact hP.lookup ref s
  | sequence items =>
    have hitems := tracks_visitItems hP items (fun part hpart => h part (by simp [Expr.parts, hpart])) s
    rw [Expr.evaluate, visit]
    exact hP.seq hitems fun _ => hP.pure _ _
  | dictionary pairs =>
    have hpairs := tracks_visitPairs hP pairs (fun part hpart => h part (by simp [Expr.parts, hpart])) s
    rw [Expr.evaluate, visit]
    exact hP.seq hpairs fun _ => hP.pure _ _
  | binary op left right =>
    have hleft := tracks_visit hP left (fun part hpart => h part (by simp [Expr.parts, hpart])) s
    have hright := tracks_visit hP right (fun part hpart => h part (by simp [Expr.parts, hpart])) (visit s left)
    rw [Expr.evaluate, visit]
    refine hP.bind hleft (fun l => hP.seq hright fun r => ?_) (within_visit _ right)
    exact hP.ofExcept _ (Operator.failsOfOperation_apply op l r).ne_undefinedVariable
  | negation operand =>
    have hoperand := tracks_visit hP operand (fun part hpart => h part (by simp [Expr.parts, hpart])) s
    rw [Expr.evaluate, visit]
    exact hP.seq hoperand fun v => hP.ofExcept _ v.failsOfOperation_negate.ne_undefinedVariable
  | binding value names =>
    have hvalue := tracks_visit hP value (fun part hpart => h part (by simp [Expr.parts, hpart])) s
    have hnames := h (.binding value names) (Expr.self_mem_parts _)
    have hwithin : (visit s value).Within (names.foldl State.bind (visit s value)) :=
      List.foldlRecOn names State.bind (State.within_refl _) fun _ ht name _ => ht.bind name
    rw [Expr.evaluate, visit]
    exact hP.bind hvalue (fun v => hP.seq (hnames v _) fun _ => hP.pure v _) hwithin
  | call name args =>
    have hargs := tracks_visitItems hP args (fun part hpart => h part (by simp [Expr.parts, hpart])) s
    rw [Expr.evaluate, visit]
    exact hP.seq hargs fun values => hP.invoke name none values _
  | method target name args =>
    have htarget := tracks_visit hP target (fun part hpart => h part (by simp [Expr.parts, hpart])) s
    have hargs :=
      tracks_visitItems hP args (fun part hpart => h part (by simp [Expr.parts, hpart])) (visit s target)
    rw [Expr.evaluate, visit]
    exact hP.bind htarget (fun t => hP.seq hargs fun values => hP.invoke name (some t) values _) (within_visitItems _ args)

theorem tracks_visitItems (hP : Tracks P) (items : List Expr) (h : ∀ part ∈ Expr.partsOfItems items, TracksBinding P part)
    (s : State) : P (List Value) (Expr.evaluateItems items) s (visitItems s items) := by
  cases items with
  | nil =>
    rw [Expr.evaluateItems, visitItems]
    exact hP.pure _ s
  | cons item items =>
    have hitem := tracks_visit hP item (fun part hpart => h part (by simp [Expr.partsOfItems, hpart])) s
    have hitems :=
      tracks_visitItems hP items (fun part hpart => h part (by simp [Expr.partsOfItems, hpart])) (visit s item)
    rw [Expr.evaluateItems, visitItems]
    exact hP.bind hitem (fun _ => hP.seq hitems fun _ => hP.pure _ _) (within_visitItems _ items)

theorem tracks_visitPairs (hP : Tracks P) (pairs : List (String × Expr))
    (h : ∀ part ∈ Expr.partsOfPairs pairs, TracksBinding P part) (s : State) :
    P (List (String × Value)) (Expr.evaluatePairs pairs) s (visitPairs s pairs) := by
  cases pairs with
  | nil =>
    rw [Expr.evaluatePairs, visitPairs]
    exact hP.pure _ s
  | cons pair pairs =>
    obtain ⟨key, value⟩ := pair
    have hvalue := tracks_visit hP value (fun part hpart => h part (by simp [Expr.partsOfPairs, hpart])) s
    have hpairs :=
      tracks_visitPairs hP pairs (fun part hpart => h part (by simp [Expr.partsOfPairs, hpart])) (visit s value)
    rw [Expr.evaluatePairs, visitPairs]
    exact hP.bind hvalue (fun _ => hP.seq hpairs fun _ => hP.pure _ _) (within_visitPairs _ pairs)

end

/-- The relation holds of the verdict of a line and of linting the line. -/
theorem tracks_line (hP : Tracks P) (l : ConditionLine) (h : ∀ part ∈ l.expr.parts, TracksBinding P part) (s : State) :
    P Bool l.verdict s (visit s l.expr) := by
  unfold ConditionLine.verdict
  refine hP.seq (tracks_visit hP l.expr h s) fun v => ?_
  split
  · exact hP.pure true _
  · refine hP.ofExcept _ fun x => ?_
    split <;> nofun

end Lint

end ConditionLang
