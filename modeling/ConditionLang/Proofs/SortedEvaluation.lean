import ConditionLang.Command.Invocation
import ConditionLang.Condition.Run
import ConditionLang.Proofs.Bindings
import ConditionLang.Proofs.Operations
import ConditionLang.Proofs.SortedMaps

/-!
# Evaluations keep maps in order

An evaluation makes no map but by insertions: a lookup finds a part of a value, an operator makes no table, and a call comes
to a part of its target or to a value without maps. So in a context whose values have their maps in order every expression has
such a value, and leaves such a context, also if it fails (`keepsSorted_evaluate`). The fresh context of a command line is one
(`Command.sorted_request`), and a run leaves one (`Block.sorted_run`). Hence `==` always decides equality by keys, whatever it
is applied to (`evaluate_equality`).
-/

namespace ConditionLang

/-! ## Contexts -/

/-- The tables of the request are in order, and so are the maps in the values of variables. -/
structure Context.Sorted (ctx : Context) : Prop where
  request : ctx.request.Sorted
  bound : ∀ name v, ctx.bound? name = some v → v.Sorted

namespace Context

variable {ctx : Context}

/-- At the start a context is as sorted as its request. -/
theorem sorted_ofRequest (callCount : Nat) {request : Request} (h : request.Sorted) (draws : Draws) :
    (ofRequest callCount request draws).Sorted :=
  ⟨h, fun _ _ hbound => nomatch hbound⟩

/-- A binding to a sorted value keeps a context sorted. -/
theorem Sorted.withBinding (h : ctx.Sorted) (name : String) {b : Binding} (hb : b.value.Sorted) :
    (ctx.withBinding name b).Sorted where
  request := h.request
  bound k v hv := by
    rw [bound?_withBinding] at hv
    split at hv
    · cases hv
      exact hb
    · exact h.bound k v hv

/-- The parts of a sorted request are sorted. -/
theorem Sorted.part (h : ctx.Sorted) (c : ContextName) : (ctx.part c).Sorted := by
  cases c with
  | request => exact h.request.table
  | query => exact Value.sorted_ofTexts h.request.query
  | headers => exact Value.sorted_ofTexts h.request.headers
  | body => exact h.request.body
  | _ => exact Value.sorted_of_isTable rfl

/-! ## Lookups -/

/-- What is found in a list of values in order, or else a missing value, is in order. -/
theorem sorted_getD {found : Option Value} (h : ∀ v, found = some v → v.Sorted) : (found.getD .missing).Sorted := by
  cases found with
  | none => exact Value.sorted_of_isTable rfl
  | some v => exact h v rfl

/-- A step into a sorted value leads to a sorted value. -/
theorem sorted_of_step {v next : Value} (hv : v.Sorted) {access : Access} {key : String}
    (h : v.step access key = .ok next) : next.Sorted := by
  unfold Value.step at h
  split at h
  · cases h
    exact sorted_getD fun w hw => (Value.sorted_map_iff.mp hv).2 _ (Entries.mem_of_get? hw)
  · split at h
    · cases h
      exact sorted_getD fun item hitem => Value.sorted_sequence_iff.mp hv item (List.mem_of_getElem? hitem)
    · cases h
  · cases h

/-- Steps from a sorted value lead to a sorted value. -/
theorem sorted_of_walk {walked : Reference} {v found : Value} {scope : Scope} {path : List Access} (hv : v.Sorted)
    (h : walk walked v scope path = .ok found) : found.Sorted := by
  induction path generalizing walked v scope with
  | nil =>
    cases h
    exact hv
  | cons access path ih =>
    rw [walk] at h
    split at h
    · cases h
    · cases hstep : v.step access (scope.key access) with
      | error e =>
        rw [hstep] at h
        cases h
      | ok next =>
        rw [hstep] at h
        exact ih (sorted_of_step hv hstep) h

/-- In a context in order, the value of a reference is in order. -/
theorem Sorted.lookup (hctx : ctx.Sorted) {ref : Reference} {v : Value} (h : ctx.lookup ref = .ok v) : v.Sorted := by
  rcases ctx.base_of_lookup h with ⟨c, -, hbase⟩ | ⟨b, -, hb, hbase⟩
  · rw [lookup_of_base ctx hbase] at h
    exact sorted_of_walk (hctx.part c) h
  · have hbound : ctx.bound? ref.name = some b.value := by rw [bound?, hb, Option.map_some]
    rw [lookup_of_base ctx hbase] at h
    exact sorted_of_walk (hctx.bound ref.name b.value hbound) h

end Context

/-! ## Calls and operators -/

/-- Whatever is drawn, the value that a call comes to has its maps in order. -/
def Drawn.Sorted : Drawn → Prop
  | .value v => v.Sorted
  | .choice _ valueOf => ∀ n, (valueOf n).Sorted

namespace Builtin

variable {d : Drawn}

/-- A result that is mapped to sorted values is sorted. -/
theorem sorted_of_map {α : Type} {r : Result α} {f : α → Drawn} (hf : ∀ a, r = .ok a → (f a).Sorted)
    (h : r.map f = .ok d) : d.Sorted := by
  cases r with
  | error e => cases h
  | ok a => exact Except.ok.inj h ▸ hf a rfl

/-- Results in sequence are sorted if the last one is. -/
theorem sorted_of_bind {α : Type} {r : Result α} {f : α → Result Drawn} (hf : ∀ a, f a = .ok d → d.Sorted)
    (h : r >>= f = .ok d) : d.Sorted := by
  cases r with
  | error e => cases h
  | ok a => exact hf a h

/-- A text is split into texts. -/
theorem sorted_of_partsOf {target separator v : Value} (h : partsOf target separator = .ok v) : v.Sorted := by
  unfold partsOf at h
  cases htarget : textOf split .textTarget target with
  | error e =>
    rw [htarget] at h
    cases h
  | ok s =>
    cases hseparator : textOf split .textArgument separator with
    | error e =>
      rw [htarget, hseparator] at h
      cases h
    | ok separator =>
      rw [htarget, hseparator] at h
      cases h
      refine Value.sorted_sequence_iff.mpr fun item hitem => ?_
      obtain ⟨part, -, rfl⟩ := List.mem_map.mp hitem
      exact Value.sorted_of_isTable rfl

/-- One of some sorted values is sorted. -/
theorem sorted_of_oneOf {values : List Value} (hvalues : ∀ v ∈ values, v.Sorted) (h : oneOf values = .ok d) :
    d.Sorted := by
  unfold oneOf at h
  split at h
  · cases h
  · cases h
    exact fun n => Context.sorted_getD fun v hv => hvalues v (List.mem_of_getElem? hv)

/-- A member of a table in order is in order. -/
theorem sorted_of_memberOf {target : Value} (htarget : target.Sorted) (h : memberOf target = .ok d) : d.Sorted := by
  unfold memberOf at h
  split at h
  · exact sorted_of_oneOf (Value.sorted_sequence_iff.mp htarget) h
  · refine sorted_of_oneOf (fun v hv => ?_) h
    obtain ⟨entry, hentry, rfl⟩ := List.mem_map.mp hv
    exact (Value.sorted_map_iff.mp htarget).2 entry hentry
  · cases h

/-- A check that fails comes to nothing, so only what follows it matters. -/
theorem sorted_of_check {c : Prop} [Decidable c] {e : EvalError} {f : PUnit → Result Drawn} {r : Result Drawn}
    (hr : r = .ok d → d.Sorted) (h : (if c then throw e >>= f else r) = .ok d) : d.Sorted := by
  by_cases hc : c
  · rw [if_pos hc] at h
    cases h
  · rw [if_neg hc] at h
    exact hr h

theorem sorted_of_integerBetween {min max : Value} (h : integerBetween min max = .ok d) : d.Sorted := by
  refine sorted_of_bind (fun a h => sorted_of_bind (fun b h => sorted_of_check (fun h => ?_) h) h) h
  cases h
  exact fun _ => Value.sorted_of_isTable rfl

theorem sorted_of_numberBetween {min max : Value} (h : numberBetween min max = .ok d) : d.Sorted := by
  refine sorted_of_bind (fun a h => sorted_of_bind (fun b h => ?_) h) h
  refine sorted_of_check (sorted_of_check (sorted_of_check fun h => ?_)) h
  cases h
  exact fun _ => Value.sorted_of_isTable rfl

/-- A built-in that is applied to a target in order comes to a value in order: a part of the target, or one without maps. -/
theorem sorted_of_apply {b : Builtin} {target : Value} {args : List Value} (htarget : target.Sorted)
    (h : b.apply target args = .ok d) : d.Sorted := by
  unfold apply at h
  split at h
  case h_1 => exact sorted_of_map (fun _ => sorted_of_partsOf) h
  case h_2 | h_3 | h_4 | h_8 | h_9 =>
    refine sorted_of_map (fun _ _ => ?_) h
    exact Value.sorted_of_isTable rfl
  case h_5 | h_6 | h_7 | h_14 | h_15 | h_16 | h_17 =>
    refine sorted_of_bind (fun _ h => ?_) h
    cases h
    exact Value.sorted_of_isTable rfl
  case h_10 | h_11 | h_12 | h_13 =>
    cases h
    exact Value.sorted_of_isTable rfl
  case h_18 | h_19 =>
    cases h
    exact fun _ => Value.sorted_of_isTable rfl
  case h_20 => exact sorted_of_integerBetween h
  case h_21 => exact sorted_of_numberBetween h
  case h_22 => exact sorted_of_memberOf htarget h
  case h_23 => cases h

/-- A call on a sorted target comes to a sorted value. -/
theorem sorted_of_call {name : String} {target : Option Value} {args : List Value}
    (htarget : ∀ v, target = some v → v.Sorted) (h : call name target args = .ok d) : d.Sorted := by
  rcases call_cases name target args with ⟨-, hcall⟩ | ⟨b, -, ⟨cause, -, hcall⟩ | ⟨-, -, hcall⟩⟩
  · rw [hcall] at h
    cases h
  · rw [hcall] at h
    cases h
  · rw [hcall] at h
    exact sorted_of_apply (Context.sorted_getD htarget) h

end Builtin

/-- No operator makes a map. -/
theorem Operator.sorted_of_apply {op : Operator} {left right v : Value} (h : op.apply left right = .ok v) : v.Sorted := by
  refine Value.sorted_of_isTable ?_
  unfold apply at h
  split at h
  · cases h
    rfl
  · cases h
    rfl
  · cases h
    rfl
  · split at h
    · cases h
      rfl
    · cases h
  · split at h
    · cases h
      rfl
    · cases h
  · split at h
    · split at h
      · cases h
        rfl
      · rename_i x y _ _ _
        cases hnumber : op.arithmetic x y with
        | error e =>
          rw [hnumber] at h
          cases h
        | ok z =>
          rw [hnumber] at h
          cases h
          rfl
    · cases h

/-- A negated value is a truth value. -/
theorem Value.sorted_of_negate {v w : Value} (h : v.negate = .ok w) : w.Sorted := by
  refine sorted_of_isTable ?_
  unfold negate at h
  split at h
  · cases h
    rfl
  · cases h
    rfl
  · cases h

/-! ## Evaluations -/

namespace Context

variable {ctx : Context}

/-- Bindings to sorted values keep a context sorted. -/
theorem Sorted.bindAll (h : ctx.Sorted) {pairs : List (String × Value)} (hpairs : ∀ pair ∈ pairs, pair.2.Sorted) :
    (ctx.bindAll pairs).Sorted :=
  List.foldlRecOn pairs _ h fun _ h pair hpair => h.withBinding pair.1 (hpairs pair hpair)

/-- Taking a value in order apart binds names to values in order. -/
theorem Sorted.assign (h : ctx.Sorted) {v : Value} (hv : v.Sorted) (names : List String) :
    (assign names v ctx).2.Sorted := by
  unfold ConditionLang.assign
  split
  · exact h.withBinding _ hv
  · rename_i entries _
    show (ctx.bindEntries names entries).Sorted
    rw [bindEntries_eq_bindAll]
    refine h.bindAll fun pair hpair => ?_
    obtain ⟨name, -, hvalue⟩ := List.mem_filterMap.mp hpair
    obtain ⟨value, hget, rfl⟩ := Option.map_eq_some_iff.mp hvalue
    exact (Value.sorted_map_iff.mp hv).2 _ (Entries.mem_of_get? hget)
  · exact h.bindAll fun pair hpair => Value.sorted_sequence_iff.mp hv _ (List.of_mem_zip hpair).2
  · exact h

/-- The operator `>>` on a sorted value keeps a context sorted. -/
theorem Sorted.bindValue (h : ctx.Sorted) {v : Value} (hv : v.Sorted) (source : Expr) (names : List String) :
    (bindValue source names v ctx).2.Sorted := by
  rcases ctx.bindValue_eq source names v with ⟨_, name, -, -, -, hmark⟩ | hassign
  · rw [hmark]
    exact h.withBinding name hv
  · rw [hassign]
    exact h.assign hv names

end Context

namespace Evaluation

variable {α β : Type}

/-- The computation leaves every context in order so, and its value, if it comes to one, satisfies `P`. -/
def KeepsSorted (P : α → Prop) (m : Evaluation α) : Prop :=
  ∀ ctx, ctx.Sorted → (∀ a, (m ctx).1 = .ok a → P a) ∧ (m ctx).2.Sorted

variable {P : α → Prop} {Q : β → Prop}

theorem keepsSorted_ofExcept {r : Except EvalError α} (h : ∀ a, r = .ok a → P a) : (ofExcept r).KeepsSorted P :=
  fun _ hctx => ⟨h, hctx⟩

theorem keepsSorted_pure {a : α} (h : P a) : (pure a : Evaluation α).KeepsSorted P :=
  keepsSorted_ofExcept fun _ ha => Except.ok.inj ha ▸ h

/-- What is known of the value of the first part is known when the second one goes on with it. -/
theorem KeepsSorted.bind {m : Evaluation α} {f : α → Evaluation β} (hm : m.KeepsSorted P)
    (hf : ∀ a, P a → (f a).KeepsSorted Q) : (m >>= f).KeepsSorted Q := by
  intro ctx hctx
  have hfirst := hm ctx hctx
  rw [bind_apply]
  generalize m ctx = r at hfirst
  rcases r with ⟨e | a, left⟩
  · exact ⟨fun _ hb => (nomatch hb), hfirst.2⟩
  · exact hf a (hfirst.1 a rfl) left hfirst.2

/-- A draw of a sorted value leaves the context sorted. -/
theorem keepsSorted_settle {d : Drawn} (hd : d.Sorted) : (settle d).KeepsSorted Value.Sorted := by
  cases d with
  | value v => exact keepsSorted_pure hd
  | choice bound valueOf =>
    refine fun ctx hctx => ⟨fun v hv => ?_, ⟨hctx.request, hctx.bound⟩⟩
    cases hv
    exact hd _

/-- A call on a sorted target leaves the context sorted, and its value is sorted. -/
theorem keepsSorted_invoke (name : String) {target : Option Value} (htarget : ∀ v, target = some v → v.Sorted)
    (values : List Value) : (invoke name target values).KeepsSorted Value.Sorted :=
  (keepsSorted_ofExcept fun _ => Builtin.sorted_of_call htarget).bind fun _ => keepsSorted_settle

end Evaluation

namespace Expr

open Evaluation

mutual

/-- An evaluation leaves every context in order so, and the value has its maps in order. -/
theorem keepsSorted_evaluate (e : Expr) : e.evaluate.KeepsSorted Value.Sorted := by
  cases e with
  | number _ | truth _ | text _ | range _ _ =>
    rw [evaluate]
    exact keepsSorted_pure (Value.sorted_of_isTable rfl)
  | reference ref =>
    intro ctx hctx
    rw [evaluate_reference]
    exact ⟨fun _ => hctx.lookup, hctx⟩
  | sequence items =>
    rw [evaluate]
    exact (keepsSorted_evaluateItems items).bind fun _ h => keepsSorted_pure (Value.sorted_sequence_iff.mpr h)
  | dictionary pairs =>
    rw [evaluate]
    exact (keepsSorted_evaluatePairs pairs).bind fun _ h => keepsSorted_pure (Value.sorted_ofPairs h)
  | binary op left right =>
    rw [evaluate]
    refine (keepsSorted_evaluate left).bind fun _ _ => (keepsSorted_evaluate right).bind fun _ _ => ?_
    exact keepsSorted_ofExcept fun _ => Operator.sorted_of_apply
  | negation operand =>
    rw [evaluate]
    exact (keepsSorted_evaluate operand).bind fun _ _ => keepsSorted_ofExcept fun _ => Value.sorted_of_negate
  | binding value names =>
    rw [evaluate]
    refine (keepsSorted_evaluate value).bind fun v hv => ?_
    have hbound : (bindValue value names v).KeepsSorted fun _ => True := fun _ hctx =>
      ⟨fun _ _ => trivial, hctx.bindValue hv value names⟩
    exact hbound.bind fun _ _ => keepsSorted_pure hv
  | call name args =>
    rw [evaluate]
    have hnone : ∀ v : Value, none = some v → v.Sorted := nofun
    exact (keepsSorted_evaluateItems args).bind fun values _ => keepsSorted_invoke name hnone values
  | method target name args =>
    rw [evaluate]
    refine (keepsSorted_evaluate target).bind fun t ht => (keepsSorted_evaluateItems args).bind fun values _ => ?_
    exact keepsSorted_invoke name (fun _ hv => Option.some.inj hv ▸ ht) values

theorem keepsSorted_evaluateItems (items : List Expr) :
    (evaluateItems items).KeepsSorted fun values => ∀ v ∈ values, v.Sorted := by
  cases items with
  | nil =>
    rw [evaluateItems]
    exact keepsSorted_pure (List.forall_mem_nil _)
  | cons item items =>
    rw [evaluateItems]
    refine (keepsSorted_evaluate item).bind fun v hv => (keepsSorted_evaluateItems items).bind fun vs hvs => ?_
    exact keepsSorted_pure (List.forall_mem_cons.mpr ⟨hv, hvs⟩)

theorem keepsSorted_evaluatePairs (pairs : List (String × Expr)) :
    (evaluatePairs pairs).KeepsSorted fun values => ∀ pair ∈ values, pair.2.Sorted := by
  cases pairs with
  | nil =>
    rw [evaluatePairs]
    exact keepsSorted_pure (List.forall_mem_nil _)
  | cons pair pairs =>
    obtain ⟨key, value⟩ := pair
    rw [evaluatePairs]
    refine (keepsSorted_evaluate value).bind fun v hv => (keepsSorted_evaluatePairs pairs).bind fun vs hvs => ?_
    exact keepsSorted_pure (List.forall_mem_cons.mpr ⟨hv, hvs⟩)

end

variable {ctx mid last : Context} {left right : Expr} {a b : Value}

/-- In a context in order, `==` decides whether two values are equal by their keys. -/
theorem evaluate_equality (h : ctx.Sorted) (hleft : left.evaluate ctx = (.ok a, mid))
    (hright : right.evaluate mid = (.ok b, last)) :
    (binary .eq left right).evaluate ctx = (.ok (.truth (a.equalsByKey b)), last) := by
  obtain ⟨ha, hmid⟩ := keepsSorted_evaluate left ctx h
  rw [hleft] at ha hmid
  obtain ⟨hb, -⟩ := keepsSorted_evaluate right mid hmid
  rw [hright] at hb
  rw [evaluate, bind_apply, hleft]
  show (right.evaluate >>= fun r => ofExcept (Operator.apply .eq a r) : Evaluation Value) mid = _
  rw [bind_apply, hright, ← Value.equals_eq_equalsByKey (ha a rfl) (hb b rfl)]
  rfl

end Expr

/-! ## Runs and command lines -/

/-- The verdict on a line leaves a sorted context sorted. -/
theorem ConditionLine.keepsSorted_verdict (l : ConditionLine) : l.verdict.KeepsSorted fun _ => True := by
  refine l.expr.keepsSorted_evaluate.bind fun v _ => ?_
  split
  · exact Evaluation.keepsSorted_pure trivial
  · exact Evaluation.keepsSorted_ofExcept fun _ _ => trivial

/-- A run of a block leaves a context in order so, also when a line fails. -/
theorem Block.sorted_run {ctx : Context} (h : ctx.Sorted) (lines : List ConditionLine) : (run lines ctx).context.Sorted := by
  suffices hfrom : ∀ verdict ctx, ctx.Sorted → (runFrom verdict ctx lines).context.Sorted from hfrom true ctx h
  induction lines with
  | nil => exact fun _ _ h => h
  | cons l rest ih =>
    intro verdict ctx h
    have hline := (l.keepsSorted_verdict ctx h).2
    rw [runFrom]
    split
    · exact ih verdict ctx h
    · split
      · rename_i hverdict
        rw [hverdict] at hline
        exact hline
      · rename_i hverdict
        rw [hverdict] at hline
        exact ih _ _ hline

namespace Command

/-- A sequence that does not fail ends with what its second part has come to. -/
theorem exists_of_bind_eq_ok {α β : Type} {r : Except Refusal α} {f : α → Except Refusal β} {b : β}
    (h : r >>= f = .ok b) : ∃ a, f a = .ok b := by
  cases r with
  | error e => cases h
  | ok a => exact ⟨a, h⟩

/-- The request that a command line writes is in order. -/
theorem sorted_request {ps : List Piece} {e : Evaluated} (h : ofEval ps = .ok (.eval e)) : e.request.Sorted := by
  unfold ofEval at h
  split at h
  · cases h
  · obtain ⟨source, h⟩ := exists_of_bind_eq_ok h
    obtain ⟨callCount, h⟩ := exists_of_bind_eq_ok h
    obtain ⟨method, h⟩ := exists_of_bind_eq_ok h
    obtain ⟨path, h⟩ := exists_of_bind_eq_ok h
    obtain ⟨headers, h⟩ := exists_of_bind_eq_ok h
    obtain ⟨query, h⟩ := exists_of_bind_eq_ok h
    obtain ⟨body, h⟩ := exists_of_bind_eq_ok h
    obtain ⟨seed, h⟩ := exists_of_bind_eq_ok h
    cases h
    have htarget := Request.sorted_ofTarget (method.getD "GET") (path.getD "/")
    have hheaders := List.foldlRecOn headers (fun r (header : String × String) => r.withHeader header.1 header.2) htarget
      fun _ h header _ => h.withHeader header.1 header.2
    have hquery := List.foldlRecOn query (fun r (pair : String × String) => r.withQuery pair.1 pair.2) hheaders
      fun _ h pair _ => h.withQuery pair.1 pair.2
    cases body with
    | none => exact hquery
    | some text => exact hquery.withBody (Request.sorted_bodyOfText text)

end Command

end ConditionLang
