import ConditionLang.Proofs.Effects
import ConditionLang.Proofs.Evaluation
import ConditionLang.Proofs.Operations

/-!
# Evaluation with accesses that are not checked

Three operations have no result of their own for some operands: an item is taken by its place, a part of a list by two
positions, and an integer is drawn from a range. Here an evaluation may end in an overrun of one of them (`Unchecked`). The
guards that rule this out stand elsewhere: for arguments that are taken by their places with the signatures, for positions
and ranges before the operations, on the integers that doubles have been brought to.

No evaluation overruns, whatever the expression and the context, and it ends as the one whose operations always have a result
(`evaluateUnchecked_eq`).
-/

namespace ConditionLang

-- Powers are those of the core library, whatever other instances there are.
attribute [local instance (high)] instPowNat

/-- What an operation that is not checked would be stopped by. -/
inductive Overrun where
  | item (place length : Nat)
  | slice (start stop length : Nat)
  | emptyRange (first stop : Int)
  deriving Repr, DecidableEq

/-- A computation in a context that may fail, or be stopped by an overrun. -/
def Unchecked (α : Type) := Context → Except Overrun (Except EvalError α × Context)

namespace Unchecked

instance : Monad Unchecked where
  pure a ctx := .ok (.ok a, ctx)
  bind m f ctx :=
    match m ctx with
    | .ok (.ok a, ctx) => f a ctx
    | .ok (.error e, ctx) => .ok (.error e, ctx)
    | .error overrun => .error overrun

variable {α β : Type}

/-- A computation goes on unless the first part has failed or was stopped. -/
theorem bind_apply (m : Unchecked α) (f : α → Unchecked β) (ctx : Context) :
    (m >>= f) ctx = match m ctx with
      | .ok (.ok a, ctx) => f a ctx
      | .ok (.error e, ctx) => .ok (.error e, ctx)
      | .error overrun => .error overrun := rfl

/-- A computation without accesses. -/
def lift (m : Evaluation α) : Unchecked α :=
  fun ctx => .ok (m ctx)

/-- A result that does not need the context. -/
def ofExcept (r : Except EvalError α) : Unchecked α :=
  lift (.ofExcept r)

def overrun (o : Overrun) : Unchecked α :=
  fun _ => .error o

/-! ## The accesses -/

/-- The item at a place. -/
def item (values : List Value) (place : Nat) : Unchecked Value :=
  match values[place]? with
  | some v => pure v
  | none => overrun (.item place values.length)

/-- The items from one position up to but not including another. -/
def slice (items : List α) (start stop : Nat) : Unchecked (List α) :=
  if start ≤ stop ∧ stop ≤ items.length then pure ((items.drop start).take (stop - start))
  else overrun (.slice start stop items.length)

/-- An integer drawn from a range, from `first` up to but not including `stop`. -/
def drawFrom (first stop : Int) : Unchecked Int := fun ctx =>
  if first < stop then
    let (n, draws) := ctx.draws.draw (stop - first).toNat
    .ok (.ok (first + n), { ctx with draws })
  else .error (.emptyRange first stop)

/-- An integer of 64 bits with a sign as a position: the same bits without one. -/
def asPosition (n : Int) : Nat :=
  (n % 2 ^ (64 : Nat)).toNat

end Unchecked

/-! ## The evaluation -/

namespace Context

open Unchecked

/-- Takes the steps of a reference from the one at place `i` on. An error names the reference up to there. -/
def walkUnchecked (ref : Reference) (current : Value) (scope : Scope) (i : Nat) : List Access → Unchecked Value
  | [] => pure current
  | access :: path =>
    let key := scope.key access
    if current.isMissing then do
      let walked ← slice ref.path 0 i
      ofExcept (.error (.stepFromMissing ⟨ref.name, walked⟩ key))
    else do
      let next ← ofExcept (current.step access key)
      walkUnchecked ref next (scope.after key) (i + 1) path

/-- The value of a reference. -/
def lookupUnchecked (ref : Reference) : Unchecked Value := do
  let (value, scope) ← lift (.read (·.base ref.name))
  walkUnchecked ref value scope 0 ref.path

end Context

namespace Builtin

open Unchecked

/-- A part of a text, cut out at positions that have been checked as integers. -/
def partBetweenUnchecked (target start stop : Value) : Unchecked Value := do
  let s ← ofExcept (textOf substring .textTarget target)
  let start ← ofExcept (integerOf substring start)
  let stop ← ofExcept (integerOf substring stop)
  if start < 0 ∨ s.length ≤ start ∨ stop < 0 ∨ s.length < stop ∨ stop < start then
    ofExcept (.error (.fault substring (.outOfRange start stop s.length)))
  else return .text (String.ofList (← slice s.toList (asPosition start) (asPosition stop)))

/-- An integer drawn between two bounds, both included. -/
def integerBetweenUnchecked (min max : Value) : Unchecked Value := do
  let min ← ofExcept (integerOf randomInt min)
  let max ← ofExcept (integerOf randomInt max)
  if max < min then ofExcept (.error (.fault randomInt (.emptyRange min max)))
  else return .number (Number.ofInt (← drawFrom min (max + 1)))

/-- The value at a place that is drawn. -/
def oneOfUnchecked (values : List Value) : Unchecked Value := do
  if values.isEmpty then ofExcept (.error (.fault randomChoice .nothingToChoose))
  else item values (← drawFrom 0 values.length).toNat

def memberOfUnchecked (target : Value) : Unchecked Value :=
  match target with
  | .sequence items => oneOfUnchecked items
  | .map entries => oneOfUnchecked (entries.map (·.2))
  | v => ofExcept (.error (.mismatch randomChoice .table v.kind))

/-- A built-in applied to the arguments at the places where it expects them, however many there are. -/
def applyUnchecked (b : Builtin) (target : Value) (args : List Value) : Unchecked Value :=
  match b with
  | split | contains | notContains | matchesPattern => do
    let first ← item args 0
    lift (.ofExcept (b.apply target [first]) >>= .settle)
  | substring => do
    let start ← item args 0
    let stop ← item args 1
    partBetweenUnchecked target start stop
  | randomInt => do
    let min ← item args 0
    let max ← item args 1
    integerBetweenUnchecked min max
  | randomFloat => do
    let min ← item args 0
    let max ← item args 1
    lift (.ofExcept (b.apply target [min, max]) >>= .settle)
  | randomChoice => memberOfUnchecked target
  | b => lift (.ofExcept (b.apply target []) >>= .settle)

/-- A call by name, with the guards of a call. -/
def callUnchecked (name : String) (target : Option Value) (args : List Value) : Unchecked Value :=
  match ofName? name with
  | none => ofExcept (.error (.unknownFunction name))
  | some b =>
    if b.signature.requiresTarget ∧ target.isNone then ofExcept (.error (.fault b .targetMissing))
    else if ¬b.signature.requiresTarget ∧ target.isSome then ofExcept (.error (.fault b .targetGiven))
    else if ¬b.signature.acceptsCount args.length then ofExcept (.error (.fault b (.argumentCount args.length)))
    else b.applyUnchecked (target.getD .missing) args

end Builtin

namespace Expr

open Unchecked

mutual

/-- The value of an expression, with accesses that are not checked. -/
def evaluateUnchecked : Expr → Unchecked Value
  | .number value => pure (.number value)
  | .truth value => pure (.truth value)
  | .text value => pure (.text value)
  | .range first last => pure (.range first last)
  | .sequence items => do return .sequence (← evaluateItemsUnchecked items)
  | .dictionary pairs => do return .map (Entries.ofPairs (← evaluatePairsUnchecked pairs))
  | .reference ref => Context.lookupUnchecked ref
  | .binary op left right => do
    let l ← left.evaluateUnchecked
    let r ← right.evaluateUnchecked
    ofExcept (op.apply l r)
  | .negation operand => do
    let v ← operand.evaluateUnchecked
    ofExcept v.negate
  | .binding value names => do
    let v ← value.evaluateUnchecked
    lift (bindValue value names v)
    return v
  | .call name args => do
    let values ← evaluateItemsUnchecked args
    Builtin.callUnchecked name none values
  | .method target name args => do
    let t ← target.evaluateUnchecked
    let values ← evaluateItemsUnchecked args
    Builtin.callUnchecked name (some t) values

/-- The values of a list of expressions. -/
def evaluateItemsUnchecked : List Expr → Unchecked (List Value)
  | [] => pure []
  | item :: items => do
    let v ← item.evaluateUnchecked
    let vs ← evaluateItemsUnchecked items
    return v :: vs

/-- The values of key and value pairs. -/
def evaluatePairsUnchecked : List (String × Expr) → Unchecked (List (String × Value))
  | [] => pure []
  | (key, value) :: pairs => do
    let v ← value.evaluateUnchecked
    let vs ← evaluatePairsUnchecked pairs
    return (key, v) :: vs

end

end Expr

/-! ## Computations without overruns -/

namespace Unchecked

variable {α β : Type}

/-- The computation is stopped by no overrun, in any context, and ends as the checked one does. -/
def Follows (u : Unchecked α) (m : Evaluation α) : Prop :=
  ∀ ctx, u ctx = .ok (m ctx)

theorem follows_lift (m : Evaluation α) : (lift m).Follows m :=
  fun _ => rfl

theorem follows_pure (a : α) : (pure a : Unchecked α).Follows (pure a) :=
  fun _ => rfl

/-- Computations in sequence follow those they are made for, part by part. -/
theorem Follows.bind {u : Unchecked α} {m : Evaluation α} {g : α → Unchecked β} {f : α → Evaluation β} (hu : u.Follows m)
    (hf : ∀ a, (g a).Follows (f a)) : (u >>= g).Follows (m >>= f) := by
  intro ctx
  rw [bind_apply, hu ctx, Evaluation.bind_apply]
  rcases m ctx with ⟨e | a, ctx'⟩
  · rfl
  · exact hf a ctx'

theorem follows_ofExcept (r : Except EvalError α) : (ofExcept r).Follows (.ofExcept r) :=
  follows_lift _

/-- A first step that does not need the context, with what is known of its value. -/
theorem follows_ofExcept_bind {γ : Type} {r : Except EvalError α} {f : α → Except EvalError β} {g : α → Unchecked γ}
    {k : β → Evaluation γ} (h : ∀ a, r = .ok a → (g a).Follows (.ofExcept (f a) >>= k)) :
    (ofExcept r >>= g).Follows (.ofExcept (r >>= f) >>= k) := by
  cases r with
  | error e => exact fun _ => rfl
  | ok a => exact h a rfl

/-- What a guard lets pass. -/
theorem follows_guard {γ : Type} {c : Prop} [Decidable c] {e : EvalError} {r : Except EvalError β} {u : Unchecked γ}
    {k : β → Evaluation γ} (h : ¬c → u.Follows (.ofExcept r >>= k)) :
    (if c then ofExcept (.error e) else u).Follows (.ofExcept (if c then .error e else r) >>= k) := by
  by_cases hc : c
  · rw [if_pos hc, if_pos hc]
    exact fun _ => rfl
  · rw [if_neg hc, if_neg hc]
    exact h hc

/-! ## Accesses within their bounds -/

/-- A slice between ordered positions within the list does not overrun. -/
theorem slice_of_le {items : List α} {start stop : Nat} (h : start ≤ stop) (hstop : stop ≤ items.length) :
    slice items start stop = pure ((items.drop start).take (stop - start)) :=
  if_pos ⟨h, hstop⟩

/-- An item within the list does not overrun. -/
theorem item_of_lt {values : List Value} {place : Nat} (h : place < values.length) :
    item values place = pure (values[place]?.getD .missing) := by
  rw [item, List.getElem?_eq_getElem h]
  rfl

/-- A draw from a range that is not empty, and what is known of the number drawn. -/
theorem follows_drawFrom_bind {first stop : Int} (h : first < stop) {g : Int → Unchecked Value} {valueOf : Nat → Value}
    (hg : ∀ n < (stop - first).toNat, (g (first + n)).Follows (pure (valueOf n))) :
    (drawFrom first stop >>= g).Follows (.settle (.choice (stop - first).toNat valueOf)) := by
  intro ctx
  have hn : (ctx.draws.draw (stop - first).toNat).1 < (stop - first).toNat := ctx.draws.draw_lt (by omega)
  rw [bind_apply, drawFrom, if_pos h]
  exact hg _ hn _

/-- A position of 64 bits that is not negative stays what it is. -/
theorem asPosition_of_nonneg {n : Int} (h : 0 ≤ n) (hn : n < 2 ^ (63 : Nat)) : asPosition n = n.toNat := by
  rw [asPosition, Int.emod_eq_of_lt h (by omega)]

end Unchecked

namespace Context

open Unchecked

/-- A step is taken at a place of the path, and what has been walked is the path up to there. -/
theorem walkUnchecked_follows (name : String) (current : Value) (scope : Scope) (before path : List Access) :
    (walkUnchecked ⟨name, before ++ path⟩ current scope before.length path).Follows
      (.ofExcept (walk ⟨name, before⟩ current scope path)) := by
  induction path generalizing current scope before with
  | nil =>
    rw [walkUnchecked, walk]
    exact follows_pure _
  | cons access path ih =>
    rw [walkUnchecked, walk]
    by_cases hmissing : current.isMissing = true
    · have hbefore : slice (before ++ access :: path) 0 before.length = pure before := by
        rw [slice_of_le (Nat.zero_le _) (by simp), List.drop_zero, Nat.sub_zero, List.take_left]
      simp only [hmissing, if_true, hbefore]
      exact fun _ => rfl
    · simp only [hmissing]
      cases current.step access (scope.key access) with
      | error e => exact fun _ => rfl
      | ok next =>
        have hrest := ih next (scope.after (scope.key access)) (before ++ [access])
        rw [List.append_assoc, List.length_append] at hrest
        exact hrest

/-- A lookup does not overrun. -/
theorem lookupUnchecked_follows (ref : Reference) : (lookupUnchecked ref).Follows (.read (·.lookup ref)) := by
  intro ctx
  rw [lookupUnchecked, bind_apply]
  cases hbase : ctx.base ref.name with
  | error e =>
    have hlookup : ctx.lookup ref = .error e := by
      rw [lookup, hbase]
      rfl
    simp only [lift, Evaluation.read, hbase, hlookup]
  | ok found =>
    obtain ⟨v, scope⟩ := found
    have hlookup : ctx.lookup ref = walk ⟨ref.name, []⟩ v scope ref.path := by
      rw [lookup, hbase]
      rfl
    simp only [lift, Evaluation.read, hbase, hlookup]
    exact walkUnchecked_follows ref.name v scope [] ref.path ctx

end Context

namespace Builtin

open Unchecked

/-- Integers of arguments have 64 bits, also those of doubles beyond that. -/
theorem integerOf_bounds {b : Builtin} {v : Value} {n : Int} (h : integerOf b v = .ok n) :
    -2 ^ (63 : Nat) ≤ n ∧ n < 2 ^ (63 : Nat) := by
  unfold integerOf at h
  split at h
  · split at h
    · obtain rfl := Except.ok.inj h
      unfold Number.clampInt64
      omega
    · cases h
  · cases h

/-- A part of a text is cut between positions that have been brought within the text. -/
theorem partBetweenUnchecked_follows (target start stop : Value) :
    (partBetweenUnchecked target start stop).Follows
      (.ofExcept (partBetween target start stop) >>= fun s => .settle (.value (.text s))) := by
  refine follows_ofExcept_bind fun s _ => follows_ofExcept_bind fun start hstart => follows_ofExcept_bind fun stop hstop => ?_
  by_cases hrange : 0 ≤ start ∧ start < s.length ∧ start ≤ stop ∧ stop ≤ s.length
  · have hslice : slice s.toList (asPosition start) (asPosition stop) =
        pure ((s.toList.drop start.toNat).take (stop - start).toNat) := by
      have hchars : s.toList.length = s.length := String.length_toList
      rw [asPosition_of_nonneg hrange.1 (integerOf_bounds hstart).2,
        asPosition_of_nonneg (by omega) (integerOf_bounds hstop).2, slice_of_le (by omega) (by omega),
        Int.toNat_sub'' (by omega) hrange.1]
    rw [if_neg (by omega), if_pos hrange, hslice]
    exact fun _ => rfl
  · rw [if_pos (by omega), if_neg hrange]
    exact fun _ => rfl

/-- An integer is drawn only from a range that is not empty. -/
theorem integerBetweenUnchecked_follows (min max : Value) :
    (integerBetweenUnchecked min max).Follows (.ofExcept (integerBetween min max) >>= .settle) := by
  refine follows_ofExcept_bind fun min _ => follows_ofExcept_bind fun max _ => follows_guard fun hrange => ?_
  have hcount : max + 1 - min = max - min + 1 := by omega
  rw [← hcount]
  exact follows_drawFrom_bind (by omega) fun n _ => follows_pure _

/-- One of some values is drawn only if there are some. -/
theorem oneOfUnchecked_follows (values : List Value) :
    (oneOfUnchecked values).Follows (.ofExcept (oneOf values) >>= .settle) := by
  refine follows_guard fun hempty => ?_
  have hlength : 0 < values.length := by rwa [List.length_pos_iff, ne_eq, ← List.isEmpty_iff]
  have hcount : ((values.length : Int) - 0).toNat = values.length := by omega
  have hdraw : (drawFrom 0 values.length >>= fun n => item values n.toNat).Follows
      (.settle (.choice ((values.length : Int) - 0).toNat fun n => values[n]?.getD .missing)) := by
    refine follows_drawFrom_bind (by omega) fun n hn => ?_
    rw [Int.zero_add, Int.toNat_natCast, item_of_lt (by omega)]
    exact follows_pure _
  rw [hcount] at hdraw
  exact hdraw

/-- A member of a value is drawn only if it has some. -/
theorem memberOfUnchecked_follows (target : Value) :
    (memberOfUnchecked target).Follows (.ofExcept (memberOf target) >>= .settle) := by
  cases target with
  | sequence items => exact oneOfUnchecked_follows items
  | map entries => exact oneOfUnchecked_follows _
  | _ => exact fun _ => rfl

/-- A built-in with as many arguments as it takes finds them at their places, and its own accesses are within their bounds. -/
theorem applyUnchecked_follows (b : Builtin) (target : Value) (args : List Value)
    (h : b.signature.acceptsCount args.length = true) :
    (b.applyUnchecked target args).Follows (.ofExcept (b.apply target args) >>= .settle) := by
  rw [acceptsCount_iff] at h
  cases b with
  | split | contains | notContains | matchesPattern =>
    obtain ⟨first, rfl⟩ := List.length_eq_one_iff.mp h
    exact fun _ => rfl
  | substring =>
    obtain ⟨start, stop, rfl⟩ := List.length_eq_two.mp h
    intro ctx
    refine (partBetweenUnchecked_follows target start stop ctx).trans ?_
    show _ = Except.ok ((Evaluation.ofExcept ((partBetween target start stop).map _) >>= Evaluation.settle) ctx)
    cases partBetween target start stop <;> rfl
  | randomInt =>
    obtain ⟨min, max, rfl⟩ := List.length_eq_two.mp h
    exact integerBetweenUnchecked_follows min max
  | randomFloat =>
    obtain ⟨min, max, rfl⟩ := List.length_eq_two.mp h
    exact fun _ => rfl
  | randomChoice =>
    obtain rfl := List.length_eq_zero_iff.mp h
    exact memberOfUnchecked_follows target
  | _ =>
    obtain rfl := List.length_eq_zero_iff.mp h
    exact fun _ => rfl

/-- No call overruns, whatever is called on whatever. -/
theorem callUnchecked_follows (name : String) (target : Option Value) (args : List Value) :
    (callUnchecked name target args).Follows (.invoke name target args) := by
  unfold callUnchecked Evaluation.invoke call
  cases ofName? name with
  | none => exact fun _ => rfl
  | some b =>
    refine follows_guard fun _ => follows_guard fun _ => follows_guard fun hcount => ?_
    exact b.applyUnchecked_follows (target.getD .missing) args (not_not.mp hcount)

/-- Without the guards of a call there would be no argument to take. -/
example (ctx : Context) : applyUnchecked split (.text "a") [] ctx = .error (.item 0 0) := rfl

end Builtin

/-! ## No expression overruns -/

namespace Expr

open Unchecked

mutual

/-- No evaluation overruns. -/
theorem evaluateUnchecked_follows (e : Expr) : e.evaluateUnchecked.Follows e.evaluate := by
  cases e with
  | number _ | truth _ | text _ | range _ _ =>
    rw [evaluateUnchecked, evaluate]
    exact follows_pure _
  | reference ref =>
    rw [evaluateUnchecked, evaluate]
    exact Context.lookupUnchecked_follows ref
  | sequence items =>
    rw [evaluateUnchecked, evaluate]
    exact (evaluateItemsUnchecked_follows items).bind fun _ => follows_pure _
  | dictionary pairs =>
    rw [evaluateUnchecked, evaluate]
    exact (evaluatePairsUnchecked_follows pairs).bind fun _ => follows_pure _
  | binary op left right =>
    rw [evaluateUnchecked, evaluate]
    exact left.evaluateUnchecked_follows.bind fun _ => right.evaluateUnchecked_follows.bind fun _ => follows_ofExcept _
  | negation operand =>
    rw [evaluateUnchecked, evaluate]
    exact operand.evaluateUnchecked_follows.bind fun _ => follows_ofExcept _
  | binding value names =>
    rw [evaluateUnchecked, evaluate]
    exact value.evaluateUnchecked_follows.bind fun _ => (follows_lift _).bind fun _ => follows_pure _
  | call name args =>
    rw [evaluateUnchecked, evaluate]
    exact (evaluateItemsUnchecked_follows args).bind fun values => Builtin.callUnchecked_follows name none values
  | method target name args =>
    rw [evaluateUnchecked, evaluate]
    refine target.evaluateUnchecked_follows.bind fun t => (evaluateItemsUnchecked_follows args).bind fun values => ?_
    exact Builtin.callUnchecked_follows name (some t) values

theorem evaluateItemsUnchecked_follows (items : List Expr) : (evaluateItemsUnchecked items).Follows (evaluateItems items) := by
  cases items with
  | nil =>
    rw [evaluateItemsUnchecked, evaluateItems]
    exact follows_pure _
  | cons item items =>
    rw [evaluateItemsUnchecked, evaluateItems]
    exact item.evaluateUnchecked_follows.bind fun _ =>
      (evaluateItemsUnchecked_follows items).bind fun _ => follows_pure _

theorem evaluatePairsUnchecked_follows (pairs : List (String × Expr)) :
    (evaluatePairsUnchecked pairs).Follows (evaluatePairs pairs) := by
  cases pairs with
  | nil =>
    rw [evaluatePairsUnchecked, evaluatePairs]
    exact follows_pure _
  | cons pair pairs =>
    obtain ⟨key, value⟩ := pair
    rw [evaluatePairsUnchecked, evaluatePairs]
    exact value.evaluateUnchecked_follows.bind fun _ =>
      (evaluatePairsUnchecked_follows pairs).bind fun _ => follows_pure _

end

/-- Whatever the expression and the context, all accesses are within their bounds, and the evaluation comes to a value or to an
error. -/
theorem evaluateUnchecked_eq (e : Expr) (ctx : Context) : e.evaluateUnchecked ctx = .ok (e.evaluate ctx) :=
  e.evaluateUnchecked_follows ctx

end Expr

end ConditionLang
