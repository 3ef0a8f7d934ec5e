import Mathlib.Data.List.Basic
import ConditionLang.Proofs.Evaluation

/-!
# The effects of an evaluation

An evaluation touches its context in three ways: it looks references up, it binds names, and it draws for a call. So a
property of computations that survives sequencing (`Closed`) holds of the evaluation of an expression as soon as it holds
of what each of its parts does by itself (`evaluate_of_closed`), and the induction over expressions is made here once.

Three such properties follow: `Maintains I`, a context in `I` is left in `I`, `Keeps`, the context is left as it was, and
`Agrees R`, two runs from contexts that `R` relates give the same results and leave contexts that `R` relates.
-/

namespace ConditionLang

namespace Expr

/-! ## Parts -/

mutual

/-- An expression and all expressions in it. -/
def parts : Expr → List Expr
  | .sequence items => .sequence items :: partsOfItems items
  | .dictionary pairs => .dictionary pairs :: partsOfPairs pairs
  | .binary op left right => .binary op left right :: (left.parts ++ right.parts)
  | .negation operand => .negation operand :: operand.parts
  | .binding value names => .binding value names :: value.parts
  | .call name args => .call name args :: partsOfItems args
  | .method target name args => .method target name args :: (target.parts ++ partsOfItems args)
  | e => [e]

/-- The parts of the expressions of a list. -/
def partsOfItems : List Expr → List Expr
  | [] => []
  | item :: items => item.parts ++ partsOfItems items

/-- The parts of the values of key and value pairs. -/
def partsOfPairs : List (String × Expr) → List Expr
  | [] => []
  | (_, value) :: pairs => value.parts ++ partsOfPairs pairs

end

/-- An expression is among its own parts. -/
theorem self_mem_parts (e : Expr) : e ∈ e.parts := by
  cases e <;> simp [parts]

/-- The name that an expression calls by itself. -/
def calledName? : Expr → Option String
  | .call name _ | .method _ name _ => some name
  | _ => none

end Expr

namespace Evaluation

/-- The computation of a call whose target and arguments have been evaluated. -/
def invoke (name : String) (target : Option Value) (values : List Value) : Evaluation Value := do
  settle (← ofExcept (Builtin.call name target values))

/-! ## Properties that survive sequencing -/

/-- A property of computations that holds of those that do not need the context, and of a sequence if it holds of both. -/
structure Closed (C : (α : Type) → Evaluation α → Prop) : Prop where
  ofExcept : ∀ {α : Type} (r : Except EvalError α), C α (.ofExcept r)
  bind : ∀ {α β : Type} {m : Evaluation α} {f : α → Evaluation β}, C α m → (∀ a, C β (f a)) → C β (m >>= f)

variable {C : (α : Type) → Evaluation α → Prop}

theorem Closed.pure (hC : Closed C) {α : Type} (a : α) : C α (Pure.pure a) :=
  hC.ofExcept (.ok a)

end Evaluation

namespace Expr

open Evaluation

/-- What an expression does with the context by itself, apart from the evaluation of its parts, has the property. -/
def OwnEffect (C : (α : Type) → Evaluation α → Prop) : Expr → Prop
  | .reference ref => C Value (.read (·.lookup ref))
  | .binding value names => ∀ v, C Unit (bindValue value names v)
  | .call name _ => ∀ values, C Value (invoke name none values)
  | .method _ name _ => ∀ target values, C Value (invoke name (some target) values)
  | _ => True

/-- The evaluation of an expression has the property if those of its parts do. This is asked of a binding as a whole, since what
is bound may depend on which expression has the value. -/
def Inherits (C : (α : Type) → Evaluation α → Prop) : Expr → Prop
  | .binding value names => C Value value.evaluate → C Value (binding value names).evaluate
  | e => e.OwnEffect C

variable {C : (α : Type) → Evaluation α → Prop}

/-- What an expression does by itself goes on from the evaluation of its parts. -/
theorem OwnEffect.inherits (hC : Closed C) {e : Expr} (h : e.OwnEffect C) : e.Inherits C := by
  cases e with
  | binding value names =>
    intro hvalue
    rw [evaluate]
    exact hC.bind hvalue fun v => hC.bind (h v) fun _ => hC.pure v
  | _ => exact h

mutual

/-- A property that survives sequencing holds of an evaluation if every part inherits it. -/
theorem evaluate_of_inherits (hC : Closed C) (e : Expr) (h : ∀ part ∈ e.parts, part.Inherits C) : C Value e.evaluate := by
  have hself : e.Inherits C := h e e.self_mem_parts
  cases e with
  | number _ | truth _ | text _ | range _ _ =>
    rw [evaluate]
    exact hC.pure _
  | reference ref =>
    rw [evaluate]
    exact hself
  | sequence items =>
    have hitems := evaluateItems_of_inherits hC items fun part hpart => h part (by simp [parts, hpart])
    rw [evaluate]
    exact hC.bind hitems fun _ => hC.pure _
  | dictionary pairs =>
    have hpairs := evaluatePairs_of_inherits hC pairs fun part hpart => h part (by simp [parts, hpart])
    rw [evaluate]
    exact hC.bind hpairs fun _ => hC.pure _
  | binary op left right =>
    have hleft := evaluate_of_inherits hC left fun part hpart => h part (by simp [parts, hpart])
    have hright := evaluate_of_inherits hC right fun part hpart => h part (by simp [parts, hpart])
    rw [evaluate]
    exact hC.bind hleft fun _ => hC.bind hright fun _ => hC.ofExcept _
  | negation operand =>
    have hoperand := evaluate_of_inherits hC operand fun part hpart => h part (by simp [parts, hpart])
    rw [evaluate]
    exact hC.bind hoperand fun _ => hC.ofExcept _
  | binding value names =>
    exact hself (evaluate_of_inherits hC value fun part hpart => h part (by simp [parts, hpart]))
  | call name args =>
    have hargs := evaluateItems_of_inherits hC args fun part hpart => h part (by simp [parts, hpart])
    rw [evaluate]
    exact hC.bind hargs fun values => hself values
  | method target name args =>
    have htarget := evaluate_of_inherits hC target fun part hpart => h part (by simp [parts, hpart])
    have hargs := evaluateItems_of_inherits hC args fun part hpart => h part (by simp [parts, hpart])
    rw [evaluate]
    exact hC.bind htarget fun t => hC.bind hargs fun values => hself t values

theorem evaluateItems_of_inherits (hC : Closed C) (items : List Expr)
    (h : ∀ part ∈ partsOfItems items, part.Inherits C) : C (List Value) (evaluateItems items) := by
  cases items with
  | nil =>
    rw [evaluateItems]
    exact hC.pure _
  | cons item items =>
    have hitem := evaluate_of_inherits hC item fun part hpart => h part (by simp [partsOfItems, hpart])
    have hitems := evaluateItems_of_inherits hC items fun part hpart => h part (by simp [partsOfItems, hpart])
    rw [evaluateItems]
    exact hC.bind hitem fun _ => hC.bind hitems fun _ => hC.pure _

theorem evaluatePairs_of_inherits (hC : Closed C) (pairs : List (String × Expr))
    (h : ∀ part ∈ partsOfPairs pairs, part.Inherits C) : C (List (String × Value)) (evaluatePairs pairs) := by
  cases pairs with
  | nil =>
    rw [evaluatePairs]
    exact hC.pure _
  | cons pair pairs =>
    obtain ⟨key, value⟩ := pair
    have hvalue := evaluate_of_inherits hC value fun part hpart => h part (by simp [partsOfPairs, hpart])
    have hpairs := evaluatePairs_of_inherits hC pairs fun part hpart => h part (by simp [partsOfPairs, hpart])
    rw [evaluatePairs]
    exact hC.bind hvalue fun _ => hC.bind hpairs fun _ => hC.pure _

end

/-- A property that survives sequencing holds of an evaluation if it holds of the effect of every part. -/
theorem evaluate_of_closed (hC : Closed C) (e : Expr) (h : ∀ part ∈ e.parts, part.OwnEffect C) : C Value e.evaluate :=
  e.evaluate_of_inherits hC fun part hpart => (h part hpart).inherits hC

end Expr

namespace Evaluation

/-! ## Computations that keep an invariant -/

/-- The computation leaves contexts in `I` within `I`, whether it succeeds or fails. -/
def Maintains (I : Context → Prop) {α : Type} (m : Evaluation α) : Prop :=
  ∀ ctx, I ctx → I (m ctx).2

/-- Keeping an invariant survives sequencing. -/
theorem closed_maintains (I : Context → Prop) : Closed (@Maintains I) where
  ofExcept r := by
    intro ctx hctx
    exact hctx
  bind := by
    intro α β m f hm hf ctx hctx
    have h := hm ctx hctx
    rw [bind_apply]
    generalize m ctx = r at h
    obtain ⟨r, ctx'⟩ := r
    cases r with
    | error e => exact h
    | ok a => exact hf a ctx' h

/-- Drawing keeps what does not depend on the draws. -/
theorem maintains_settle {I : Context → Prop} (h : ∀ ctx draws, I ctx → I { ctx with draws }) (d : Drawn) :
    (settle d).Maintains I := by
  intro ctx hctx
  cases d with
  | value v => exact hctx
  | choice bound valueOf => exact h ctx _ hctx

/-- A call keeps every invariant that a draw keeps. -/
theorem maintains_invoke {I : Context → Prop} (h : ∀ ctx draws, I ctx → I { ctx with draws }) (name : String)
    (target : Option Value) (values : List Value) : (invoke name target values).Maintains I :=
  (closed_maintains I).bind ((closed_maintains I).ofExcept _) (maintains_settle h)

/-! ## Computations that leave the context as it was -/

/-- The computation leaves every context as it was. -/
def Keeps {α : Type} (m : Evaluation α) : Prop :=
  ∀ ctx, (m ctx).2 = ctx

/-- Leaving the context as it was means to maintain that it is this one. -/
theorem keeps_iff {α : Type} {m : Evaluation α} : m.Keeps ↔ ∀ ctx, m.Maintains (· = ctx) := by
  constructor
  · intro h ctx ctx' hctx
    exact (h ctx').trans hctx
  · intro h ctx
    exact h ctx ctx rfl

/-- Leaving the context as it was survives sequencing. -/
theorem closed_keeps : Closed @Keeps where
  ofExcept r := by
    intro ctx
    rfl
  bind := by
    intro α β m f hm hf
    refine keeps_iff.mpr fun ctx => ?_
    exact (closed_maintains (· = ctx)).bind (keeps_iff.mp hm ctx) fun a => keeps_iff.mp (hf a) ctx

/-! ## Two runs -/

/-- Two runs from related contexts give the same result and leave related contexts. -/
def Agrees (R : Context → Context → Prop) {α : Type} (m : Evaluation α) : Prop :=
  ∀ ctx ctx', R ctx ctx' → (m ctx).1 = (m ctx').1 ∧ R (m ctx).2 (m ctx').2

/-- Agreeing from related contexts survives sequencing. -/
theorem closed_agrees (R : Context → Context → Prop) : Closed (@Agrees R) where
  ofExcept r := by
    intro ctx ctx' hR
    exact ⟨rfl, hR⟩
  bind := by
    intro α β m f hm hf ctx ctx' hR
    obtain ⟨hresult, hleft⟩ := hm ctx ctx' hR
    rw [bind_apply, bind_apply]
    generalize m ctx = r at hresult hleft
    generalize m ctx' = r' at hresult hleft
    obtain ⟨r, left⟩ := r
    obtain ⟨r', left'⟩ := r'
    obtain rfl : r = r' := hresult
    cases r with
    | error e => exact ⟨rfl, hleft⟩
    | ok a => exact hf a left left' hleft

end Evaluation

end ConditionLang
