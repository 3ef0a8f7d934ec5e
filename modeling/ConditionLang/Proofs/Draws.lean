import ConditionLang.Proofs.Effects
import ConditionLang.Proofs.Operations

/-!
# Expressions without bindings and draws

Only a call of a random built-in draws, and only a binding binds. So an expression with neither leaves its context as it was
(`Expr.keeps_evaluate`), and it has the same value however often it is evaluated.
-/

namespace ConditionLang

namespace Builtin

/-- Whether a built-in draws. -/
def isRandom : Builtin → Bool
  | random | randomBool | randomInt | randomFloat | randomChoice => true
  | _ => false

/-! ## What the calls that do not draw come to -/

/-- A result that is mapped to a value is no draw. -/
theorem exists_value_of_map {α : Type} {r : Result α} {f : α → Value} {d : Drawn}
    (h : r.map (fun a => .value (f a)) = .ok d) : ∃ v, d = .value v := by
  cases r with
  | error e => cases h
  | ok a => exact ⟨f a, (Except.ok.inj h).symm⟩

/-- A result that goes on to a value is no draw. -/
theorem exists_value_of_bind {α : Type} {r : Result α} {f : α → Value} {d : Drawn}
    (h : (r >>= fun a => pure (.value (f a))) = .ok d) : ∃ v, d = .value v := by
  cases r with
  | error e => cases h
  | ok a => exact ⟨f a, (Except.ok.inj h).symm⟩

/-- A built-in that is not random comes to a value if it comes to anything. -/
theorem exists_value_of_apply_eq_ok {b : Builtin} {target : Value} {args : List Value} {d : Drawn}
    (hb : b.isRandom = false) (h : b.apply target args = .ok d) : ∃ v, d = .value v := by
  unfold apply at h
  split at h
  case h_1 | h_2 | h_3 | h_4 | h_8 | h_9 => exact exists_value_of_map h
  case h_5 | h_6 | h_7 | h_14 | h_15 | h_16 | h_17 => exact exists_value_of_bind h
  case h_10 | h_11 | h_12 | h_13 => exact ⟨_, (Except.ok.inj h).symm⟩
  case h_18 | h_19 | h_20 | h_21 | h_22 => cases hb
  case h_23 => cases h

/-- Whether a name is that of a random built-in. -/
def namesRandom (name : String) : Bool :=
  (ofName? name).any isRandom

/-- A call of anything but a random built-in comes to a value if it comes to anything. -/
theorem exists_value_of_call_eq_ok {name : String} {target : Option Value} {args : List Value} {d : Drawn}
    (hname : namesRandom name = false) (h : call name target args = .ok d) : ∃ v, d = .value v := by
  rcases call_cases name target args with ⟨-, hcall⟩ | ⟨b, hb, ⟨cause, -, hcall⟩ | ⟨-, -, hcall⟩⟩
  · rw [hcall] at h
    cases h
  · rw [hcall] at h
    cases h
  · rw [hcall] at h
    have hrandom : b.isRandom = false := by simpa [namesRandom, hb] using hname
    exact exists_value_of_apply_eq_ok hrandom h

end Builtin

open Evaluation

/-- A call of anything but a random built-in does not need the context. -/
theorem exists_invoke_eq {name : String} (hname : Builtin.namesRandom name = false) (target : Option Value)
    (values : List Value) : ∃ r, invoke name target values = .ofExcept r := by
  unfold invoke
  cases hd : Builtin.call name target values with
  | error e => exact ⟨.error e, rfl⟩
  | ok d =>
    obtain ⟨v, rfl⟩ := Builtin.exists_value_of_call_eq_ok hname hd
    exact ⟨.ok v, rfl⟩

/-- A call of a function that draws nothing has every property that survives sequencing. -/
theorem Evaluation.Closed.invoke {C : (α : Type) → Evaluation α → Prop} (hC : Closed C) {name : String}
    (hname : Builtin.namesRandom name = false) (target : Option Value) (values : List Value) :
    C Value (invoke name target values) := by
  obtain ⟨r, hr⟩ := exists_invoke_eq hname target values
  rw [hr]
  exact hC.ofExcept r

namespace Expr

/-- Whether an expression is a call of a random built-in. -/
def isRandomCall (e : Expr) : Bool :=
  e.calledName?.any Builtin.namesRandom

/-- No part of the expression binds names or calls a random built-in. -/
def IsReadOnly (e : Expr) : Prop :=
  ∀ part ∈ e.parts, part.isBinding = false ∧ part.isRandomCall = false

/-- By itself, an expression that neither binds nor draws leaves the context as it was. -/
theorem keeps_ownEffect {e : Expr} (hbinding : e.isBinding = false) (hrandom : e.isRandomCall = false) :
    e.OwnEffect @Keeps := by
  cases e with
  | reference ref => exact fun ctx => rfl
  | binding value names => cases hbinding
  | call name args => exact closed_keeps.invoke hrandom none
  | method target name args => exact fun v => closed_keeps.invoke hrandom (some v)
  | _ => trivial

/-- An expression that only reads leaves every context as it was. -/
theorem keeps_evaluate {e : Expr} (h : e.IsReadOnly) : e.evaluate.Keeps :=
  e.evaluate_of_closed closed_keeps fun part hpart => keeps_ownEffect (h part hpart).1 (h part hpart).2

end Expr

end ConditionLang
