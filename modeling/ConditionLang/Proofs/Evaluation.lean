import ConditionLang.Eval.Basic

/-!
# What evaluations end with

`Gives P` says of a computation that its result satisfies `P` in every context. Statements about all the ways an expression
may end are proved of its parts and put together by `Gives.bind`, which follows the order of evaluation: the second part is
reached only with a value of the first.
-/

namespace ConditionLang

namespace Evaluation

variable {α β : Type}

/-- A sequence comes to a value if and only if both parts do, the second one in the context that the first one left. -/
theorem bind_eq_ok_iff {m : Evaluation α} {f : α → Evaluation β} {ctx ctx' : Context} {b : β} :
    (m >>= f) ctx = (.ok b, ctx') ↔ ∃ a mid, m ctx = (.ok a, mid) ∧ f a mid = (.ok b, ctx') := by
  rw [bind_apply]
  rcases m ctx with ⟨e | a, mid⟩
  · simp
  · simp [and_assoc]

/-- A sequence fails if and only if the first part fails or the second one fails after it. -/
theorem bind_eq_error_iff {m : Evaluation α} {f : α → Evaluation β} {ctx ctx' : Context} {e : EvalError} :
    (m >>= f) ctx = (.error e, ctx') ↔
      m ctx = (.error e, ctx') ∨ ∃ a mid, m ctx = (.ok a, mid) ∧ f a mid = (.error e, ctx') := by
  rw [bind_apply]
  rcases m ctx with ⟨e' | a, mid⟩
  · simp
  · simp [and_assoc]

/-- The computation ends, in every context, with a result that satisfies `P`. -/
def Gives (P : Except EvalError α → Prop) (m : Evaluation α) : Prop :=
  ∀ ctx, P (m ctx).1

/-- A computation that goes on with the value of another one. -/
theorem Gives.bind {P : Except EvalError α → Prop} {Q : Except EvalError β → Prop} {m : Evaluation α}
    {f : α → Evaluation β} (hm : m.Gives P) (herror : ∀ e, P (.error e) → Q (.error e))
    (hok : ∀ a, P (.ok a) → (f a).Gives Q) : (m >>= f).Gives Q := by
  intro ctx
  have h := hm ctx
  rw [bind_apply]
  generalize m ctx = r at h
  obtain ⟨r, ctx'⟩ := r
  cases r with
  | error e => exact herror e h
  | ok a => exact hok a h ctx'

/-- The value of the computation satisfies `P` if there is one. -/
def Yields (P : α → Prop) : Evaluation α → Prop :=
  Gives fun r => ∀ a, r = .ok a → P a

theorem yields_pure {P : α → Prop} {a : α} (h : P a) : (pure a : Evaluation α).Yields P := by
  rintro ctx b hb
  rw [pure_apply] at hb
  cases hb
  exact h

/-- What is known of a value is known when the computation goes on with it. -/
theorem Yields.bind {P : α → Prop} {Q : β → Prop} {m : Evaluation α} {f : α → Evaluation β} (hm : m.Yields P)
    (hf : ∀ a, P a → (f a).Yields Q) : (m >>= f).Yields Q :=
  Gives.bind hm (fun _ _ _ h => nomatch h) fun a h => hf a (h a rfl)

/-- A computation that yields each of two properties yields both. -/
theorem Yields.and {P Q : α → Prop} {m : Evaluation α} (hp : m.Yields P) (hq : m.Yields Q) :
    m.Yields fun a => P a ∧ Q a :=
  fun ctx a h => ⟨hp ctx a h, hq ctx a h⟩

/-- What holds anyway holds of every value. -/
theorem yields_of {p : Prop} (h : p) (m : Evaluation α) : m.Yields fun _ => p :=
  fun _ _ _ => h

/-- A result yields what holds of its value. -/
theorem yields_ofExcept {r : Except EvalError α} {P : α → Prop} (h : ∀ a, r = .ok a → P a) : (ofExcept r).Yields P :=
  fun _ => h

/-- The computation fails, if it does, with an error that satisfies `E`. -/
def FailsWith (E : EvalError → Prop) : Evaluation α → Prop :=
  Gives fun r => ∀ e, r = .error e → E e

variable {E : EvalError → Prop}

theorem failsWith_pure (a : α) : (pure a : Evaluation α).FailsWith E := by
  rintro ctx e he
  cases he

/-- A result fails with its error. -/
theorem failsWith_ofExcept {r : Except EvalError α} (h : ∀ e, r = .error e → E e) : (ofExcept r).FailsWith E :=
  fun _ => h

/-- Reading the context fails with the errors of what is read. -/
theorem failsWith_read {f : Context → Except EvalError α} (h : ∀ ctx e, f ctx = .error e → E e) :
    (read f).FailsWith E :=
  h

theorem failsWith_settle (d : Drawn) : (settle d).FailsWith E := by
  cases d with
  | value v => exact failsWith_pure v
  | choice bound valueOf => exact fun _ _ he => nomatch he

/-- What a call comes to without a draw is its value. -/
theorem ofExcept_map_bind_settle (r : Except EvalError α) (f : α → Value) (ctx : Context) :
    (ofExcept (r.map fun a => .value (f a)) >>= settle) ctx = (r.map f, ctx) := by
  cases r <;> rfl

/-- A computation that goes on with a value that satisfies `P`. -/
theorem FailsWith.bind_of_yields {P : α → Prop} {m : Evaluation α} {f : α → Evaluation β} (hm : m.FailsWith E)
    (hp : m.Yields P) (hf : ∀ a, P a → (f a).FailsWith E) : (m >>= f).FailsWith E :=
  Gives.bind (P := fun r => (∀ e, r = .error e → E e) ∧ ∀ a, r = .ok a → P a) (fun ctx => ⟨hm ctx, hp ctx⟩)
    (fun _ h _ he => (Except.error.inj he) ▸ h.1 _ rfl) fun a h => hf a (h.2 a rfl)

/-- Computations in sequence fail as each of them does. -/
theorem FailsWith.bind {m : Evaluation α} {f : α → Evaluation β} (hm : m.FailsWith E)
    (hf : ∀ a, (f a).FailsWith E) : (m >>= f).FailsWith E :=
  hm.bind_of_yields (yields_of trivial m) fun a _ => hf a

end Evaluation

namespace Expr

open Evaluation

/-- The values of a list of expressions are as many as the expressions. -/
theorem evaluateItems_yields_length (items : List Expr) :
    (evaluateItems items).Yields fun values => values.length = items.length := by
  induction items with
  | nil =>
    rw [evaluateItems]
    exact yields_pure rfl
  | cons item items ih =>
    rw [evaluateItems]
    refine (yields_of trivial _).bind fun v _ => ih.bind fun vs hvs => yields_pure ?_
    rw [List.length_cons, List.length_cons, hvs]

end Expr

end ConditionLang
