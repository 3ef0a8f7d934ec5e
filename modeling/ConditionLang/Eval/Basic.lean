import ConditionLang.Context.Lookup
import ConditionLang.Eval.Calls
import ConditionLang.Eval.Operators

/-!
# Evaluating expressions

Operands, items, targets and arguments are evaluated from left to right, and both operands of `and` and `or` always are.
Only a binding changes variables and only a random built-in takes draws; what an evaluation has changed before it fails
stays changed.
-/

namespace ConditionLang

/-- A computation in a context that may fail. -/
def Evaluation (α : Type) := Context → Except EvalError α × Context

namespace Evaluation

instance : Monad Evaluation where
  pure a ctx := (.ok a, ctx)
  bind m f ctx :=
    match m ctx with
    | (.ok a, ctx) => f a ctx
    | (.error e, ctx) => (.error e, ctx)

/-- A computation that only reads the context. -/
def read {α : Type} (f : Context → Except EvalError α) : Evaluation α :=
  fun ctx => (f ctx, ctx)

/-- A computation that does not need the context. -/
def ofExcept {α : Type} (r : Except EvalError α) : Evaluation α :=
  fun ctx => (r, ctx)

/-- A change of the context. -/
def change (f : Context → Context) : Evaluation Unit :=
  fun ctx => (.ok (), f ctx)

/-- The value that a call comes to, drawn if need be. -/
def settle : Drawn → Evaluation Value
  | .value v => pure v
  | .choice bound valueOf => fun ctx =>
    let (n, draws) := ctx.draws.draw bound
    (.ok (valueOf n), { ctx with draws })

@[simp] theorem pure_apply {α : Type} (a : α) (ctx : Context) : (pure a : Evaluation α) ctx = (.ok a, ctx) := rfl

/-- A computation goes on in the context that the first part has left, and ends at an error of it. -/
theorem bind_apply {α β : Type} (m : Evaluation α) (f : α → Evaluation β) (ctx : Context) :
    (m >>= f) ctx = match m ctx with
      | (.ok a, ctx) => f a ctx
      | (.error e, ctx) => (.error e, ctx) := rfl

end Evaluation

namespace Context

/-- Binds each name to the entry of that key; a name without an entry keeps its binding. -/
def bindEntries (ctx : Context) (names : List String) (entries : Entries Value) : Context :=
  names.foldl (fun ctx name => (entries.get? name).elim ctx (ctx.bind name)) ctx

/-- Binds names to items in order, as far as there are both. -/
def bindItems (ctx : Context) (names : List String) (items : List Value) : Context :=
  (names.zip items).foldl (fun ctx (name, item) => ctx.bind name item) ctx

end Context

/-- Binds a name to a value, or several names to the entries of a table. -/
def assign (names : List String) (value : Value) : Evaluation Unit :=
  match names, value with
  | [name], value => .change (·.bind name value)
  | names, .map entries => .change (·.bindEntries names entries)
  | names, .sequence items => .change (·.bindItems names items)
  | names, value => .ofExcept (.error (.notDestructible value.kind names.length))

/-- Binds names to the value of an expression. A name for the table of headers is marked as such. -/
def bindValue (source : Expr) (names : List String) (value : Value) : Evaluation Unit := fun ctx =>
  match source, names with
  | .reference ref, [name] => if ctx.namesHeaders ref then (.ok (), ctx.bindHeaders name value) else assign names value ctx
  | _, _ => assign names value ctx

namespace Expr

mutual

/-- The value of an expression. -/
def evaluate : Expr → Evaluation Value
  | .number value => pure (.number value)
  | .truth value => pure (.truth value)
  | .text value => pure (.text value)
  | .range first last => pure (.range first last)
  | .sequence items => do return .sequence (← evaluateItems items)
  | .dictionary pairs => do return .map (Entries.ofPairs (← evaluatePairs pairs))
  | .reference ref => .read (·.lookup ref)
  | .binary op left right => do
    let l ← left.evaluate
    let r ← right.evaluate
    .ofExcept (op.apply l r)
  | .negation operand => do
    let v ← operand.evaluate
    .ofExcept v.negate
  | .binding value names => do
    let v ← value.evaluate
    bindValue value names v
    return v
  | .call name args => do
    let values ← evaluateItems args
    .settle (← .ofExcept (Builtin.call name none values))
  | .method target name args => do
    let t ← target.evaluate
    let values ← evaluateItems args
    .settle (← .ofExcept (Builtin.call name (some t) values))

/-- The values of a list of expressions. -/
def evaluateItems : List Expr → Evaluation (List Value)
  | [] => pure []
  | item :: items => do
    let v ← item.evaluate
    let vs ← evaluateItems items
    return v :: vs

/-- The values of key and value pairs. -/
def evaluatePairs : List (String × Expr) → Evaluation (List (String × Value))
  | [] => pure []
  | (key, value) :: pairs => do
    let v ← value.evaluate
    let vs ← evaluatePairs pairs
    return (key, v) :: vs

end

end Expr

end ConditionLang
