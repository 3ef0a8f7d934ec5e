import ConditionLang.Context.Basic
import ConditionLang.Eval.Error

/-!
# Looking up references

A name of the context wins over a variable. Then each step leads from a table to an entry, or to a missing value where the
table has no such entry; a further step from a missing value is an error, as is a step from a value that is no table. The
keys of the table of headers are looked up in lower case.
-/

namespace ConditionLang

/-- Which table the next step is taken from, as far as keys depend on it. -/
inductive Scope where
  | request
  | headers
  | other
  deriving Repr, DecidableEq, Inhabited

namespace Scope

/-- The key that a step looks up. -/
def key : Scope → Access → String
  | .headers, access => access.key.toLower
  | _, access => access.key

/-- The table that a key leads to. -/
def after : Scope → String → Scope
  | .request, key => if key = ContextName.headers.name then .headers else .other
  | _, _ => .other

/-- The table that a name of the context means. -/
def ofName : ContextName → Scope
  | .request => .request
  | .headers => .headers
  | _ => .other

end Scope

namespace Value

/-- The entry that a step with a key leads to. Only a step in brackets leads into a sequence. -/
def step (v : Value) (access : Access) (key : String) : Except EvalError Value :=
  match v, access with
  | .map entries, _ => .ok ((Entries.get? key entries).getD .missing)
  | .sequence items, .index _ =>
    match Number.readWord? key.toList with
    | some i => .ok (items[i]?.getD .missing)
    | none => .error (.noSuchStep key .table)
  | v, _ => .error (.noSuchStep key v.kind)

end Value

namespace Context

/-- What a name means by itself, and the table that it is. -/
def base (ctx : Context) (name : String) : Except EvalError (Value × Scope) :=
  match ContextName.ofName? name with
  | some n => .ok (ctx.part n, .ofName n)
  | none =>
    match ctx.bindings.get? name with
    | some binding => .ok (binding.value, if binding.isHeaders then .headers else .other)
    | none => .error (.undefinedVariable name)

/-- Takes steps from a value to which `walked` has led. -/
def walk (walked : Reference) (current : Value) (scope : Scope) : List Access → Except EvalError Value
  | [] => .ok current
  | access :: path =>
    let key := scope.key access
    if current.isMissing then .error (.stepFromMissing walked key)
    else do walk ⟨walked.name, walked.path ++ [access]⟩ (← current.step access key) (scope.after key) path

/-- The value of a reference. -/
def lookup (ctx : Context) (ref : Reference) : Except EvalError Value := do
  let (value, scope) ← ctx.base ref.name
  walk ⟨ref.name, []⟩ value scope ref.path

/-- Whether a reference names the table of headers itself: by its name, as an entry of the request, or as a variable that
is bound to it. -/
def namesHeaders (ctx : Context) (ref : Reference) : Bool :=
  match ref.path with
  | [] => ref.name == ContextName.headers.name || ctx.isHeaders ref.name
  | [access] => ref.name == ContextName.request.name && access.key == ContextName.headers.name
  | _ => false

end Context

end ConditionLang
