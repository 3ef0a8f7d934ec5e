import ConditionLang.Context.Draws
import ConditionLang.Context.Name
import ConditionLang.Request

/-!
# Contexts

What an evaluation reads and changes: the call counter, the request, the variables bound so far and the random draws. A
variable that was bound to the whole table of headers is marked, because the keys of that table are looked up in lower
case; any other binding of the name takes the mark away.
-/

namespace ConditionLang

/-- A bound variable. -/
structure Binding where
  value : Value
  /-- Whether the variable was bound to the table of headers. -/
  isHeaders : Bool
  deriving Repr, Inhabited

structure Context where
  callCount : Nat
  request : Request
  bindings : Entries Binding
  draws : Draws
  deriving Inhabited

namespace Context

/-- A context in which nothing is bound yet. -/
def ofRequest (callCount : Nat) (request : Request) (draws : Draws) : Context :=
  ⟨callCount, request, [], draws⟩

/-- The value a variable is bound to. -/
def bound? (ctx : Context) (name : String) : Option Value :=
  (ctx.bindings.get? name).map (·.value)

/-- Whether a variable was bound to the table of headers. -/
def isHeaders (ctx : Context) (name : String) : Bool :=
  (ctx.bindings.get? name).any (·.isHeaders)

/-- Binds a variable. -/
def bind (ctx : Context) (name : String) (value : Value) : Context :=
  { ctx with bindings := ctx.bindings.insert name ⟨value, false⟩ }

/-- Binds a variable to the table of headers. -/
def bindHeaders (ctx : Context) (name : String) (value : Value) : Context :=
  { ctx with bindings := ctx.bindings.insert name ⟨value, true⟩ }

/-- The value of a name of the context. -/
def part (ctx : Context) : ContextName → Value
  | .callCount => .number (Number.ofNat ctx.callCount)
  | .request => ctx.request.table
  | .method => .text ctx.request.method
  | .path => .text ctx.request.path
  | .query => ctx.request.queryTable
  | .headers => ctx.request.headersTable
  | .body => ctx.request.body

end Context

end ConditionLang
