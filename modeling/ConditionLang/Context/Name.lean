/-!
# The names of the context

Seven names always mean the call counter or a part of the request, whatever is bound. Every one is found under its own
name (`ofName?_name`).
-/

namespace ConditionLang

/-- What a condition can read without binding it. -/
inductive ContextName where
  | callCount | request | method | path | query | headers | body
  deriving Repr, DecidableEq, Inhabited

namespace ContextName

/-- All of the names. -/
def all : List ContextName := [callCount, request, method, path, query, headers, body]

/-- How a condition writes a name. -/
def name : ContextName → String
  | callCount => "call_count"
  | request => "request"
  | method => "method"
  | path => "path"
  | query => "query"
  | headers => "headers"
  | body => "body"

/-- What a name means. -/
def ofName? (s : String) : Option ContextName :=
  all.find? (·.name == s)

/-- The list of all context names misses none. -/
theorem mem_all (n : ContextName) : n ∈ all := by
  cases n <;> decide

/-- A context name is found by its own spelling. -/
theorem ofName?_name (n : ContextName) : ofName? n.name = some n := by
  cases n <;> decide

/-- The context name that a name finds is spelled like it. -/
theorem name_of_ofName? {s : String} {n : ContextName} (h : ofName? s = some n) : n.name = s := by
  simpa using List.find?_some h

end ContextName

/-- The names of the context as conditions write them. -/
def contextNames : List String :=
  ContextName.all.map ContextName.name

/-- Whether a name is that of a part of the context. -/
def isContextName (name : String) : Bool :=
  (ContextName.ofName? name).isSome

end ConditionLang
