/-!
# The built-in functions and their signatures

The signatures decide what the parser takes for a method call and what the checker demands of a call. Every built-in is
found under its own name (`ofName?_name`), so no two share one.
-/

namespace ConditionLang

/-- Kinds of values that a built-in may be called on. -/
inductive TargetKind where
  | any
  | string
  | number
  | boolean
  | table
  deriving Repr, DecidableEq, Inhabited

/-- How messages name a kind. -/
def TargetKind.describe : TargetKind → String
  | .any => "any value"
  | .string => "string"
  | .number => "number"
  | .boolean => "boolean"
  | .table => "table"

/-- What a call of a built-in must look like. -/
structure Signature where
  name : String
  requiresTarget : Bool
  minArgs : Nat
  /-- `none` when there is no upper bound. -/
  maxArgs : Option Nat
  targets : List TargetKind
  description : String
  deriving Repr, DecidableEq, Inhabited

namespace Signature

/-- Whether a target of a kind will do. -/
def accepts (s : Signature) (kind : TargetKind) : Bool :=
  s.targets.any fun t => t == .any || t == kind

/-- Whether a number of arguments will do. -/
def acceptsCount (s : Signature) (count : Nat) : Bool :=
  s.minArgs ≤ count && s.maxArgs.all (count ≤ ·)

/-- A built-in that is called on a target with exactly `count` arguments. -/
def method (name : String) (count : Nat) (targets : List TargetKind) (description : String) : Signature :=
  ⟨name, true, count, some count, targets, description⟩

/-- A built-in that is called by itself with exactly `count` arguments. -/
def global (name : String) (count : Nat) (description : String) : Signature :=
  ⟨name, false, count, some count, [], description⟩

end Signature

/-- The built-in functions, in the order of the registry. -/
inductive Builtin where
  | split | contains | notContains | matchesPattern | upper | lower | trim | substring | len
  | isString | isNumber | isBoolean | isTable
  | round | floor | ceil | abs
  | random | randomBool | randomInt | randomFloat | randomChoice
  deriving Repr, DecidableEq, Inhabited

namespace Builtin

/-- All built-ins. -/
def all : List Builtin := [
  split, contains, notContains, matchesPattern, upper, lower, trim, substring, len,
  isString, isNumber, isBoolean, isTable,
  round, floor, ceil, abs,
  random, randomBool, randomInt, randomFloat, randomChoice]

/-- How a built-in is called. -/
def signature : Builtin → Signature
  | split => .method "split" 1 [.string] "split a string by a separator"
  | contains => .method "contains" 1 [.string, .table] "substring, element or range membership"
  | notContains => .method "not_contains" 1 [.string, .table] "negation of contains"
  | matchesPattern => .method "matches" 1 [.string] "regular expression match"
  | upper => .method "upper" 0 [.string] "convert to uppercase"
  | lower => .method "lower" 0 [.string] "convert to lowercase"
  | trim => .method "trim" 0 [.string] "strip surrounding whitespace"
  | substring => .method "substring" 2 [.string] "characters in [start, end)"
  | len => .method "len" 0 [.string, .table] "length of a string or table"
  | isString => .method "is_string" 0 [.any] "value is a string"
  | isNumber => .method "is_number" 0 [.any] "value is a number"
  | isBoolean => .method "is_boolean" 0 [.any] "value is a boolean"
  | isTable => .method "is_table" 0 [.any] "value is a table"
  | round => .method "round" 0 [.number] "round to the nearest integer"
  | floor => .method "floor" 0 [.number] "round down"
  | ceil => .method "ceil" 0 [.number] "round up"
  | abs => .method "abs" 0 [.number] "absolute value"
  | random => .global "random" 0 "random float in [0, 1)"
  | randomBool => .global "random_bool" 0 "random boolean"
  | randomInt => .global "random_int" 2 "random integer in [min, max]"
  | randomFloat => .global "random_float" 2 "random float in [min, max]"
  | randomChoice => .method "random_choice" 0 [.table] "random element of a table"

/-- The name of a built-in. -/
def name (b : Builtin) : String :=
  b.signature.name

/-- The names of the built-ins, in the order of the registry. -/
def names : List String :=
  all.map name

/-- The built-in with a name. -/
def ofName? (s : String) : Option Builtin :=
  all.find? (·.name == s)

/-- The list of all functions misses none. -/
theorem mem_all (b : Builtin) : b ∈ all := by
  cases b <;> decide

/-- A function is found by its own name. -/
theorem ofName?_name (b : Builtin) : ofName? b.name = some b := by
  cases b <;> decide

/-- The function that a name finds has this name. -/
theorem name_of_ofName? {s : String} {b : Builtin} (h : ofName? s = some b) : b.name = s := by
  simpa using List.find?_some h

end Builtin

/-- Whether a name is that of a built-in. -/
def isBuiltin (name : String) : Bool :=
  (Builtin.ofName? name).isSome

end ConditionLang
