import ConditionLang.Eval.Error
import ConditionLang.Number.Rounding
import ConditionLang.Pattern.Basic
import ConditionLang.Pattern.Meaning
import ConditionLang.Text.Split
import ConditionLang.Unicode.Case

/-!
# Calls of built-ins

A call names a built-in, has a target if the built-in takes one and none if it does not, and as many arguments as the
signature says. A call of a random built-in comes to a draw and the value that each outcome of the draw stands for; all
other calls come to a value.
-/

namespace ConditionLang

-- Powers are those of the core library, whatever other instances there are.
attribute [local instance (high)] instPowNat

/-- What a call comes to. -/
inductive Drawn where
  | value (v : Value)
  /-- The value of a number below `bound`, which is to be drawn. -/
  | choice (bound : Nat) (valueOf : Nat → Value)
  deriving Inhabited

namespace Builtin

abbrev Result (α : Type) := Except EvalError α

/-! ## Targets and arguments -/

/-- A value that must be a text. -/
def textOf (b : Builtin) (required : Requirement) (v : Value) : Result String :=
  match v with
  | .text s => .ok s
  | v => .error (.mismatch b required v.kind)

/-- A value that must be a number. -/
def numberOf (b : Builtin) (required : Requirement) (v : Value) : Result Float :=
  match v with
  | .number x => .ok x
  | v => .error (.mismatch b required v.kind)

/-- A value that must be a finite number; its whole part, brought into the range of 64 bits. -/
def integerOf (b : Builtin) (v : Value) : Result Int :=
  match v with
  | .number x =>
    match Number.truncate? x with
    | some n => .ok (Number.clampInt64 n)
    | none => .error (.mismatch b .numberArgument .number)
  | v => .error (.mismatch b .numberArgument v.kind)

/-! ## Texts and tables -/

/-- The parts of a text between the occurrences of a separator. -/
def partsOf (target separator : Value) : Result Value := do
  let s ← textOf split .textTarget target
  let separator ← textOf split .textArgument separator
  return .sequence ((Text.split separator.toList s.toList).map fun part => .text (String.ofList part))

/-- Whether a text has a part, a sequence an item, a map a key, or a range a number. -/
def holds (b : Builtin) (target needle : Value) : Result Bool :=
  match target with
  | .text s => do return Text.hasInfix (← textOf b .textArgument needle).toList s.toList
  | .sequence items => .ok (items.any (·.equals needle))
  | .map entries => do return Entries.hasKey (← textOf b .textArgument needle) entries
  | .range first last => do
    let x ← numberOf b .numberArgument needle
    return first ≤ x && x ≤ last
  | v => .error (.mismatch b .container v.kind)

/-- Whether a pattern matches some part of a text. -/
def matchesText (target pattern : Value) : Result Bool := do
  let s ← textOf matchesPattern .textTarget target
  let pattern ← textOf matchesPattern .textArgument pattern
  match Pattern.ofText? pattern.toList with
  | some p => if p.isTooLarge then throw (.invalidPattern pattern .tooLarge) else return p.matchesIn s.toList
  | none => throw (.invalidPattern pattern .unreadable)

/-- The characters of a text from one position up to but not including another. The first position is one of a character,
so of an empty text there is no part. -/
def partBetween (target start stop : Value) : Result String := do
  let s ← textOf substring .textTarget target
  let start ← integerOf substring start
  let stop ← integerOf substring stop
  if 0 ≤ start ∧ start < s.length ∧ start ≤ stop ∧ stop ≤ s.length then
    return String.ofList ((s.toList.drop start.toNat).take (stop - start).toNat)
  else throw (.fault substring (.outOfRange start stop s.length))

/-- The number of characters of a text, of items of a sequence or of entries of a map. -/
def sizeOf (target : Value) : Result Nat :=
  match target with
  | .text s => .ok s.length
  | .sequence items => .ok items.length
  | .map entries => .ok entries.length
  | v => .error (.mismatch len .sized v.kind)

/-! ## Random values -/

/-- The number that a draw below 2 ^ 53 stands for, from 0 up to but not including 1. -/
def unitOf (n : Nat) : Float :=
  Number.ofRatio false n (2 ^ (53 : Nat))

/-- A whole number between two bounds, both included. -/
def integerBetween (min max : Value) : Result Drawn := do
  let min ← integerOf randomInt min
  let max ← integerOf randomInt max
  if max < min then throw (.fault randomInt (.emptyRange min max))
  return .choice (max - min + 1).toNat fun n => .number (Number.ofInt (min + n))

/-- A number between two bounds. -/
def numberBetween (min max : Value) : Result Drawn := do
  let min ← numberOf randomFloat .numberArgument min
  let max ← numberOf randomFloat .numberArgument max
  if !(min.isFinite && max.isFinite) then throw (.fault randomFloat (.infiniteBound min max))
  if max < min then throw (.fault randomFloat (.emptyInterval min max))
  if !(max - min).isFinite then throw (.fault randomFloat (.infiniteWidth min max))
  return .choice (2 ^ (53 : Nat)) fun n => .number (min + unitOf n * (max - min))

/-- One of some values. -/
def oneOf (values : List Value) : Result Drawn :=
  if values.isEmpty then .error (.fault randomChoice .nothingToChoose)
  else .ok (.choice values.length fun n => values[n]?.getD .missing)

/-- An item of a sequence or a value of a map. -/
def memberOf (target : Value) : Result Drawn :=
  match target with
  | .sequence items => oneOf items
  | .map entries => oneOf (entries.map (·.2))
  | v => .error (.mismatch randomChoice .table v.kind)

/-! ## Calls -/

/-- A text that a built-in makes of its target. -/
def mapText (b : Builtin) (f : List Char → List Char) (target : Value) : Result Drawn := do
  return .value (.text (String.ofList (f (← textOf b .textTarget target).toList)))

/-- A number that a built-in makes of its target. -/
def mapNumber (b : Builtin) (f : Float → Float) (target : Value) : Result Drawn := do
  return .value (.number (f (← numberOf b .numberTarget target)))

/-- A truth value. -/
def truth (b : Bool) : Drawn :=
  .value (.truth b)

/-- A built-in applied to a target, which is missing where it takes none, and to arguments. -/
def apply (b : Builtin) (target : Value) (args : List Value) : Result Drawn :=
  match b, args with
  | split, [separator] => (partsOf target separator).map .value
  | contains, [needle] => (holds b target needle).map truth
  | notContains, [needle] => (holds b target needle).map fun found => truth (!found)
  | matchesPattern, [pattern] => (matchesText target pattern).map truth
  | upper, [] => mapText b Unicode.upper target
  | lower, [] => mapText b Unicode.lower target
  | trim, [] => mapText b Text.trim target
  | substring, [start, stop] => (partBetween target start stop).map fun s => .value (.text s)
  | len, [] => (sizeOf target).map fun n => .value (.number (Number.ofNat n))
  | isString, [] => .ok (truth (target.kind == .text))
  | isNumber, [] => .ok (truth (target.kind == .number))
  | isBoolean, [] => .ok (truth (target.kind == .truth))
  | isTable, [] => .ok (truth target.isTable)
  | round, [] => mapNumber b Number.round target
  | floor, [] => mapNumber b Number.floor target
  | ceil, [] => mapNumber b Number.ceil target
  | abs, [] => mapNumber b Number.abs target
  | random, [] => .ok (.choice (2 ^ (53 : Nat)) fun n => .number (unitOf n))
  | randomBool, [] => .ok (.choice 2 fun n => .truth (n == 1))
  | randomInt, [min, max] => integerBetween min max
  | randomFloat, [min, max] => numberBetween min max
  | randomChoice, [] => memberOf target
  | b, args => .error (.fault b (.argumentCount args.length))

/-- What a call by name comes to. -/
def call (name : String) (target : Option Value) (args : List Value) : Result Drawn :=
  match ofName? name with
  | none => .error (.unknownFunction name)
  | some b =>
    if b.signature.requiresTarget ∧ target.isNone then .error (.fault b .targetMissing)
    else if ¬b.signature.requiresTarget ∧ target.isSome then .error (.fault b .targetGiven)
    else if ¬b.signature.acceptsCount args.length then .error (.fault b (.argumentCount args.length))
    else b.apply (target.getD .missing) args

end Builtin

end ConditionLang
