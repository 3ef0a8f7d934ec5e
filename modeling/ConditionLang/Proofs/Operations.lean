import Mathlib.Data.List.Basic
import ConditionLang.Eval.Basic

/-!
# Errors of operations

What the operations on values fail with: steps into tables, operators and built-ins that are called as their signatures say.
None of them fails for want of a variable or of a function, and what a built-in has against a call is then about its values
(`EvalError.IsOfOperation`). So a variable is undefined only where a reference reads it (`Context.base`), and a function is
unknown only where it is called by name.
-/

namespace ConditionLang

/-- A fault of the shape of a call: its target or the number of its arguments. -/
def Fault.isMiscall : Fault → Bool
  | .targetMissing | .targetGiven | .argumentCount _ => true
  | _ => false

/-- The built-ins that have something against values of the right kinds. -/
def Builtin.particular : List Builtin := [.substring, .randomInt, .randomFloat, .randomChoice]

/-- An error that an operation on values may give: no undefined variable or unknown function, and a fault only of a built-in
that has something against values of the right kinds. -/
def EvalError.IsOfOperation : EvalError → Prop
  | .undefinedVariable _ | .unknownFunction _ => False
  | .fault b cause => b ∈ Builtin.particular ∧ cause.isMiscall = false
  | _ => True

/-- A result that is no error or an error of an operation. -/
def FailsOfOperation {α : Type} (r : Except EvalError α) : Prop :=
  ∀ e, r = .error e → e.IsOfOperation

section

variable {α β : Type}

/-- A value is no error at all. -/
theorem failsOfOperation_ok (a : α) : FailsOfOperation (.ok a) := by
  intro e h
  cases h

theorem failsOfOperation_error {e : EvalError} (h : e.IsOfOperation) :
    FailsOfOperation (.error e : Except EvalError α) := by
  intro e' h'
  cases h'
  exact h

/-- A fault of a built-in that has something against values of the right kinds, whatever would follow. -/
theorem failsOfOperation_throw {b : Builtin} {cause : Fault} (hb : b ∈ Builtin.particular)
    (hc : cause.isMiscall = false) (f : β → Except EvalError α) : FailsOfOperation (throw (.fault b cause) >>= f) :=
  failsOfOperation_error ⟨hb, hc⟩

/-- A choice fails of the operation if both branches do. -/
theorem FailsOfOperation.ite {c : Prop} [Decidable c] {r r' : Except EvalError α} (h : FailsOfOperation r)
    (h' : FailsOfOperation r') : FailsOfOperation (if c then r else r') := by
  split
  · exact h
  · exact h'

/-- Results in sequence fail of the operation if each of them does. -/
theorem FailsOfOperation.bind {r : Except EvalError α} {f : α → Except EvalError β} (hr : FailsOfOperation r)
    (hf : ∀ a, FailsOfOperation (f a)) : FailsOfOperation (r >>= f) := by
  cases r with
  | error e => exact failsOfOperation_error (hr e rfl)
  | ok a => exact hf a

theorem FailsOfOperation.map {r : Except EvalError α} (hr : FailsOfOperation r) (f : α → β) :
    FailsOfOperation (r.map f) := by
  cases r with
  | error e => exact failsOfOperation_error (hr e rfl)
  | ok a => exact failsOfOperation_ok (f a)

end

namespace Builtin

variable (b : Builtin)

/-- Asking a value for its text fails of the operation. -/
theorem failsOfOperation_textOf (required : Requirement) (v : Value) : FailsOfOperation (textOf b required v) := by
  unfold textOf
  split
  · exact failsOfOperation_ok _
  · exact failsOfOperation_error trivial

theorem failsOfOperation_numberOf (required : Requirement) (v : Value) :
    FailsOfOperation (numberOf b required v) := by
  unfold numberOf
  split
  · exact failsOfOperation_ok _
  · exact failsOfOperation_error trivial

/-- Asking a value for its integer fails of the operation. -/
theorem failsOfOperation_integerOf (v : Value) : FailsOfOperation (integerOf b v) := by
  unfold integerOf
  split
  · split
    · exact failsOfOperation_ok _
    · exact failsOfOperation_error trivial
  · exact failsOfOperation_error trivial

theorem failsOfOperation_partsOf (target separator : Value) : FailsOfOperation (partsOf target separator) := by
  unfold partsOf
  exact (failsOfOperation_textOf _ _ _).bind fun _ => (failsOfOperation_textOf _ _ _).bind fun _ =>
    failsOfOperation_ok _

/-- Testing a target for a needle fails of the operation. -/
theorem failsOfOperation_holds (target needle : Value) : FailsOfOperation (holds b target needle) := by
  unfold holds
  split
  · exact (failsOfOperation_textOf _ _ _).bind fun _ => failsOfOperation_ok _
  · exact failsOfOperation_ok _
  · exact (failsOfOperation_textOf _ _ _).bind fun _ => failsOfOperation_ok _
  · exact (failsOfOperation_numberOf _ _ _).bind fun _ => failsOfOperation_ok _
  · exact failsOfOperation_error trivial

/-- Matching a pattern fails of the operation. -/
theorem failsOfOperation_matchesText (target pattern : Value) : FailsOfOperation (matchesText target pattern) := by
  unfold matchesText
  refine (failsOfOperation_textOf _ _ _).bind fun _ => (failsOfOperation_textOf _ _ _).bind fun _ => ?_
  split
  · split
    · exact failsOfOperation_error trivial
    · exact failsOfOperation_ok _
  · exact failsOfOperation_error trivial

/-- Cutting a part of a text fails of the operation. -/
theorem failsOfOperation_partBetween (target start stop : Value) :
    FailsOfOperation (partBetween target start stop) := by
  unfold partBetween
  refine (failsOfOperation_textOf _ _ _).bind fun _ => (failsOfOperation_integerOf _ _).bind fun _ =>
    (failsOfOperation_integerOf _ _).bind fun _ => ?_
  split
  · exact failsOfOperation_ok _
  · exact failsOfOperation_error ⟨by decide, rfl⟩

theorem failsOfOperation_sizeOf (target : Value) : FailsOfOperation (sizeOf target) := by
  unfold sizeOf
  split
  · exact failsOfOperation_ok _
  · exact failsOfOperation_ok _
  · exact failsOfOperation_ok _
  · exact failsOfOperation_error trivial

/-- Drawing an integer fails of the operation, also if the range is empty. -/
theorem failsOfOperation_integerBetween (min max : Value) : FailsOfOperation (integerBetween min max) := by
  unfold integerBetween
  refine (failsOfOperation_integerOf _ _).bind fun _ => (failsOfOperation_integerOf _ _).bind fun _ => ?_
  split
  · exact failsOfOperation_error ⟨by decide, rfl⟩
  · exact failsOfOperation_ok _

theorem failsOfOperation_numberBetween (min max : Value) : FailsOfOperation (numberBetween min max) := by
  unfold numberBetween
  refine (failsOfOperation_numberOf _ _ _).bind fun x => (failsOfOperation_numberOf _ _ _).bind fun y => ?_
  refine .ite (failsOfOperation_throw (by decide) rfl _) ?_
  refine .ite (failsOfOperation_throw (by decide) rfl _) ?_
  exact .ite (failsOfOperation_throw (by decide) rfl _) (failsOfOperation_ok _)

/-- Drawing one of some values fails of the operation. -/
theorem failsOfOperation_oneOf (values : List Value) : FailsOfOperation (oneOf values) := by
  unfold oneOf
  split
  · exact failsOfOperation_error ⟨by decide, rfl⟩
  · exact failsOfOperation_ok _

theorem failsOfOperation_memberOf (target : Value) : FailsOfOperation (memberOf target) := by
  unfold memberOf
  split
  · exact failsOfOperation_oneOf _
  · exact failsOfOperation_oneOf _
  · exact failsOfOperation_error trivial

theorem failsOfOperation_mapText (f : List Char → List Char) (target : Value) :
    FailsOfOperation (mapText b f target) := by
  unfold mapText
  exact (failsOfOperation_textOf _ _ _).bind fun _ => failsOfOperation_ok _

theorem failsOfOperation_mapNumber (f : Float → Float) (target : Value) :
    FailsOfOperation (mapNumber b f target) := by
  unfold mapNumber
  exact (failsOfOperation_numberOf _ _ _).bind fun _ => failsOfOperation_ok _

/-- Every built-in takes exactly one number of arguments. -/
theorem acceptsCount_iff {count : Nat} : b.signature.acceptsCount count = true ↔ count = b.signature.minArgs := by
  rw [Signature.acceptsCount, Bool.and_eq_true, decide_eq_true_eq]
  cases b <;> simp only [signature, Signature.method, Signature.global, Option.all_some, decide_eq_true_eq] <;> omega

/-- A built-in with as many arguments as it takes fails with errors of operations only. -/
theorem failsOfOperation_apply (target : Value) (args : List Value) (h : b.signature.acceptsCount args.length = true) :
    FailsOfOperation (b.apply target args) := by
  rw [acceptsCount_iff] at h
  cases b with
  | split =>
    obtain ⟨separator, rfl⟩ := List.length_eq_one_iff.mp h
    exact (failsOfOperation_partsOf _ _).map _
  | contains | notContains =>
    obtain ⟨needle, rfl⟩ := List.length_eq_one_iff.mp h
    exact (failsOfOperation_holds _ _ _).map _
  | matchesPattern =>
    obtain ⟨pattern, rfl⟩ := List.length_eq_one_iff.mp h
    exact (failsOfOperation_matchesText _ _).map _
  | upper | lower | trim =>
    obtain rfl := List.length_eq_zero_iff.mp h
    exact failsOfOperation_mapText _ _ _
  | substring =>
    obtain ⟨start, stop, rfl⟩ := List.length_eq_two.mp h
    exact (failsOfOperation_partBetween _ _ _).map _
  | len =>
    obtain rfl := List.length_eq_zero_iff.mp h
    exact (failsOfOperation_sizeOf _).map _
  | isString | isNumber | isBoolean | isTable | random | randomBool =>
    obtain rfl := List.length_eq_zero_iff.mp h
    exact failsOfOperation_ok _
  | round | floor | ceil | abs =>
    obtain rfl := List.length_eq_zero_iff.mp h
    exact failsOfOperation_mapNumber _ _ _
  | randomInt =>
    obtain ⟨min, max, rfl⟩ := List.length_eq_two.mp h
    exact failsOfOperation_integerBetween _ _
  | randomFloat =>
    obtain ⟨min, max, rfl⟩ := List.length_eq_two.mp h
    exact failsOfOperation_numberBetween _ _
  | randomChoice =>
    obtain rfl := List.length_eq_zero_iff.mp h
    exact failsOfOperation_memberOf _

/-- What a call comes to: an error if the name is unknown or the call does not have the shape that the signature demands, and
otherwise what the built-in comes to. -/
theorem call_cases (name : String) (target : Option Value) (args : List Value) :
    ofName? name = none ∧ call name target args = .error (.unknownFunction name) ∨
      ∃ b, ofName? name = some b ∧
        ((∃ cause, cause.isMiscall = true ∧ call name target args = .error (.fault b cause)) ∨
          target.isSome = b.signature.requiresTarget ∧ b.signature.acceptsCount args.length = true ∧
            call name target args = b.apply (target.getD .missing) args) := by
  unfold call
  cases hname : ofName? name with
  | none => exact .inl ⟨rfl, rfl⟩
  | some b =>
    refine .inr ⟨b, rfl, ?_⟩
    simp only
    split
    · exact .inl ⟨.targetMissing, rfl, rfl⟩
    · rename_i hmissing
      split
      · exact .inl ⟨.targetGiven, rfl, rfl⟩
      · rename_i hgiven
        split
        · exact .inl ⟨.argumentCount args.length, rfl, rfl⟩
        · rename_i hcount
          have htarget : target.isSome = b.signature.requiresTarget := by
            cases target <;> simp_all
          exact .inr ⟨htarget, not_not.mp hcount, rfl⟩

/-- A call that names a built-in, has a target if and only if the built-in takes one and has as many arguments as it takes
fails with errors of operations only. -/
theorem failsOfOperation_call {name : String} {b : Builtin} {target : Option Value} {args : List Value}
    (hname : ofName? name = some b) (htarget : target.isSome = b.signature.requiresTarget)
    (hcount : b.signature.acceptsCount args.length = true) : FailsOfOperation (call name target args) := by
  have hcall : call name target args = b.apply (target.getD .missing) args := by
    unfold call
    cases target <;> simp_all
  rw [hcall]
  exact failsOfOperation_apply b _ args hcount

end Builtin

/-! ## Steps and operators -/

/-- A step into a value fails of the operation. -/
theorem Value.failsOfOperation_step (v : Value) (access : Access) (key : String) :
    FailsOfOperation (v.step access key) := by
  unfold step
  split
  · exact failsOfOperation_ok _
  · split
    · exact failsOfOperation_ok _
    · exact failsOfOperation_error trivial
  · exact failsOfOperation_error trivial

theorem Value.failsOfOperation_negate (v : Value) : FailsOfOperation v.negate := by
  unfold negate
  split
  · exact failsOfOperation_ok _
  · exact failsOfOperation_ok _
  · exact failsOfOperation_error trivial

namespace Context

/-- Walking a path fails with errors of operations only. -/
theorem failsOfOperation_walk (path : List Access) (walked : Reference) (current : Value) (scope : Scope) :
    FailsOfOperation (walk walked current scope path) := by
  induction path generalizing walked current scope with
  | nil => exact failsOfOperation_ok _
  | cons access path ih =>
    unfold walk
    exact .ite (failsOfOperation_error trivial) ((Value.failsOfOperation_step _ _ _).bind fun _ => ih _ _ _)

end Context

namespace Operator

/-- Arithmetic fails of the operation, also by a division by zero. -/
theorem failsOfOperation_arithmetic (op : Operator) (x y : Float) : FailsOfOperation (op.arithmetic x y) := by
  unfold arithmetic
  split
  · exact failsOfOperation_ok _
  · exact failsOfOperation_ok _
  · exact failsOfOperation_ok _
  all_goals exact .ite (failsOfOperation_error trivial) (failsOfOperation_ok _)

/-- Applying an operator fails of the operation. -/
theorem failsOfOperation_apply (op : Operator) (left right : Value) : FailsOfOperation (op.apply left right) := by
  unfold apply
  split
  · exact failsOfOperation_ok _
  · exact failsOfOperation_ok _
  · exact failsOfOperation_ok _
  · split
    · exact failsOfOperation_ok _
    · exact failsOfOperation_error trivial
  · split
    · exact failsOfOperation_ok _
    · exact failsOfOperation_error trivial
  · split
    · exact .ite (failsOfOperation_ok _) ((failsOfOperation_arithmetic _ _ _).map _)
    · exact failsOfOperation_error trivial

end Operator

end ConditionLang
