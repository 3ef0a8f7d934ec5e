import ConditionLang.Eval.Error
import ConditionLang.Number.Rounding

/-!
# Operators on values

Both operands have been evaluated when an operator is applied, also those of `and` and `or`. Equality and concatenation
take operands of every kind, the other operators those of one kind only.
-/

namespace ConditionLang

namespace Operator

/-- The number that an arithmetic operator gives. A quotient rounded down and a remainder need a divisor, too. -/
def arithmetic (x y : Float) : Operator → Except EvalError Float
  | .add => .ok (x + y)
  | .sub => .ok (x - y)
  | .mul => .ok (x * y)
  | .div => if y == 0 then .error .divisionByZero else .ok (x / y)
  | .floorDiv => if y == 0 then .error .divisionByZero else .ok (Number.floor (x / y))
  | _ => if y == 0 then .error .moduloByZero else .ok (Number.remainder x y)

/-- Whether two numbers compare as an operator says. -/
def comparison (x y : Float) : Operator → Bool
  | .gt => y < x
  | .lt => x < y
  | .ge => y ≤ x
  | _ => x ≤ y

/-- The value of an operator applied to two values. -/
def apply (op : Operator) (left right : Value) : Except EvalError Value :=
  match op with
  | .eq => .ok (.truth (left.equals right))
  | .ne => .ok (.truth (!left.equals right))
  | .concat => .ok (.text (left.display ++ right.display))
  | .and | .or =>
    match left.truth?, right.truth? with
    | some a, some b => .ok (.truth (if op = .and then a && b else a || b))
    | _, _ => .error (.operands op left.kind right.kind)
  | op =>
    match left.number?, right.number? with
    | some x, some y =>
      if op.isComparison then .ok (.truth (op.comparison x y)) else (op.arithmetic x y).map .number
    | _, _ => .error (.operands op left.kind right.kind)

end Operator

namespace Value

/-- The value of `not`, which takes a missing value for a false one. -/
def negate : Value → Except EvalError Value
  | .truth b => .ok (.truth (!b))
  | .missing => .ok (.truth true)
  | v => .error (.negand v.kind)

end Value

end ConditionLang
