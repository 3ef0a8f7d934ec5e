import ConditionLang.Condition.Line
import ConditionLang.Context.Name

/-!
# Linting blocks

Warnings about variables that no earlier line binds, and about bindings that can never be read because the name always
means a part of the request. Lines are visited in order, and within a line names are bound from left to right.
-/

namespace ConditionLang

namespace Lint

/-- Warnings found so far and the names bound so far. -/
structure State where
  bound : List String
  warnings : List Finding
  deriving Repr, DecidableEq, Inhabited

namespace State

/-- One more warning. -/
def warn (s : State) (f : Finding) : State :=
  { s with warnings := s.warnings ++ [f] }

/-- Reads a variable. -/
def read (s : State) (name : String) : State :=
  if isContextName name || s.bound.contains name then s else s.warn (.unboundVariable name)

/-- Binds a name. -/
def bind (s : State) (name : String) : State :=
  let s := if isContextName name then s.warn (.shadowedBinding name) else s
  { s with bound := name :: s.bound }

end State

mutual

/-- Visits an expression. -/
def visit (s : State) : Expr → State
  | .number _ | .truth _ | .text _ | .range _ _ => s
  | .reference ref => s.read ref.name
  | .sequence items => visitItems s items
  | .dictionary pairs => visitPairs s pairs
  | .binary _ left right => visit (visit s left) right
  | .negation operand => visit s operand
  | .binding value names => names.foldl State.bind (visit s value)
  | .call _ args => visitItems s args
  | .method target _ args => visitItems (visit s target) args

/-- Visits a list of expressions. -/
def visitItems (s : State) : List Expr → State
  | [] => s
  | item :: items => visitItems (visit s item) items

/-- Visits the values of key and value pairs. -/
def visitPairs (s : State) : List (String × Expr) → State
  | [] => s
  | (_, value) :: pairs => visitPairs (visit s value) pairs

end

/-- The warnings about the lines of a block after lines that bound the names `bound`. -/
def linesAfter (bound : List String) : List ConditionLine → List (Nat × Finding)
  | [] => []
  | condition :: rest =>
    let s := visit ⟨bound, []⟩ condition.expr
    s.warnings.map (condition.line, ·) ++ linesAfter s.bound rest

end Lint

/-- The warnings about a block, each with its line. -/
def Block.warnings (lines : List ConditionLine) : List (Nat × Finding) :=
  Lint.linesAfter [] lines

end ConditionLang
