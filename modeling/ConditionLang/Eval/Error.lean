import ConditionLang.Builtin
import ConditionLang.Expr.Canonical
import ConditionLang.Pattern.Machine
import ConditionLang.Pattern.Meaning
import ConditionLang.Text.Quoted
import ConditionLang.Value.Basic

/-!
# Errors of evaluation

Why an expression has no value in a context. An error is a cause, its message a function of it.
-/

namespace ConditionLang

/-- What a built-in requires of its target or of an argument. -/
inductive Requirement where
  | textTarget
  | numberTarget
  | textArgument
  | numberArgument
  | container
  | sized
  | table
  deriving Repr, DecidableEq, Inhabited

/-- How messages name what is required. -/
def Requirement.describe : Requirement → String
  | .textTarget => "a string target"
  | .numberTarget => "a number target"
  | .textArgument => "a string argument"
  | .numberArgument => "a numeric argument"
  | .container => "a string, table or range target"
  | .sized => "a string or table target"
  | .table => "a table target"

/-- What a built-in has against a call. -/
inductive Fault where
  | targetMissing
  | targetGiven
  | argumentCount (count : Nat)
  | outOfRange (start stop : Int) (length : Nat)
  | emptyRange (min max : Int)
  | emptyInterval (min max : Float)
  | infiniteBound (min max : Float)
  | infiniteWidth (min max : Float)
  | nothingToChoose
  deriving Repr, Inhabited

/-- The message about a fault. -/
def Fault.message : Fault → String
  | .targetMissing => "requires a target"
  | .targetGiven => "does not take a target"
  | .argumentCount count => s!"wrong number of arguments: {count}"
  | .outOfRange start stop length => s!"indices [{start}, {stop}) out of range for length {length}"
  | .emptyRange min max => s!"min ({min}) must not exceed max ({max})"
  | .emptyInterval min max => s!"min ({Number.text min}) must not exceed max ({Number.text max})"
  | .infiniteBound min max => s!"bounds must be finite, got [{Number.text min}, {Number.text max}]"
  | .infiniteWidth min max => s!"range [{Number.text min}, {Number.text max}] is too wide"
  | .nothingToChoose => "cannot choose from an empty table"

/-- Why a pattern cannot be matched. -/
inductive PatternFault where
  | unreadable
  | tooLarge
  deriving Repr, DecidableEq, Inhabited

/-- The message about a pattern. -/
def PatternFault.message [PatternReports] (pattern : String) : PatternFault → String
  | .unreadable => PatternReports.report pattern
  | .tooLarge => s!"Compiled regex exceeds size limit of {Pattern.roomLimit} bytes."

inductive EvalError where
  | undefinedVariable (name : String)
  /-- Operands of kinds that an operator does not take. -/
  | operands (op : Operator) (left right : Kind)
  /-- An operand of `not` that is neither a truth value nor missing. -/
  | negand (found : Kind)
  /-- A target or an argument of another kind than a built-in takes. -/
  | mismatch (function : Builtin) (required : Requirement) (found : Kind)
  | divisionByZero
  | moduloByZero
  /-- A step from a missing value, to which the steps of `walked` led. -/
  | stepFromMissing (walked : Reference) (key : String)
  /-- A step from a value that has no such entries. -/
  | noSuchStep (key : String) (kind : Kind)
  /-- A binding of several names to a value that is no table. -/
  | notDestructible (kind : Kind) (count : Nat)
  | unknownFunction (name : String)
  | fault (function : Builtin) (cause : Fault)
  | invalidPattern (pattern : String) (cause : PatternFault)
  /-- A condition with a value that is no truth value. -/
  | notTruth (kind : Kind)
  deriving Repr, Inhabited

namespace EvalError

/-- What an operator wants of its operands. -/
def wantedOperands (op : Operator) : String :=
  if op = .and ∨ op = .or then "boolean operands" else "numeric operands"

/-- The message of an error. -/
def message [PatternReports] : EvalError → String
  | .undefinedVariable name => s!"undefined variable: {name}"
  | .operands op left right =>
    s!"'{op.symbol}' operator requires {wantedOperands op}, got {left.describe} and {right.describe}"
  | .negand found => s!"'not' operator requires a boolean operand, got {found.describe}"
  | .mismatch function required found => s!"function .{function.name} requires {required.describe}, got {found.describe}"
  | .divisionByZero => "division by zero"
  | .moduloByZero => "modulo by zero"
  | .stepFromMissing walked key =>
    s!"cannot access {Text.quoted key} on a missing value in \x60{String.ofList walked.canonical}\x60"
  | .noSuchStep key kind => s!"cannot access {Text.quoted key} on {kind.describe}"
  | .notDestructible kind count => s!"cannot destructure {kind.describe} into {count} variables"
  | .unknownFunction name => s!"unknown function: .{name}"
  | .fault function cause => s!"function .{function.name}: {cause.message}"
  | .invalidPattern pattern cause => s!"invalid regex pattern {Text.quoted pattern}: {cause.message pattern}"
  | .notTruth kind => s!"condition must evaluate to a boolean, got {kind.describe}"

end EvalError

end ConditionLang
