import ConditionLang.Condition.Run
import ConditionLang.Diagnostic.Lint

/-!
# Condition sets

A block that has been loaded, to be decided for one request after another. Errors of loading and of deciding have a code
and a common form of message.
-/

namespace ConditionLang

/-- What becomes of a block that fails when it is run. -/
inductive ErrorPolicy where
  | noMatch
  | fail
  deriving Repr, DecidableEq, Inhabited

/-- Why a condition set cannot be loaded or decided. -/
inductive ConditionError where
  | load (error : LoadError)
  | evaluation (error : EvalError)
  deriving Repr, Inhabited

namespace ConditionError

/-- The code of an error. -/
def code : ConditionError → Nat
  | .load (.unreadable _ _) => 3001
  | .load (.refused _ _) => 3002
  | .evaluation _ => 3003

/-- What an error is about. -/
def reason : ConditionError → String
  | .load (.unreadable _ _) => "condition syntax error"
  | .load (.refused _ _) => "condition semantic error"
  | .evaluation _ => "condition evaluation error"

/-- The cause of an error. -/
def details [PatternReports] : ConditionError → String
  | .load e => e.describe
  | .evaluation e => e.message

/-- The message of an error. -/
def message [PatternReports] (e : ConditionError) : String :=
  s!"[{e.code}] {e.reason}\n  -> Details: {e.details}"

end ConditionError

/-- A block of condition lines. -/
structure ConditionSet where
  lines : List ConditionLine
  deriving Repr, Inhabited

namespace ConditionSet

/-- Loads the block that a text holds. -/
def compile (mode : LexMode) (text : String) : Except ConditionError ConditionSet :=
  match Block.load mode text.toList with
  | .ok lines => .ok ⟨lines⟩
  | .error e => .error (.load e)

/-- The warnings about the lines. -/
def warnings (s : ConditionSet) : List (Nat × Finding) :=
  Block.warnings s.lines

/-- Runs the block. -/
def run (s : ConditionSet) (ctx : Context) : Outcome :=
  Block.run s.lines ctx

end ConditionSet

namespace Outcome

/-- The verdict of a run, or the error that it failed with. -/
def verdict (o : Outcome) : Except ConditionError Bool :=
  o.evaluated.mapError .evaluation

/-- The verdict of a run under a policy. -/
def decision (policy : ErrorPolicy) (o : Outcome) : Except ConditionError Bool :=
  match policy with
  | .noMatch => .ok o.matched
  | .fail => o.verdict

end Outcome

end ConditionLang
