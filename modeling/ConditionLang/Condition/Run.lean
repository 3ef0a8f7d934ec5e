import ConditionLang.Condition.Line
import ConditionLang.Eval.Basic

/-!
# Running blocks

The lines of a block are evaluated in order. A plain line replaces the verdict so far and is skipped while that verdict is
false; an `or` line is always evaluated and makes the verdict true if it holds. A block without lines holds, and the
first line that fails ends the run.
-/

namespace ConditionLang

/-- A line that failed, and why. -/
structure LineError where
  line : Nat
  error : EvalError
  deriving Repr, Inhabited

/-- What a run did with a line. -/
inductive LineStep where
  | skipped (line : Nat)
  | evaluated (line : Nat) (isOr verdict : Bool)
  deriving Repr, DecidableEq, Inhabited

/-- What a run of a block came to: what it did, its verdict or the line that failed, and the context it left. -/
structure Outcome where
  steps : List LineStep
  result : Except LineError Bool
  context : Context
  deriving Inhabited

/-- The same outcome after one more step in front. -/
def Outcome.after (o : Outcome) (step : LineStep) : Outcome :=
  { o with steps := step :: o.steps }

/-- Whether a line holds. A line that is a binding holds once it has bound; any other must have a truth value. -/
def ConditionLine.verdict (l : ConditionLine) : Evaluation Bool := do
  let v ← l.expr.evaluate
  if l.expr.isBinding then return true
  .ofExcept <| match v with
    | .truth b => .ok b
    | v => .error (.notTruth v.kind)

namespace Block

/-- Runs the rest of a block, whose lines so far have come to `verdict`. -/
def runFrom (verdict : Bool) (ctx : Context) : List ConditionLine → Outcome
  | [] => ⟨[], .ok verdict, ctx⟩
  | l :: rest =>
    if !l.isOr && !verdict then (runFrom verdict ctx rest).after (.skipped l.line)
    else
      match l.verdict ctx with
      | (.error e, ctx) => ⟨[], .error ⟨l.line, e⟩, ctx⟩
      | (.ok holds, ctx) =>
        (runFrom (if l.isOr then verdict || holds else holds) ctx rest).after (.evaluated l.line l.isOr holds)

/-- Runs a block. -/
def run (lines : List ConditionLine) (ctx : Context) : Outcome :=
  runFrom true ctx lines

end Block

namespace Outcome

/-- The verdict of a run, or why it failed. -/
def evaluated (o : Outcome) : Except EvalError Bool :=
  o.result.mapError (·.error)

/-- The verdict of a run, in which a failure counts as one that is not met. -/
def matched (o : Outcome) : Bool :=
  o.result.toOption.getD false

end Outcome

end ConditionLang
