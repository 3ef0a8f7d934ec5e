import ConditionLang.Builtin
import ConditionLang.Pattern.Meaning
import ConditionLang.Text.Quoted

/-!
# Findings about expressions

What the checker and the linter have to say about an expression that reads. A finding is a cause; its message, severity
and display text are functions of it.
-/

namespace ConditionLang

/-- How serious a finding is. Only an error keeps a condition from being loaded. -/
inductive Severity where
  | error
  | warning
  deriving Repr, DecidableEq, Inhabited

/-- How reports name a severity. -/
def Severity.describe : Severity → String
  | .error => "error"
  | .warning => "warning"

inductive Finding where
  /-- A call of no built-in; `closest` is the built-in that may have been meant. -/
  | unknownFunction (name : String) (closest : Option String)
  | missingTarget (name : String)
  | unexpectedTarget (name : String)
  | invalidTarget (name : String) (kind : TargetKind) (accepted : List TargetKind)
  | tooFewArgs (name : String) (min count : Nat)
  | tooManyArgs (name : String) (max count : Nat)
  | invalidName (name : String)
  | noNames
  | invalidPattern (pattern : String)
  /-- A variable that is read before any line binds it. -/
  | unboundVariable (name : String)
  /-- A binding of a name that always means a part of the request. -/
  | shadowedBinding (name : String)
  deriving Repr, DecidableEq, Inhabited

namespace Finding

/-- Findings of the linter are warnings, those of the checker errors. -/
def severity : Finding → Severity
  | .unboundVariable _ | .shadowedBinding _ => .warning
  | _ => .error

/-- The built-in that may have been meant. -/
def closest? : Finding → Option String
  | .unknownFunction _ closest => closest
  | _ => none

/-- The message of a finding. -/
def message [PatternReports] : Finding → String
  | .unknownFunction name _ => s!"unknown function: .{name}"
  | .missingTarget name => s!"function .{name} requires a target (e.g., value.{name}(...))"
  | .unexpectedTarget name =>
    s!"function .{name} does not take a target (use .{name}(...) instead of value.{name}(...))"
  | .invalidTarget name kind accepted =>
    let expected := " or ".intercalate (accepted.map TargetKind.describe)
    s!"function .{name} cannot be called on a {kind.describe} (expects {expected})"
  | .tooFewArgs name min count => s!"function .{name} requires at least {min} argument(s), got {count}"
  | .tooManyArgs name max count => s!"function .{name} accepts at most {max} argument(s), got {count}"
  | .invalidName name => s!"invalid variable name: {name}"
  | .noNames => "attribution requires at least one variable name"
  | .invalidPattern pattern =>
    s!"function .matches: invalid regex pattern {Text.quoted pattern}: {PatternReports.report pattern}"
  | .unboundVariable name => s!"variable \x60{name}\x60 is read before any \x60>>\x60 binds it"
  | .shadowedBinding name =>
    s!"binding \x60{name}\x60 can never be read back: the request context name wins"

/-- The text of a finding as reports show it. -/
def describe [PatternReports] (f : Finding) : String :=
  match f.closest? with
  | some name => s!"{f.message} (did you mean .{name}?)"
  | none => f.message

end Finding

end ConditionLang
