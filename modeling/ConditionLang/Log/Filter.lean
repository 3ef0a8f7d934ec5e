import ConditionLang.Log.Event
import ConditionLang.Number.Decimal
import ConditionLang.Pattern.CharClass

/-!
# Log filters

A filter is written as directives with commas between them: a threshold for all events, `warn`, or one for the events of
the modules with a common beginning, `mc_core=debug`. The directive with the longest beginning decides, and of two with
the same beginning the later; where none applies, nothing is let through.
-/

namespace ConditionLang

namespace Log

/-- A threshold for the modules that start with a text. -/
structure Rule where
  start : String
  threshold : Threshold
  deriving Repr, DecidableEq, Inhabited

abbrev Filter := List Rule

namespace Filter

/-- Of two rules the one that decides, the second standing later in the filter. -/
def decisive (first second : Rule) : Rule :=
  if second.start.length < first.start.length then first else second

/-- The threshold of a module. -/
def threshold (f : Filter) (module : String) : Threshold :=
  match f.filter (·.start.toList.isPrefixOf module.toList) with
  | [] => none
  | rule :: rules => (rules.foldl decisive rule).threshold

/-- Whether an event is let through. -/
def admits (f : Filter) (e : Event) : Bool :=
  (f.threshold e.module).admits e.level

end Filter

/-! ## Directives -/

/-- What a directive says. -/
inductive Directive where
  | rule (r : Rule)
  /-- A threshold inside of spans, of which no event here has any. -/
  | span
  deriving Repr, DecidableEq, Inhabited

/-- Why a directive does not read. -/
inductive DirectiveError where
  | malformed
  | unknownLevel
  deriving Repr, DecidableEq, Inhabited

/-- The message of an error. -/
def DirectiveError.message : DirectiveError → String
  | .malformed => "invalid filter directive"
  | .unknownLevel =>
    "error parsing level filter: expected one of \"off\", \"error\", \"warn\", \"info\", \"debug\", \"trace\", or a number 0-5"

/-- The threshold that a word or a number stands for. -/
def thresholdOf? (word : List Char) : Option Threshold :=
  match Number.readWord? word with
  | some n => [none, some .error, some .warn, some .info, some .debug, some .trace][n]?
  | none => Threshold.ofWord? (String.ofList word)

/-- The threshold after an equals sign; without one, all events. -/
def levelAfter (word : List Char) : Except DirectiveError Threshold :=
  if word.isEmpty then .ok (some .trace)
  else
    match thresholdOf? word with
    | some t => .ok t
    | none => .error .unknownLevel

namespace Directive

/-- Whether a directive may start with a character. -/
def mayStart (c : Char) : Bool :=
  c == '-' || c == ':' || c == '_' || Unicode.alphabetic.contains c || Unicode.numeric.contains c

/-- Reads the rest of a directive about a span. -/
def readSpan (s : List Char) : Except DirectiveError Directive :=
  match s.dropWhile (· != ']') with
  | [_] => .ok .span
  | _ :: '=' :: word => (levelAfter word).map fun _ => .span
  | _ => .error .malformed

/-- Reads a directive. -/
def read (s : List Char) : Except DirectiveError Directive :=
  match s with
  | [] => .error .malformed
  | c :: _ =>
    let (target, rest) := s.span fun c => c != '=' && c != '['
    if c != '[' && !mayStart c then .error .malformed
    else
      match rest with
      | '=' :: word => (levelAfter word).map fun t => .rule ⟨String.ofList target, t⟩
      | '[' :: inner => readSpan inner
      | _ =>
        match thresholdOf? target with
        | some t => .ok (.rule ⟨"", t⟩)
        | none => .ok (.rule ⟨String.ofList target, some .trace⟩)

/-- The parts of a filter that are no directives, each with the reason, and the directives among its parts. -/
def readAll (text : String) : List (String × DirectiveError) × List Directive :=
  let parts := (text.toList.splitOn ',').filter (!·.isEmpty)
  (parts.filterMap fun part => match read part with
    | .error e => some (String.ofList part, e)
    | .ok _ => none,
   parts.filterMap fun part => (read part).toOption)

end Directive

namespace Filter

/-- The rules among directives. -/
def ofDirectives (ds : List Directive) : Filter :=
  ds.filterMap fun
    | .rule r => some r
    | .span => none

/-- The filter that settings write. -/
def text (s : Settings) : String :=
  s.modules.foldl (fun text (module, level) => text ++ s!",{module}={level}") s.level

/-- The filter of settings. All of its directives must read. -/
def ofSettings (s : Settings) : Except DirectiveError Filter :=
  match Directive.readAll (text s) with
  | ([], ds) => .ok (ofDirectives ds)
  | ((_, e) :: _, _) => .error e

/-- The filter that a text writes, and complaints about the parts of it that do not read. A filter without directives lets
errors through. -/
def ofText (text : String) : Filter × List String :=
  let (refused, ds) := Directive.readAll text
  (if ds.isEmpty then [⟨"", some .error⟩] else ofDirectives ds,
    refused.map fun (part, e) => s!"ignoring \x60{part}\x60: {e.message}")

end Filter

end Log

end ConditionLang
