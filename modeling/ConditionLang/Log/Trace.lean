import ConditionLang.Diagnostic.Report
import ConditionLang.Log.Event

/-!
# What is logged

The events that come with reading condition lines, loading a block and deciding it, in the order in which they happen.
-/

namespace ConditionLang

namespace ConditionLine

/-- The events of reading a line: the characters that are passed over. -/
def readEvents (mode : LexMode) (raw : List Char) : List Log.Event :=
  match mode, body? raw with
  | .lenient, some body => (strayCharacters (splitOr body).2).map fun (position, c) => .skipped position c
  | _, _ => []

end ConditionLine

namespace Block

/-- The lines of a text that loading gets to see: all up to the first at fault. -/
def visited (mode : LexMode) : List (List Char) → List (List Char)
  | [] => []
  | raw :: rest =>
    match ConditionLine.parse? mode 0 raw with
    | .error _ => [raw]
    | .ok none => raw :: visited mode rest
    | .ok (some condition) => if condition.expr.firstFinding?.isSome then [raw] else raw :: visited mode rest

end Block

namespace ConditionSet

/-- The events of loading a block. -/
def loadEvents (mode : LexMode) (text : String) (loaded : Except ConditionError ConditionSet) : List Log.Event :=
  let read := (Block.visited mode (Text.lines text.toList)).flatMap (ConditionLine.readEvents mode)
  match loaded with
  | .error _ => read
  | .ok set =>
    read ++ set.warnings.map (fun (line, finding) => .warned line finding) ++ [.loaded set.lines.length set.warnings.length]

/-- The events of deciding a block under a policy. -/
def decisionEvents (set : ConditionSet) (policy : ErrorPolicy) (o : Outcome) : List Log.Event :=
  o.steps.map .stepped ++
    match policy, o.result with
    | _, .ok matched => [.decided set.lines.length matched]
    | .noMatch, .error e => [.failed e]
    | .fail, .error _ => []

end ConditionSet

namespace Report

/-- The events of checking a file. -/
def events (mode : LexMode) (file text : String) (found : List Diagnostic) : List Log.Event :=
  let errors := found.countP (·.severity == .error)
  (Text.lines text.toList).flatMap (ConditionLine.readEvents mode) ++ [.checked file errors (found.length - errors)]

end Report

end ConditionLang
