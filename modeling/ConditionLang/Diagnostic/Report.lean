import ConditionLang.Diagnostic.Lint

/-!
# Reports on condition files

Unlike loading, a report does not stop at the first line at fault: it names every line that does not read, all findings
of the checker, and the warnings about the lines that read, in the order of lines.
-/

namespace ConditionLang

/-- A finding about a line of a file. -/
structure Diagnostic where
  line : Nat
  severity : Severity
  message : String
  deriving Repr, DecidableEq, Inhabited

namespace Diagnostic

/-- A diagnostic as it is printed after the name of the file. -/
def describe (d : Diagnostic) : String :=
  s!"{d.line}: {d.severity.describe}: {d.message}"

/-- A finding about a line. -/
def ofFinding [PatternReports] (line : Nat) (f : Finding) : Diagnostic :=
  ⟨line, f.severity, f.describe⟩

end Diagnostic

namespace Report

/-- The condition lines of a text that read. -/
def readableLines (mode : LexMode) (line : Nat) : List (List Char) → List ConditionLine
  | [] => []
  | raw :: rest =>
    match ConditionLine.parse? mode line raw with
    | .ok (some condition) => condition :: readableLines mode (line + 1) rest
    | _ => readableLines mode (line + 1) rest

/-- The errors of each line of a text. -/
def lineErrors [PatternReports] (mode : LexMode) (line : Nat) : List (List Char) → List Diagnostic
  | [] => []
  | raw :: rest =>
    let here := match ConditionLine.parse? mode line raw with
      | .ok none => []
      | .ok (some condition) => condition.expr.findings.map (.ofFinding line)
      | .error e => [⟨line, .error, e.describe⟩]
    here ++ lineErrors mode (line + 1) rest

/-- All diagnostics of a text, in the order of lines; errors of a line come before warnings about it. -/
def check [PatternReports] (mode : LexMode) (text : List Char) : List Diagnostic :=
  let lines := Text.lines text
  let warnings := (Block.warnings (readableLines mode 1 lines)).map fun (line, f) => Diagnostic.ofFinding line f
  (lineErrors mode 1 lines ++ warnings).mergeSort (fun a b => a.line ≤ b.line)

end Report

end ConditionLang
