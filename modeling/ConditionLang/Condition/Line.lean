import ConditionLang.Diagnostic.Check
import ConditionLang.Expr.Parser
import ConditionLang.Text.Lines

/-!
# Condition lines and blocks

A condition line starts with `>`; a word `or` after it makes the line an alternative, and a comment after `#` is cut off
unless the `#` stands between quotation marks. The condition lines of a text form a block. A block is loaded only if all
of its lines read and pass the checks; the first that does not ends loading.
-/

namespace ConditionLang

/-- A condition and the line of the text it stands on, counted from one. -/
structure ConditionLine where
  expr : Expr
  /-- Whether the line is an alternative, `> or …`. -/
  isOr : Bool
  line : Nat
  deriving Repr, Inhabited

/-- Why a block does not load, and the line at fault. -/
inductive LoadError where
  | unreadable (line : Nat) (error : SyntaxError)
  | refused (line : Nat) (finding : Finding)
  deriving Repr, DecidableEq, Inhabited

namespace LoadError

/-- The line at fault. -/
def line : LoadError → Nat
  | .unreadable line _ | .refused line _ => line

/-- The text of an error as reports show it. -/
def describe [PatternReports] : LoadError → String
  | .unreadable line error => s!"line {line}: {error.describe}"
  | .refused line finding => s!"line {line}: {finding.describe}"

end LoadError

namespace ConditionLine

/-- The text before the first `#` outside of quotation marks. -/
def stripComment (quoted : Bool) : List Char → List Char
  | [] => []
  | c :: s =>
    if c = '#' ∧ ¬ quoted then [] else c :: stripComment (if c = '"' then !quoted else quoted) s

/-- The condition text of a line after its marker, without comment and surrounding blanks. -/
def body? (raw : List Char) : Option (List Char) :=
  match Text.trimStart raw with
  | '>' :: rest => some (Text.trim (stripComment false rest))
  | _ => none

/-- Splits off the word `or` that makes a line an alternative; a blank or the end of the line follows it. -/
def splitOr : List Char → Bool × List Char
  | 'o' :: 'r' :: rest =>
    if rest.head?.all Text.isBlank then (true, Text.trimStart rest) else (false, 'o' :: 'r' :: rest)
  | text => (false, text)

/-- Reads a line of a text. Only a line with a marker is a condition. -/
def parse? (mode : LexMode) (line : Nat) (raw : List Char) : Except SyntaxError (Option ConditionLine) :=
  match body? raw with
  | none => .ok none
  | some body => do
    let (isOr, text) := splitOr body
    return some ⟨← Expr.parse mode text, isOr, line⟩

end ConditionLine

namespace Block

/-- Loads the condition lines among the lines of a text, the first of which has the number `line`. -/
def loadLines (mode : LexMode) (line : Nat) : List (List Char) → Except LoadError (List ConditionLine)
  | [] => .ok []
  | raw :: rest =>
    match ConditionLine.parse? mode line raw with
    | .error e => .error (.unreadable line e)
    | .ok none => loadLines mode (line + 1) rest
    | .ok (some condition) =>
      match condition.expr.firstFinding? with
      | some finding => .error (.refused line finding)
      | none => do return condition :: (← loadLines mode (line + 1) rest)

/-- Lines load if and only if the first reads, is no condition or one without findings, and the others load. -/
theorem loadLines_cons_eq_ok_iff {mode : LexMode} {n : Nat} {raw : List Char} {rest : List (List Char)}
    {lines : List ConditionLine} :
    loadLines mode n (raw :: rest) = .ok lines ↔ ∃ condition later, ConditionLine.parse? mode n raw = .ok condition ∧
      (∀ c ∈ condition, c.expr.firstFinding? = none) ∧ loadLines mode (n + 1) rest = .ok later ∧
      condition.toList ++ later = lines := by
  rw [loadLines]
  rcases ConditionLine.parse? mode n raw with e | _ | c
  · exact iff_of_false nofun fun ⟨_, _, h, _⟩ => nomatch h
  · constructor
    · exact fun h => ⟨none, lines, rfl, nofun, h, rfl⟩
    · rintro ⟨_, later, ⟨⟩, -, h, rfl⟩
      exact h
  · dsimp only
    cases hf : c.expr.firstFinding? with
    | some f =>
      refine iff_of_false (fun h => nomatch h) ?_
      rintro ⟨_, later, ⟨⟩, hc, -⟩
      cases hf.symm.trans (hc c rfl)
    | none =>
      cases hrest : loadLines mode (n + 1) rest with
      | error e =>
        refine iff_of_false (fun h => nomatch h) ?_
        rintro ⟨_, later, -, -, h, -⟩
        cases h
      | ok later =>
        constructor
        · rintro ⟨⟩
          exact ⟨some c, later, rfl, fun _ hc => Option.mem_some.mp hc ▸ hf, rfl, rfl⟩
        · rintro ⟨_, _, ⟨⟩, -, ⟨⟩, rfl⟩
          rfl

/-- The block that a text holds. -/
def load (mode : LexMode) (text : List Char) : Except LoadError (List ConditionLine) :=
  loadLines mode 1 (Text.lines text)

end Block

end ConditionLang
