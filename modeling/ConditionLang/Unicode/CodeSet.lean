/-!
# Sets of code points

A set of code points is a list of spans. The tables of Unicode properties are written as text, a span per word in
hexadecimal: `41-5a` for a range, `100-12e/2` for every second code point of a range, `aa` for a single one. The tables
follow version 16.0 of Unicode.
-/

namespace ConditionLang

/-- The code points from `first` to `last` in steps of `step`. -/
structure CodeSpan where
  first : Nat
  last : Nat
  step : Nat
  deriving Repr, DecidableEq, Inhabited

namespace CodeSpan

/-- Whether a code point lies in the span. -/
def contains (s : CodeSpan) (n : Nat) : Bool :=
  s.first ≤ n && n ≤ s.last && (n - s.first) % s.step == 0

/-- The value of a lower-case hexadecimal digit. -/
def digitValue (c : Char) : Nat :=
  if c.isDigit then c.toNat - '0'.toNat else c.toNat - 'a'.toNat + 10

/-- The span as ranges without steps. -/
def ranges (s : CodeSpan) : List (Nat × Nat) :=
  if s.step = 1 then [(s.first, s.last)]
  else (List.range ((s.last - s.first) / s.step + 1)).map fun k => (s.first + k * s.step, s.first + k * s.step)

/-- The number written by lower-case hexadecimal digits. -/
def readHex (s : List Char) : Nat :=
  s.foldl (fun n c => 16 * n + digitValue c) 0

/-- The span that a word of a table writes. -/
def read (word : List Char) : CodeSpan :=
  let first := word.takeWhile Char.isAlphanum
  let last := (word.drop (first.length + 1)).takeWhile Char.isAlphanum
  let step := (word.dropWhile (· != '/')).drop 1
  ⟨readHex first, readHex (if last.isEmpty then first else last), if step.isEmpty then 1 else readHex step⟩

/-- The words of a line of a table, separated by single spaces. -/
def words (line : String) : List (List Char) :=
  line.toList.splitOn ' '

end CodeSpan

/-- Code points given by spans. -/
structure CodeSet where
  spans : List CodeSpan
  deriving Repr, DecidableEq, Inhabited

namespace CodeSet

/-- Whether a character lies in one of the spans. -/
def contains (s : CodeSet) (c : Char) : Bool :=
  s.spans.any (·.contains c.toNat)

/-- The set written in the lines of a table. -/
def ofTable (lines : List String) : CodeSet :=
  ⟨lines.flatMap fun line => (CodeSpan.words line).map CodeSpan.read⟩

/-- The union of two sets. -/
def union (s t : CodeSet) : CodeSet :=
  ⟨s.spans ++ t.spans⟩

/-- Joins the ranges of an ascending list that touch or overlap. -/
def joinRanges : List (Nat × Nat) → List (Nat × Nat)
  | (a, b) :: (c, d) :: rest =>
    if c ≤ b + 1 then joinRanges ((a, Nat.max b d) :: rest) else (a, b) :: joinRanges ((c, d) :: rest)
  | rest => rest
termination_by ranges => ranges.length

/-- The set as ascending ranges with gaps between them. -/
def ranges (s : CodeSet) : List (Nat × Nat) :=
  joinRanges ((s.spans.flatMap CodeSpan.ranges).mergeSort fun a b => a.1 ≤ b.1)

end CodeSet

end ConditionLang
