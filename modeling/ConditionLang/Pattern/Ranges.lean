import ConditionLang.Pattern.CharClass

/-!
# The ranges of classes

A class written down as ascending ranges of code points with gaps between them.
-/

namespace ConditionLang

namespace CodeSet

/-- The highest code point. -/
def lastCode : Nat := 0x10ffff

/-- The code points from `start` on that lie in none of the ascending ranges. -/
def gapsFrom (start : Nat) : List (Nat × Nat) → List (Nat × Nat)
  | [] => if start ≤ lastCode then [(start, lastCode)] else []
  | (first, last) :: more =>
    if start < first then (start, first - 1) :: gapsFrom (last + 1) more else gapsFrom (last + 1) more

/-- The code points of two lists of ranges. -/
def unionRanges (a b : List (Nat × Nat)) : List (Nat × Nat) :=
  joinRanges ((a ++ b).mergeSort fun x y => x.1 ≤ y.1)

/-- The code points of one list of ascending ranges that the other one does not have. -/
def diffRanges (a b : List (Nat × Nat)) : List (Nat × Nat) :=
  gapsFrom 0 (unionRanges (gapsFrom 0 a) b)

end CodeSet

namespace Unicode

/-- The pairs of code points that differ in case only. -/
def foldPairs : List (Nat × Nat) :=
  foldRuns.flatMap fun r =>
    (CodeSet.ranges ⟨[r.source]⟩).flatMap fun (first, last) =>
      (List.range' first (last + 1 - first)).flatMap fun n => ((r.imageOf? n).getD []).map (n, ·)

end Unicode

namespace Pattern

namespace CharClass

/-- The class as ascending ranges. -/
def ranges : CharClass → List (Nat × Nat)
  | .span first last => if first ≤ last then [(first, last)] else []
  | .set s => s.ranges
  | .blank => [(9, 13), (0x20, 0x20), (0x85, 0x85), (0xa0, 0xa0), (0x1680, 0x1680), (0x2000, 0x200a), (0x2028, 0x2029),
      (0x202f, 0x202f), (0x205f, 0x205f), (0x3000, 0x3000)]
  | .union a b => CodeSet.unionRanges a.ranges b.ranges
  | .inter a b => CodeSet.diffRanges a.ranges (CodeSet.gapsFrom 0 b.ranges)
  | .diff a b => CodeSet.diffRanges a.ranges b.ranges
  | .symmDiff a b => CodeSet.unionRanges (CodeSet.diffRanges a.ranges b.ranges) (CodeSet.diffRanges b.ranges a.ranges)
  | .complement a => CodeSet.gapsFrom 0 a.ranges
  | .folded a =>
    let mates := Unicode.foldPairs.flatMap fun (m, n) =>
      (if a.contains (Char.ofNat m) then [(n, n)] else []) ++ (if a.contains (Char.ofNat n) then [(m, m)] else [])
    CodeSet.unionRanges a.ranges mates
  | .foldedAscii a =>
    let mates := (List.range 26).flatMap fun k =>
      (if a.contains (Char.ofNat (65 + k)) then [(97 + k, 97 + k)] else []) ++
        (if a.contains (Char.ofNat (97 + k)) then [(65 + k, 65 + k)] else [])
    CodeSet.unionRanges a.ranges mates
  | .bytes a => a.ranges

/-- Whether the characters of a class are written as bytes. -/
def isBytes : CharClass → Bool
  | .bytes _ => true
  | _ => false

end CharClass

end Pattern

end ConditionLang
