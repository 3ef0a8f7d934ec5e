import ConditionLang.Pattern.Basic
import ConditionLang.Pattern.Ranges

/-!
# Simplified patterns

A pattern may be written in more than one way that comes to the same: nested sequences, choices between single characters,
a repetition of what takes up no characters. Before a pattern is made into a machine it is brought into a simple shape. Adjacent
characters become one literal, choices between characters or between classes become one class, and what all branches of a
choice start with stands in front of it once.
-/

namespace ConditionLang

namespace Pattern

/-- The direction in which a machine reads. -/
inductive Direction where
  | forwards
  | backwards
  deriving Repr, DecidableEq, Inhabited

inductive Shape where
  | empty
  /-- One or more characters, one after the other. -/
  | literal (chars : List Char)
  /-- A class of no character, or of more than one, as ascending ranges. -/
  | set (asBytes : Bool) (ranges : List (Nat × Nat))
  | look (a : Anchor)
  | group (p : Shape)
  | repeated (min : Nat) (max : Option Nat) (greedy : Bool) (p : Shape)
  | concat (parts : List Shape)
  | choice (branches : List Shape)
  deriving Repr, Inhabited

namespace Shape

/-! ## Lengths -/

mutual

/-- The length of the shortest text of a shape in bytes, if there is one whichever branches are taken. -/
def leastLength : Shape → Option Nat
  | .empty => some 0
  | .literal chars => some (Text.byteLength chars)
  | .set _ ranges => ranges.head?.map fun r => (Char.ofNat r.1).utf8Size
  | .look _ => some 0
  | .group p => p.leastLength
  | .repeated min _ _ p => p.leastLength.map (min * ·)
  | .concat parts => leastLengthOfAll parts
  | .choice branches => leastLengthOfAny branches

/-- The length of the shortest text of shapes one after the other. -/
def leastLengthOfAll : List Shape → Option Nat
  | [] => some 0
  | p :: ps => do return (← p.leastLength) + (← leastLengthOfAll ps)

/-- The length of the shortest text of one of several shapes. -/
def leastLengthOfAny : List Shape → Option Nat
  | [] => none
  | [p] => p.leastLength
  | p :: ps => do return Nat.min (← p.leastLength) (← leastLengthOfAny ps)

end

mutual

/-- The length of the longest text of a shape in bytes, if there is one whichever branches are taken. -/
def mostLength : Shape → Option Nat
  | .empty => some 0
  | .literal chars => some (Text.byteLength chars)
  | .set _ ranges => ranges.getLast?.map fun r => (Char.ofNat r.2).utf8Size
  | .look _ => some 0
  | .group p => p.mostLength
  | .repeated _ max _ p => do return (← max) * (← p.mostLength)
  | .concat parts => mostLengthOfAll parts
  | .choice branches => mostLengthOfAny branches

/-- The length of the longest text of shapes one after the other. -/
def mostLengthOfAll : List Shape → Option Nat
  | [] => some 0
  | p :: ps => do return (← p.mostLength) + (← mostLengthOfAll ps)

/-- The length of the longest text of one of several shapes. -/
def mostLengthOfAny : List Shape → Option Nat
  | [] => none
  | [p] => p.mostLength
  | p :: ps => do return Nat.max (← p.mostLength) (← mostLengthOfAny ps)

end

/-- Whether a shape takes up no characters wherever it matches. -/
def takesNothing (p : Shape) : Bool :=
  p.mostLength == some 0

/-- Whether every text of a shape has characters. -/
def takesSomething (p : Shape) : Bool :=
  p.leastLength.any (0 < ·)

/-! ## Making shapes -/

/-- The shape that matches nothing. -/
def nothing : Shape := .set true []

/-- The surrogates, which are no characters. -/
def surrogates : Nat × Nat := (0xd800, 0xdfff)

/-- The shape of a class given by ascending ranges. -/
def ofRanges (asBytes : Bool) (ranges : List (Nat × Nat)) : Shape :=
  match CodeSet.diffRanges ranges [surrogates] with
  | [] => nothing
  | [(first, last)] => if first = last then .literal [Char.ofNat first] else .set asBytes [(first, last)]
  | ranges => .set asBytes ranges

/-- The shape of a class. -/
def ofClass (c : CharClass) : Shape :=
  ofRanges c.isBytes c.ranges

/-- The shape of a repetition. What takes up no characters is needed once only. -/
def iterate (min : Nat) (max : Option Nat) (greedy : Bool) (p : Shape) : Shape :=
  let (min, max) := if p.takesNothing then (Nat.min min 1, some (Nat.min (max.getD 1) 1)) else (min, max)
  if min = 0 ∧ max = some 0 then .empty
  else if min = 1 ∧ max = some 1 then p
  else .repeated min max greedy p

/-- The parts that a shape adds to a sequence: nothing takes no place in it, and an inner sequence becomes a part of it. -/
def pieces : Shape → List Shape
  | .empty => []
  | .concat parts => parts
  | p => [p]

/-- Puts a part in front of others; a literal joins one that follows. -/
def before : Shape → List Shape → List Shape
  | .literal chars, .literal more :: parts => .literal (chars ++ more) :: parts
  | p, parts => p :: parts

/-- The shape of a sequence of parts. -/
def sequence (parts : List Shape) : Shape :=
  match (parts.flatMap pieces).foldr before [] with
  | [] => .empty
  | [p] => p
  | parts => .concat parts

/-- The branches of a choice, those of an inner one among them. -/
def flatten (branches : List Shape) : List Shape :=
  branches.flatMap fun
    | .choice inner => inner
    | p => [p]

/-- The character that a shape stands for, if it is just one. -/
def char? : Shape → Option Char
  | .literal [c] => some c
  | _ => none

/-- The ranges of a shape that is a class. -/
def ranges? : Shape → Option (List (Nat × Nat))
  | .set _ ranges => some ranges
  | _ => none

/-- The class that a choice between characters only, or between classes only, comes down to. -/
def mergedClass? (branches : List Shape) : Option Shape :=
  let singles := (branches.mapM char?).map fun chars => chars.map fun c => [(c.toNat, c.toNat)]
  (singles.or (branches.mapM ranges?)).map fun all => ofRanges false (all.foldl CodeSet.unionRanges [])

/-- A choice whose branches do not start alike. -/
def choiceApart (branches : List Shape) : Shape :=
  match flatten branches with
  | [] => nothing
  | [p] => p
  | branches => (mergedClass? branches).getD (.choice branches)

mutual

/-- Whether two shapes are the same. Groups are numbered, so no two of them are. -/
def same : Shape → Shape → Bool
  | .empty, .empty => true
  | .literal chars, .literal chars' => chars == chars'
  | .set asBytes ranges, .set asBytes' ranges' => asBytes == asBytes' && ranges == ranges'
  | .look a, .look b => a == b
  | .repeated min max greedy p, .repeated min' max' greedy' q =>
    min == min' && max == max' && greedy == greedy' && p.same q
  | .concat parts, .concat parts' => sameAll parts parts'
  | .choice branches, .choice branches' => sameAll branches branches'
  | _, _ => false

/-- Whether two lists of shapes are the same. -/
def sameAll : List Shape → List Shape → Bool
  | [], [] => true
  | p :: ps, q :: qs => p.same q && sameAll ps qs
  | _, _ => false

end

/-- What two sequences start with alike. -/
def commonStart : List Shape → List Shape → List Shape
  | p :: ps, q :: qs => if p.same q then p :: commonStart ps qs else []
  | _, _ => []

/-- The parts of a shape that is a sequence. -/
def parts? : Shape → Option (List Shape)
  | .concat parts => some parts
  | _ => none

/-- What all branches of a choice start with, and what is left of each, if all of them are sequences that start alike. -/
def lift? (branches : List Shape) : Option (List Shape × List Shape) := do
  let sequences ← branches.mapM parts?
  let start ← sequences.head?.map fun first => sequences.tail.foldl commonStart first
  if start.isEmpty then none else some (start, sequences.map fun parts => sequence (parts.drop start.length))

/-- The shape of a choice between branches. What they all start with is put in front; what is left starts with nothing in
common. -/
def choose (branches : List Shape) : Shape :=
  match choiceApart branches with
  | .choice branches =>
    match lift? branches with
    | some (start, rest) => sequence (start ++ [choiceApart rest])
    | none => .choice branches
  | p => p

end Shape

mutual

/-- The parts of a pattern as a sequence. -/
def partShapes : Pattern → List Shape
  | .empty => []
  | .char c => [.ofClass c]
  | .anchor a => [.look a]
  | .cat p q => p.partShapes ++ q.partShapes
  | .alt p q => [.choose (.sequence p.partShapes :: q.branchShapes)]
  | .group p => [.group (.sequence p.partShapes)]
  | .repeated min max greedy p => [.iterate min max greedy (.sequence p.partShapes)]

/-- The branches that follow the first one of a choice, up to the class without members that ends them. -/
def branchShapes : Pattern → List Shape
  | .alt p q => .sequence p.partShapes :: q.branchShapes
  | _ => []

end

/-- The shape of a pattern. -/
def shape (p : Pattern) : Shape :=
  .sequence p.partShapes

/-! ## The start of shapes -/

namespace Shape

mutual

/-- Whether a shape asks for the end of the text at which a machine that reads in the direction begins. -/
def isAnchored (d : Direction) : Shape → Bool
  | .look a => a == (match d with
    | .forwards => .textStart
    | .backwards => .textEnd)
  | .group p => p.isAnchored d
  | .repeated min _ _ p => 0 < min && p.isAnchored d
  | .concat parts => isAnchoredAll d parts
  | .choice branches => isAnchoredEach d branches
  | _ => false

/-- Whether shapes one after the other ask for it, before the first one from there that takes up characters or in that one. -/
def isAnchoredAll (d : Direction) : List Shape → Bool
  | [] => false
  | p :: ps =>
    match d with
    | .forwards => p.isAnchored d || (p.takesNothing && isAnchoredAll d ps)
    | .backwards => isAnchoredAll d ps || (ps.all takesNothing && p.isAnchored d)

/-- Whether each of several shapes asks for it. -/
def isAnchoredEach (d : Direction) : List Shape → Bool
  | [] => true
  | p :: ps => p.isAnchored d && isAnchoredEach d ps

end

end Shape

end Pattern

end ConditionLang
