/-!
# The bytes of ranges of characters

A range of code points is a union of products of byte ranges, one for each byte of the UTF-8 encoding. `encodedRanges`
lists these products from the lowest code point to the highest, and `ByteTree` joins those that start alike. The tree is
what a machine has to walk that reads characters byte by byte.
-/

namespace ConditionLang

-- Powers are those of the core library, whatever other instances there are.
attribute [local instance (high)] instPowNat

namespace Unicode

/-- The numbers from `first` to `last` of `k + 1` digits each to the base 64, as products of ranges of digits. Only the
first digit may be above 63. -/
def digitRanges : Nat → Nat → Nat → List (List (Nat × Nat))
  | 0, first, last => [[(first, last)]]
  | k + 1, first, last =>
    let unit := 64 ^ (k + 1)
    let under (digit first last : Nat) := (digitRanges k first last).map ((digit, digit) :: ·)
    if first / unit = last / unit then under (first / unit) (first % unit) (last % unit)
    else
      let startsWhole := first % unit = 0
      let endsWhole := last % unit + 1 = unit
      let low := if startsWhole then first / unit else first / unit + 1
      let high := if endsWhole then last / unit + 1 else last / unit
      (if startsWhole then [] else under (first / unit) (first % unit) (unit - 1)) ++
        (if low < high then [(low, high - 1) :: List.replicate (k + 1) (0, 63)] else []) ++
        (if endsWhole then [] else under (last / unit) 0 (last % unit))

/-- The ranges of code points whose encodings have the same length: how many bytes follow the first one, and what is
added to its digit. Surrogates have no encoding. -/
def encodingLengths : List (Nat × Nat × Nat × Nat) :=
  [(0, 0x7f, 0, 0), (0x80, 0x7ff, 1, 0xc0), (0x800, 0xd7ff, 2, 0xe0), (0xe000, 0xffff, 2, 0xe0),
    (0x10000, 0x10ffff, 3, 0xf0)]

/-- The byte that a digit of an encoding stands for, at its start or later on. -/
def encodedDigits (lead : Nat) : List (Nat × Nat) → List (Nat × Nat)
  | [] => []
  | (first, last) :: more => (first + lead, last + lead) :: more.map fun (a, b) => (a + 0x80, b + 0x80)

/-- The encodings of the code points from `first` to `last` as products of byte ranges. -/
def encodedRanges (first last : Nat) : List (List (Nat × Nat)) :=
  encodingLengths.flatMap fun (least, most, more, lead) =>
    let first := Nat.max first least
    let last := Nat.min last most
    if first ≤ last then (digitRanges more first last).map (encodedDigits lead) else []

/-- Products of byte ranges that start alike, joined: the branches of a node follow each other by `next`, the latest one
first, and `below` is what follows the range of a branch. -/
inductive ByteTree where
  | done
  | branch (first last : Nat) (below next : ByteTree)
  deriving Repr, DecidableEq, Inhabited

namespace ByteTree

/-- Adds a product of ranges that comes after those of the tree. -/
def add : List (Nat × Nat) → ByteTree → ByteTree
  | [], t => t
  | (a, b) :: more, .done => .branch a b (add more .done) .done
  | (a, b) :: more, .branch first last below next =>
    if a = first ∧ b = last then .branch first last (add more below) next
    else .branch a b (add more .done) (.branch first last below next)

/-- The tree of the encodings of ascending ranges of code points. -/
def ofRanges (ranges : List (Nat × Nat)) : ByteTree :=
  (ranges.flatMap fun (first, last) => encodedRanges first last).foldl (fun t bytes => add bytes t) .done

end ByteTree

end Unicode

end ConditionLang
