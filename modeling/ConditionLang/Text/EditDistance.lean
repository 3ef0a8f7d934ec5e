/-!
# Edit distance

How many characters must be put in, left out or replaced to turn one text into another. The distances from a text to all
beginnings of the other form a row, and each further character gives the next row.
-/

namespace ConditionLang

namespace Text

/-- The rest of the row after the character `c`: `above` is the rest of the row before it, starting at the distance of
the last beginning that is done, and `left` the distance of that beginning in the new row. -/
def fillRow (c : Char) (left : Nat) : List Char → List Nat → List Nat
  | d :: t, diagonal :: up :: above =>
    let here := min (min (up + 1) (left + 1)) (diagonal + if c = d then 0 else 1)
    here :: fillRow c here t (up :: above)
  | _, _ => []

/-- The row of distances to the beginnings of `t` after one more character. -/
def nextRow (t : List Char) (row : List Nat) (c : Char) : List Nat :=
  let first := row.headD 0 + 1
  first :: fillRow c first t row

/-- The distance between two texts. -/
def editDistance (s t : List Char) : Nat :=
  (s.foldl (nextRow t) (List.range (t.length + 1))).getLastD 0

example : editDistance "kitten".toList "sitting".toList = 3 := by decide

end Text

end ConditionLang
