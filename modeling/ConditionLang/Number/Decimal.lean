import ConditionLang.Number.Binary

/-!
# Doubles as decimal text

A double is written with the fewest significant digits that read back to it, in positional notation without an exponent;
of two such decimals the nearer is written, and the upper one of two equally near. Reading gives the double nearest to
the decimal. The text always reads back, since the last resort is the double's exact decimal expansion.
-/

namespace ConditionLang

-- Powers are those of the core library, whatever other instances there are.
attribute [local instance (high)] instPowNat

namespace Number

/-- Decimal digits of a natural. -/
def digits (n : Nat) : List Char :=
  Nat.toDigits 10 n

/-- The natural that decimal digits write. -/
def readDigits (s : List Char) : Nat :=
  s.foldl (fun n c => 10 * n + (c.toNat - '0'.toNat)) 0

/-- The double nearest to `d * 10 ^ e`. A decimal far outside the range of doubles is infinite or zero at once. -/
def ofDecimal (negative : Bool) (d : Nat) (e : Int) : Float :=
  let size := (digits d).length + e
  if d = 0 ∨ size < -330 then ofMagnitude negative 0
  else if 310 < size then ofMagnitude negative infinityBits
  else if e < 0 then ofRatio negative d (10 ^ (-e).toNat)
  else ofRatio negative (d * 10 ^ e.toNat) 1

/-- The exact decimal `d * 10 ^ e` of `m * 2 ^ q`. -/
def exactDecimal (m : Nat) (q : Int) : Nat × Int :=
  if q < 0 then (m * 5 ^ (-q).toNat, q) else (m * 2 ^ q.toNat, 0)

/-- The decimal with `n` significant digits that reads back as the double with the magnitude `x`, if there is one: the
nearer of the two neighbours of `d * 10 ^ e` with so many digits. -/
def withDigits? (x : Float) (d : Nat) (e : Int) (n : Nat) : Option (Nat × Int) :=
  let unit := 10 ^ ((digits d).length - n)
  let place := e + ((digits d).length - n : Nat)
  let below := d / unit
  let above := if d % unit = 0 then below else below + 1
  let readsBack := fun k => ofDecimal false k place == x
  let near := if 2 * (d % unit) < unit then below else above
  let far := if 2 * (d % unit) < unit then above else below
  if readsBack near then some (near, place) else if readsBack far then some (far, place) else none

/-- The shortest decimal that reads back as the positive double `m * 2 ^ q`. -/
def shortest (m : Nat) (q : Int) : Nat × Int :=
  let (d, e) := exactDecimal m q
  ((List.range 17).findSome? fun n => withDigits? (ofScaled false m q) d e (n + 1)).getD (d, e)

/-- The decimal `d * 10 ^ e` in positional notation, without zeros at the end of a fraction. -/
def positional (d : Nat) (e : Int) : List Char :=
  if e < 0 then
    let scale := 10 ^ (-e).toNat
    let padded := List.replicate ((-e).toNat - (digits (d % scale)).length) '0' ++ digits (d % scale)
    let fraction := (padded.reverse.dropWhile (· == '0')).reverse
    digits (d / scale) ++ (if fraction.isEmpty then [] else '.' :: fraction)
  else digits (d * 10 ^ e.toNat)

/-- The text of a double. -/
def text (x : Float) : String :=
  match parts x with
  | .nan => "NaN"
  | .infinite negative => if negative then "-inf" else "inf"
  | .finite negative m q =>
    let (d, e) := shortest m q
    String.ofList ((if negative then ['-'] else []) ++ positional d e)

/-- The digits at the front of a text, and the rest. -/
def spanDigits (s : List Char) : List Char × List Char :=
  s.span Char.isDigit

/-- A sign at the front of a text: whether it is a minus, and the rest. -/
def spanSign : List Char → Bool × List Char
  | '-' :: s => (true, s)
  | '+' :: s => (false, s)
  | s => (false, s)

/-- The power of ten written by an exponent part, which a number may lack. -/
def readExponent? : List Char → Option Int
  | [] => some 0
  | c :: s =>
    if c = 'e' ∨ c = 'E' then
      let (negative, power) := spanSign s
      if power ≠ [] ∧ power.all Char.isDigit then
        some (if negative then -(readDigits power : Int) else readDigits power)
      else none
    else none

/-- Reads an unsigned decimal: digits with an optional point before, among or after them, and an optional exponent. -/
def readUnsigned? (negative : Bool) (s : List Char) : Option Float :=
  let (whole, rest) := spanDigits s
  let (fraction, rest) := match rest with
    | '.' :: rest => spanDigits rest
    | rest => ([], rest)
  if whole.isEmpty && fraction.isEmpty then none
  else (readExponent? rest).map fun e => ofDecimal negative (readDigits (whole ++ fraction)) (e - fraction.length)

/-- Reads a number as text spells it: a decimal, or one of the words for infinity and not-a-number in any case. -/
def read? (s : List Char) : Option Float :=
  let (negative, unsigned) := spanSign s
  let word := String.ofList (unsigned.map Char.toLower)
  if word = "inf" ∨ word = "infinity" then some (ofMagnitude negative infinityBits)
  else if word = "nan" then some (0 / 0)
  else readUnsigned? negative unsigned

/-- Reads a natural of 64 bits: decimal digits, after a plus at most. -/
def readWord? (s : List Char) : Option Nat :=
  let ds := match s with
    | '+' :: s => s
    | s => s
  if ds.isEmpty ∨ ¬ds.all Char.isDigit ∨ 2 ^ (64 : Nat) ≤ readDigits ds then none else some (readDigits ds)

end Number

end ConditionLang
