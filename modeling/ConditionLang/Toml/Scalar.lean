import ConditionLang.Number.Decimal
import ConditionLang.Text.Hexadecimal
import ConditionLang.Toml.Document

/-!
# Numbers, dates and truth values of TOML

A word of a document that is not a text is an integer, a decimal, a date or time, or a truth value. Digits may be set
apart by single underscores. Integers have a sign and at most 128 bits, and a decimal beyond the range of doubles is no
decimal.
-/

namespace ConditionLang

-- Powers are those of the core library, whatever other instances there are.
attribute [local instance (high)] instPowNat

namespace Toml

/-! ## Numbers -/

/-- Digits after a digit, without the underscores between them. -/
def digitsAfter? (isDigit : Char → Bool) : List Char → Option (List Char)
  | [] => some []
  | '_' :: c :: s => if isDigit c then (digitsAfter? isDigit s).map (c :: ·) else none
  | c :: s => if isDigit c then (digitsAfter? isDigit s).map (c :: ·) else none

/-- Digits, without the underscores between them. -/
def digits? (isDigit : Char → Bool) : List Char → Option (List Char)
  | [] => none
  | c :: s => if isDigit c then (digitsAfter? isDigit s).map (c :: ·) else none

/-- Decimal digits without zeros in front. -/
def whole? (s : List Char) : Option (List Char) := do
  let ds ← digits? Char.isDigit s
  if ds.head? = some '0' ∧ ds.length ≠ 1 then none else some ds

/-- The number that digits write in a base. -/
def inBase (base : Nat) (ds : List Char) : Nat :=
  ds.foldl (fun n c => base * n + (Text.hexDigit? c).getD 0) 0

/-- Whether a character is a digit of a base. -/
def isDigitOf (base : Nat) (c : Char) : Bool :=
  (Text.hexDigit? c).any (· < base)

/-- An integer. One in another base than ten has no sign. -/
def integer? (s : List Char) : Option Int :=
  match s with
  | '0' :: 'x' :: s => (digits? (isDigitOf 16) s).map fun ds => inBase 16 ds
  | '0' :: 'o' :: s => (digits? (isDigitOf 8) s).map fun ds => inBase 8 ds
  | '0' :: 'b' :: s => (digits? (isDigitOf 2) s).map fun ds => inBase 2 ds
  | s =>
    let (negative, s) := Number.spanSign s
    (whole? s).map fun ds => if negative then -(inBase 10 ds : Int) else inBase 10 ds

/-- Whether an integer has at most 128 bits. -/
def fits (n : Int) : Bool :=
  -2 ^ (127 : Nat) ≤ n && n < 2 ^ (128 : Nat)

/-- The power of ten after its mark. -/
def power? (s : List Char) : Option Int := do
  let (negative, s) := Number.spanSign s
  let ds ← digits? Char.isDigit s
  return if negative then -(Number.readDigits ds : Int) else Number.readDigits ds

/-- The fraction and the power of ten that follow the whole part of a decimal; it has one of them at least. -/
def fraction? (s : List Char) : Option (List Char × Int) :=
  match s with
  | '.' :: s =>
    let (fraction, rest) := s.span fun c => c.isDigit || c == '_'
    match digits? Char.isDigit fraction, rest with
    | none, _ => none
    | some ds, [] => some (ds, 0)
    | some ds, c :: rest => if c = 'e' ∨ c = 'E' then (power? rest).map fun e => (ds, e) else none
  | c :: s => if c = 'e' ∨ c = 'E' then (power? s).map fun e => ([], e) else none
  | [] => none

/-- A decimal. -/
def float? (s : List Char) : Option Float :=
  let (negative, s) := Number.spanSign s
  if s = "inf".toList then some (Number.ofMagnitude negative Number.infinityBits)
  else if s = "nan".toList then some (0 / 0)
  else do
    let (whole, rest) := s.span fun c => c.isDigit || c == '_'
    let ds ← whole? whole
    let (fraction, e) ← fraction? rest
    let x := Number.ofDecimal negative (Number.readDigits (ds ++ fraction)) (e - fraction.length)
    if x.isFinite then some x else none

/-! ## Dates and times -/

/-- The number that so many digits at the front write, and the rest. -/
def fixed? (count : Nat) (s : List Char) : Option (Nat × List Char) :=
  if (s.take count).length = count ∧ (s.take count).all Char.isDigit then
    some (Number.readDigits (s.take count), s.drop count)
  else none

/-- The text after a mark. -/
def after? (mark : Char) (s : List Char) : Option (List Char) :=
  if s.head? = some mark then some s.tail else none

/-- The days of a month. -/
def daysOf (year month : Nat) : Nat :=
  if month = 2 then (if year % 4 = 0 ∧ (year % 100 ≠ 0 ∨ year % 400 = 0) then 29 else 28)
  else if month = 4 ∨ month = 6 ∨ month = 9 ∨ month = 11 then 30
  else 31

/-- The text after a date. -/
def afterDate? (s : List Char) : Option (List Char) := do
  let (year, s) ← fixed? 4 s
  let (month, s) ← fixed? 2 (← after? '-' s)
  let (day, s) ← fixed? 2 (← after? '-' s)
  if 1 ≤ month ∧ month ≤ 12 ∧ 1 ≤ day ∧ day ≤ daysOf year month then some s else none

/-- The text after the fraction of a second, if there is one. -/
def afterFraction? (s : List Char) : Option (List Char) :=
  match s with
  | '.' :: s => if s.head?.any Char.isDigit then some (s.dropWhile Char.isDigit) else none
  | s => some s

/-- The text after a time of the day. Seconds may be left out. -/
def afterTime? (s : List Char) : Option (List Char) := do
  let (hour, s) ← fixed? 2 s
  let (minute, s) ← fixed? 2 (← after? ':' s)
  if 24 ≤ hour ∨ 60 ≤ minute then none
  else
    match s with
    | ':' :: s => do
      let (second, s) ← fixed? 2 s
      if 60 < second then none else afterFraction? s
    | s => some s

/-- Whether a text is the offset of a time zone. -/
def isOffset (s : List Char) : Bool :=
  s == ['Z'] || s == ['z'] ||
    match s with
    | c :: s =>
      (c == '+' || c == '-') &&
        match (do
          let (hour, s) ← fixed? 2 s
          let (minute, s) ← fixed? 2 (← after? ':' s)
          return (hour, minute, s) : Option (Nat × Nat × List Char)) with
        | some (hour, minute, []) => minute < 60 && hour * 60 + minute ≤ 24 * 60
        | _ => false
    | [] => false

/-- Whether a text is a date, a time of the day, or both with or without an offset. -/
def isMoment (s : List Char) : Bool :=
  match afterDate? s with
  | some [] => true
  | some (c :: time) =>
    (c == 'T' || c == 't' || c == ' ') &&
      match afterTime? time with
      | some [] => true
      | some offset => isOffset offset
      | none => false
  | none => afterTime? s == some []

/-! ## Words -/

/-- The value that a word writes. -/
def scalar? (s : List Char) : Option Value :=
  if s = "true".toList then some (.truth true)
  else if s = "false".toList then some (.truth false)
  else if isMoment s then some (.moment (String.ofList s))
  else
    match integer? s with
    | some n => if fits n then some (.integer n) else none
    | none => (float? s).map .float

end Toml

end ConditionLang
