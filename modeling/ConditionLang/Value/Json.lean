import ConditionLang.Text.Hexadecimal
import ConditionLang.Text.Taken
import ConditionLang.Value.Basic

/-!
# Values written as JSON

Reads a JSON document: one value with nothing but blanks around it. `null` is the missing value, and of the members of an
object with one key the last counts. A document with more than 127 arrays and objects inside each other does not read,
nor does a number beyond the range of doubles. A number takes at most 64 bits of its digits and is scaled by one power
of ten, so its last bit may differ from that of the nearest double.
-/

namespace ConditionLang

-- Powers are those of the core library, whatever other instances there are.
attribute [local instance (high)] instPowNat

namespace Json

/-- The text after the blanks of JSON. -/
def skipBlanks (s : List Char) : List Char :=
  s.dropWhile fun c => c == ' ' || c == '\n' || c == '\t' || c == '\r'

/-- Skipping blanks leaves no more characters. -/
theorem length_skipBlanks_le (s : List Char) : (skipBlanks s).length ≤ s.length :=
  length_dropWhile_le _ s

/-! ## Numbers -/

/-- The digits that count towards a number: as many as keep it below 2 ^ 64. -/
def significand (n : Nat) : List Char → Nat × List Char
  | [] => (n, [])
  | c :: s =>
    let next := 10 * n + (c.toNat - '0'.toNat)
    if next < 2 ^ (64 : Nat) then significand next s else (n, c :: s)

/-- `x / 10 ^ e`, in steps that each divide by a double. -/
def scaledDown (x : Float) (e : Nat) : Float :=
  if e ≤ 308 then x / Number.ofDecimal false 1 e
  else if x == 0 then x
  else scaledDown (x / Number.ofDecimal false 1 308) (e - 308)
termination_by e

/-- `n * 10 ^ e`, unless it is beyond the range of doubles. -/
def scaled? (n : Nat) (e : Int) : Option Float :=
  let x := Number.ofNat n
  if e < 0 then some (scaledDown x e.natAbs)
  else if e ≤ 308 then
    let y := x * Number.ofDecimal false 1 e
    if y.isInf then none else some y
  else if n = 0 then some 0
  else none

/-- The number that `n * 10 ^ e` and an exponent part after it write. -/
def withExponent? (n : Nat) (e : Int) (exponent : List Char) : Option Float := do
  scaled? n (e + (← Number.readExponent? exponent))

/-- An unsigned number. A zero in front stands alone, and a point stands between digits. -/
def unsigned? (s : List Char) : Option Float :=
  let (whole, rest) := Number.spanDigits s
  if whole.isEmpty ∨ whole.head? = some '0' ∧ whole ≠ ['0'] then none
  else
    let (n, dropped) := significand 0 whole
    match rest with
    | '.' :: rest =>
      let (fraction, rest) := Number.spanDigits rest
      if fraction.isEmpty then none
      else
        let (n, ignored) := significand n fraction
        withExponent? n (dropped.length - (fraction.length - ignored.length : Nat)) rest
    | rest => withExponent? n dropped.length rest

/-- A number, which has a minus or no sign. -/
def number? : List Char → Option Float
  | '-' :: s => (unsigned? s).map (-·)
  | s => unsigned? s

/-- The characters that numbers are written with. -/
def isNumeral (c : Char) : Bool :=
  c.isDigit || c == '-' || c == '+' || c == '.' || c == 'e' || c == 'E'

/-! ## Texts -/

/-- The character that two surrogates write together. -/
def ofSurrogates? (high low : Nat) : Option Char :=
  if 0xD800 ≤ high ∧ high < 0xDC00 ∧ 0xDC00 ≤ low ∧ low < 0xE000 then
    some (Char.ofNat (0x10000 + (high - 0xD800) * 0x400 + (low - 0xDC00)))
  else none

/-- The character that a backslash and a letter stand for. -/
def escaped? : Char → Option Char
  | '"' => some '"'
  | '\\' => some '\\'
  | '/' => some '/'
  | 'b' => some '\x08'
  | 'f' => some '\x0c'
  | 'n' => some '\n'
  | 'r' => some '\r'
  | 't' => some '\t'
  | _ => none

/-- The characters of a text up to its closing quotation mark. A surrogate must have its other half after it. -/
def characters? : List Char → Option (List Char × List Char)
  | '"' :: s => some ([], s)
  | '\\' :: 'u' :: a :: b :: c :: d :: s =>
    match Text.readHex? [a, b, c, d] with
    | none => none
    | some unit =>
      if unit < 0xD800 ∨ 0xE000 ≤ unit then do
        let (text, rest) ← characters? s
        return (Char.ofNat unit :: text, rest)
      else
        match s with
        | '\\' :: 'u' :: a :: b :: c :: d :: s => do
          let c ← ofSurrogates? unit (← Text.readHex? [a, b, c, d])
          let (text, rest) ← characters? s
          return (c :: text, rest)
        | _ => none
  | '\\' :: c :: s => do
    let c ← escaped? c
    let (text, rest) ← characters? s
    return (c :: text, rest)
  | c :: s =>
    if c.toNat < 0x20 then none
    else do
      let (text, rest) ← characters? s
      return (c :: text, rest)
  | [] => none

/-- A text within quotation marks takes at least the closing mark. -/
theorem length_of_characters? {s text rest : List Char} (h : characters? s = some (text, rest)) :
    rest.length < s.length := by
  fun_induction characters? s generalizing text <;> simp_all [Option.bind_eq_some_iff] <;> grind

/-- A text after its opening quotation mark. -/
def text? (s : List Char) : Option (Taken s.length String) :=
  match h : characters? s with
  | some (text, rest) => some ⟨String.ofList text, rest, length_of_characters? h⟩
  | none => none

/-! ## Values -/

/-- A value that is neither an array nor an object. -/
def scalar? (s : List Char) : Option (Taken s.length Value) :=
  match s with
  | 'n' :: 'u' :: 'l' :: 'l' :: rest => some ⟨.missing, rest, by grind⟩
  | 't' :: 'r' :: 'u' :: 'e' :: rest => some ⟨.truth true, rest, by grind⟩
  | 'f' :: 'a' :: 'l' :: 's' :: 'e' :: rest => some ⟨.truth false, rest, by grind⟩
  | '"' :: rest => (text? rest).map fun t => (t.withValue (.text t.value)).after
  | c :: rest =>
    if isNumeral c then
      (number? (c :: rest.takeWhile isNumeral)).map fun x =>
        ⟨.number x, rest.dropWhile isNumeral, Nat.lt_succ_of_le (length_dropWhile_le _ rest)⟩
    else none
  | [] => none

/-- Elements with commas between them, up to the mark that closes them. -/
def elements? {α : Type} (close : Char) (element : (s : List Char) → Option (Taken s.length α)) (s : List Char) :
    Option (Taken s.length (List α)) :=
  match element (skipBlanks s) with
  | none => none
  | some first =>
    have shorter := first.shorter
    have le := length_skipBlanks_le s
    have le' := length_skipBlanks_le first.rest
    match h : skipBlanks first.rest with
    | c :: rest =>
      have shorter' : rest.length < s.length := by grind
      if c = close then some ⟨[first.value], rest, shorter'⟩
      else if c = ',' then
        (elements? close element rest).map fun others =>
          (others.withValue (first.value :: others.value)).weaken (Nat.le_of_lt shorter')
      else none
    | [] => none
termination_by s.length

/-- Elements with commas between them, of which there may be none. -/
def elementsOrNone? {α : Type} (close : Char) (element : (s : List Char) → Option (Taken s.length α)) (s : List Char) :
    Option (Taken (s.length + 1) (List α)) :=
  match h : skipBlanks s with
  | c :: rest =>
    if c = close then
      some ⟨[], rest, by have := length_skipBlanks_le s; grind⟩
    else (elements? close element s).map fun t => t.after
  | [] => none

/-- A member of an object: a key, a colon and a value. -/
def member? (value : (s : List Char) → Option (Taken s.length Value)) (s : List Char) :
    Option (Taken s.length (String × Value)) :=
  match s with
  | '"' :: rest =>
    match text? rest with
    | none => none
    | some key =>
      have shorter := key.length_rest_lt
      have le := length_skipBlanks_le key.rest
      match h : skipBlanks key.rest with
      | ':' :: rest =>
        (value (skipBlanks rest)).map fun t =>
          (t.withValue (key.value, t.value)).weaken (by have := length_skipBlanks_le rest; grind)
      | _ => none
  | _ => none

/-- A value with at most `depth` arrays and objects inside each other. -/
def value? : Nat → (s : List Char) → Option (Taken s.length Value)
  | 0, s => scalar? s
  | depth + 1, s =>
    match s with
    | '[' :: rest => (elementsOrNone? ']' (value? depth) rest).map fun t => t.withValue (.sequence t.value)
    | '{' :: rest =>
      (elementsOrNone? '}' (member? (value? depth)) rest).map fun t => t.withValue (.map (Entries.ofPairs t.value))
    | s => scalar? s

/-- The value that a JSON document holds. -/
def read? (s : List Char) : Option Value :=
  match value? 127 (skipBlanks s) with
  | some t => if (skipBlanks t.rest).isEmpty then some t.value else none
  | none => none

end Json

end ConditionLang
