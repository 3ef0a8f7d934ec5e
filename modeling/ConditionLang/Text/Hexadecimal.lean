/-!
# Hexadecimal digits

Reads numbers and characters that are written with hexadecimal digits of either case.
-/

namespace ConditionLang

namespace Text

/-- The value of a hexadecimal digit. -/
def hexDigit? (c : Char) : Option Nat :=
  if c.isDigit then some (c.toNat - '0'.toNat)
  else if 'a' ≤ c ∧ c ≤ 'f' then some (c.toNat - 'a'.toNat + 10)
  else if 'A' ≤ c ∧ c ≤ 'F' then some (c.toNat - 'A'.toNat + 10)
  else none

/-- The number that hexadecimal digits write after the digits of `n`. -/
def readHexAfter? (n : Nat) : List Char → Option Nat
  | [] => some n
  | c :: s => do readHexAfter? (16 * n + (← hexDigit? c)) s

/-- The number that hexadecimal digits write. -/
def readHex? (s : List Char) : Option Nat :=
  readHexAfter? 0 s

/-- The character whose number hexadecimal digits write. -/
def hexChar? (s : List Char) : Option Char := do
  let n ← readHex? s
  if n.isValidChar then some (Char.ofNat n) else none

end Text

end ConditionLang
