/-!
# Doubles as exact numbers

A finite double is a sign, a natural mantissa and a power of two. `parts` takes a double apart, and `ofRatio` gives the
double nearest to a quotient of naturals, a tie going to the even mantissa. Everything that is not one of the machine's
own operations is computed exactly and rounded once.
-/

namespace ConditionLang

-- Powers are those of the core library, whatever other instances there are.
attribute [local instance (high)] instPowNat

namespace Number

/-- What a double stands for: `finite s m q` is `m * 2 ^ q`, negated when `s`. -/
inductive Parts where
  | nan
  | infinite (negative : Bool)
  | finite (negative : Bool) (mantissa : Nat) (exponent : Int)
  deriving Repr, DecidableEq, Inhabited

/-- The magnitude bits of infinity. -/
def infinityBits : Nat := 2047 * 2 ^ (52 : Nat)

/-- The parts given by a sign and 63 magnitude bits. -/
def partsOfBits (negative : Bool) (bits : Nat) : Parts :=
  let exponent : Nat := bits / 2 ^ (52 : Nat)
  let fraction : Nat := bits % 2 ^ (52 : Nat)
  if exponent = 2047 then (if fraction = 0 then .infinite negative else .nan)
  else if exponent = 0 then .finite negative fraction (-1074)
  else .finite negative (fraction + 2 ^ (52 : Nat)) (exponent - 1075)

/-- Takes a double apart. -/
def parts (x : Float) : Parts :=
  let bits := x.toBits.toNat
  partsOfBits (2 ^ (63 : Nat) ≤ bits) (bits % 2 ^ (63 : Nat))

/-- The double with a sign and 63 magnitude bits. -/
def ofMagnitude (negative : Bool) (bits : Nat) : Float :=
  Float.ofBits (UInt64.ofNat (if negative then 2 ^ (63 : Nat) + bits else bits))

/-- A quotient rounded to the nearest natural, a half to the even neighbour. -/
def roundHalfEven (num den : Nat) : Nat :=
  let whole := num / den
  let twice := 2 * (num % den)
  if twice < den then whole
  else if den < twice then whole + 1
  else whole + whole % 2

/-- The binary exponent at which the mantissa of `num / den` has 53 bits, but not below that of the least double. -/
def exponentFor (num den : Nat) : Int :=
  let low : Int := Nat.log2 num - Nat.log2 den - 53
  let fits :=
    if low < 0 then num * 2 ^ (-low).toNat < den * 2 ^ (53 : Nat) else num < den * 2 ^ low.toNat * 2 ^ (53 : Nat)
  if num = 0 then -1074 else max (-1074) (if fits then low else low + 1)

/-- The magnitude bits of the double nearest to `num / den`. -/
def nearestBits (num den : Nat) : Nat :=
  let e := exponentFor num den
  let mantissa := if e < 0 then roundHalfEven (num * 2 ^ (-e).toNat) den else roundHalfEven num (den * 2 ^ e.toNat)
  min infinityBits ((e + 1074).toNat * 2 ^ (52 : Nat) + mantissa)

/-- The double nearest to `num / den` with a sign. -/
def ofRatio (negative : Bool) (num den : Nat) : Float :=
  ofMagnitude negative (nearestBits num den)

/-- The double nearest to `m * 2 ^ q`. -/
def ofScaled (negative : Bool) (m : Nat) (q : Int) : Float :=
  if q < 0 then ofRatio negative m (2 ^ (-q).toNat) else ofRatio negative (m * 2 ^ q.toNat) 1

/-- The double nearest to a natural. -/
def ofNat (n : Nat) : Float :=
  ofRatio false n 1

/-- The double nearest to an integer. -/
def ofInt (n : Int) : Float :=
  ofRatio (n < 0) n.natAbs 1

end Number

end ConditionLang
