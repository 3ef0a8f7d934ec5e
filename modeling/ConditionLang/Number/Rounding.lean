import ConditionLang.Number.Binary

/-!
# Rounding to whole numbers and the remainder

Rounding down, up, to the nearest (a half away from zero) and towards zero, and the remainder that takes the sign of the
dividend. Each is exact: a double's whole part and its fraction are read off its parts.
-/

namespace ConditionLang

-- Powers are those of the core library, whatever other instances there are.
attribute [local instance (high)] instPowNat

namespace Number

/-- The whole part of `m * 2 ^ q` and whether a fraction is left. -/
def wholePart (m : Nat) (q : Int) : Nat × Bool :=
  if q < 0 then (m / 2 ^ (-q).toNat, m % 2 ^ (-q).toNat ≠ 0) else (m * 2 ^ q.toNat, false)

/-- Rounds the magnitude of a finite number that has a fraction by `round`, and keeps any other number. -/
def roundWith (round : Bool → Nat → Int → Nat) (x : Float) : Float :=
  match parts x with
  | .finite negative m q => if (wholePart m q).2 then ofRatio negative (round negative m q) 1 else x
  | _ => x

/-- The greatest whole number that is not above. -/
def floor : Float → Float :=
  roundWith fun negative m q => (wholePart m q).1 + negative.toNat

/-- The least whole number that is not below. -/
def ceil : Float → Float :=
  roundWith fun negative m q => (wholePart m q).1 + (!negative).toNat

/-- The nearest whole number, a half away from zero. -/
def round : Float → Float :=
  roundWith fun _ m q => (wholePart (2 * m + 2 ^ (-q).toNat) (q - 1)).1

/-- The absolute value. -/
def abs (x : Float) : Float :=
  x.abs

/-- The whole part towards zero of a finite number. -/
def truncate? (x : Float) : Option Int :=
  match parts x with
  | .finite negative m q => some (if negative then -((wholePart m q).1 : Int) else (wholePart m q).1)
  | _ => none

/-- An integer brought into the range of 64 bits with a sign. -/
def clampInt64 (n : Int) : Int :=
  max (-2 ^ (63 : Nat)) (min (2 ^ (63 : Nat) - 1) n)

/-- The remainder of a division that rounds the quotient towards zero. -/
def remainder (x y : Float) : Float :=
  match parts x, parts y with
  | .finite negative m q, .finite _ n r =>
    if n = 0 then 0 / 0
    else
      let base := min q r
      ofScaled negative (m * 2 ^ (q - base).toNat % (n * 2 ^ (r - base).toNat)) base
  | .finite _ _ _, .infinite _ => x
  | _, _ => 0 / 0

end Number

end ConditionLang
