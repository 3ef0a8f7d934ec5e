/-!
# Random draws

A source of naturals of which each draw takes the next and brings it into a range (`draw_lt`). Nothing else is known about
a source, so what holds for every source holds for every way of drawing.
-/

namespace ConditionLang

/-- A source of naturals, and how many have been taken from it. -/
structure Draws where
  source : Nat → Nat
  taken : Nat

namespace Draws

/-- The next draw from the numbers below `bound`. -/
def draw (d : Draws) (bound : Nat) : Nat × Draws :=
  (d.source d.taken % bound, { d with taken := d.taken + 1 })

/-- A number that is drawn is below the bound. -/
theorem draw_lt (d : Draws) {bound : Nat} (h : 0 < bound) : (d.draw bound).1 < bound :=
  Nat.mod_lt _ h

/-- Spreads a 64-bit number over all of its bits. -/
def scramble (x : UInt64) : UInt64 :=
  let x := (x ^^^ (x >>> 30)) * 0xBF58476D1CE4E5B9
  let x := (x ^^^ (x >>> 27)) * 0x94D049BB133111EB
  x ^^^ (x >>> 31)

/-- The source that a seed stands for. -/
def seeded (seed : Nat) : Draws :=
  ⟨fun n => (scramble (UInt64.ofNat seed + UInt64.ofNat (n + 1) * 0x9E3779B97F4A7C15)).toNat, 0⟩

instance : Inhabited Draws := ⟨seeded 0⟩

end Draws

end ConditionLang
