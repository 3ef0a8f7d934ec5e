/-!
# Reading from the front of a text

A reader takes a value off the front of a text and hands on the rest together with a bound on its length, so that
readers built from readers end.
-/

namespace ConditionLang

/-- A value read from a text, and the rest of the text, which is shorter than `n`. -/
structure Taken (n : Nat) (α : Type) where
  value : α
  rest : List Char
  shorter : rest.length < n

namespace Taken

/-- Another value in place of the one that was read. -/
def withValue {n : Nat} {α β : Type} (t : Taken n α) (value : β) : Taken n β :=
  ⟨value, t.rest, t.shorter⟩

/-- The same value, seen from an earlier place. -/
def weaken {m n : Nat} {α : Type} (t : Taken m α) (h : m ≤ n) : Taken n α :=
  ⟨t.value, t.rest, Nat.lt_of_lt_of_le t.shorter h⟩

/-- The same value, seen from one character earlier. -/
def after {n : Nat} {α : Type} (t : Taken n α) : Taken (n + 1) α :=
  t.weaken (Nat.le_succ n)

/-- What is left of a text after something has been taken is shorter. -/
theorem length_rest_lt {s : List Char} {α : Type} (t : Taken s.length α) : t.rest.length < s.length :=
  t.shorter

end Taken

/-- A text is shorter than with a character in front. -/
theorem length_lt_succ (s : List Char) : s.length < s.length + 1 :=
  Nat.lt_succ_self _

/-- Dropping from the front leaves no more characters. -/
theorem length_dropWhile_le {α : Type} (p : α → Bool) (s : List α) : (s.dropWhile p).length ≤ s.length :=
  (List.dropWhile_sublist p).length_le

end ConditionLang
