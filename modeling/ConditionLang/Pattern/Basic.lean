import ConditionLang.Pattern.CharClass

/-!
# Patterns and matching

A pattern describes texts; `matches` tells whether one occurs somewhere in a text. Matching keeps the set of all
sequences of patterns that may still follow and moves it over the text one character at a time, so it never tries
alternatives one after the other.
-/

namespace ConditionLang

namespace Pattern

/-- Which edge of a word a place is asked to be. -/
inductive WordEdge where
  | boundary
  | inside
  | start
  | stop
  | startHalf
  | stopHalf
  deriving Repr, DecidableEq, Inhabited

/-- A condition on a place in a text, which takes up no characters. -/
inductive Anchor where
  | textStart
  | textEnd
  | lineStart (crlf : Bool)
  | lineEnd (crlf : Bool)
  | word (edge : WordEdge) (ascii : Bool)
  deriving Repr, DecidableEq, Inhabited

/-- A place in a text: the characters on its two sides. -/
structure Place where
  before : Option Char
  after : Option Char
  deriving Repr, DecidableEq, Inhabited

/-- Whether a place is the edge of a word that is asked for, given whether characters of words stand on its sides. -/
def WordEdge.holds (before after : Bool) : WordEdge → Bool
  | .boundary => before != after
  | .inside => before == after
  | .start => !before && after
  | .stop => before && !after
  | .startHalf => !before
  | .stopHalf => !after

/-- Whether a place meets the condition of an anchor. -/
def Anchor.holds (place : Place) : Anchor → Bool
  | .textStart => place.before.isNone
  | .textEnd => place.after.isNone
  | .lineStart false => place.before.all (· == '\n')
  | .lineEnd false => place.after.all (· == '\n')
  | .lineStart true =>
    place.before.all fun b => b == '\n' || (b == '\r' && place.after != some '\n')
  | .lineEnd true =>
    place.after.all fun a => a == '\r' || (a == '\n' && place.before != some '\r')
  | .word edge ascii => edge.holds (place.before.any (isWordChar ascii)) (place.after.any (isWordChar ascii))

end Pattern

inductive Pattern where
  | empty
  | char (c : Pattern.CharClass)
  | anchor (a : Pattern.Anchor)
  | cat (p q : Pattern)
  | alt (p q : Pattern)
  /-- A group that is numbered or has a name. -/
  | group (p : Pattern)
  /-- At least `min` and at most `max` times the pattern `p`, without an upper bound if there is no `max`. Whether it is
  `greedy` makes no difference to what matches. -/
  | repeated (min : Nat) (max : Option Nat) (greedy : Bool) (p : Pattern)
  deriving Repr, DecidableEq, Inhabited

namespace Pattern

/-- Whether a pattern matches the empty text at a place. -/
def isNullable (place : Place) : Pattern → Bool
  | .empty => true
  | .char _ => false
  | .anchor a => a.holds place
  | .cat p q => p.isNullable place && q.isNullable place
  | .alt p q => p.isNullable place || q.isNullable place
  | .group p => p.isNullable place
  | .repeated min _ _ p => min == 0 || p.isNullable place

/-- Whether a pattern matches the empty text at every place, by its shape. -/
def isOptional : Pattern → Bool
  | .empty => true
  | .char _ => false
  | .anchor _ => false
  | .cat p q => p.isOptional && q.isOptional
  | .alt p q => p.isOptional || q.isOptional
  | .group p => p.isOptional
  | .repeated min _ _ p => min == 0 || p.isOptional

/-- What is left of a repetition of `p` after one round and `empties` rounds before it that match nothing. -/
def restOfRepetition (min : Nat) (max : Option Nat) (greedy : Bool) (p : Pattern) (empties : Nat) : List Pattern :=
  let max := max.map (· - (empties + 1))
  if max = some 0 then [] else [.repeated (min - (empties + 1)) max greedy p]

/-- The sequences of patterns that may follow after a pattern has taken up the character `c` at a place. -/
def advance (place : Place) (c : Char) : Pattern → List (List Pattern)
  | .empty => []
  | .char cls => if cls.contains c then [[]] else []
  | .anchor _ => []
  | .cat p q => (p.advance place c).map (· ++ [q]) ++ (if p.isNullable place then q.advance place c else [])
  | .alt p q => p.advance place c ++ q.advance place c
  | .group p => p.advance place c
  | .repeated min max greedy p =>
    if max = some 0 then []
    else
      let tails := p.advance place c
      if p.isOptional then tails.map (· ++ restOfRepetition 0 max greedy p 0)
      else
        let empties := if p.isNullable place then List.range (Nat.max min 1) else [0]
        tails.flatMap fun tail => empties.map fun n => tail ++ restOfRepetition min max greedy p n

/-- The same for a sequence of patterns. -/
def advanceAll (place : Place) (c : Char) : List Pattern → List (List Pattern)
  | [] => []
  | p :: rest =>
    (p.advance place c).map (· ++ rest) ++ (if p.isNullable place then advanceAll place c rest else [])

/-- Moves the sequences `states` over a text; a new match of `start` may begin at every place. -/
def search (start : Pattern) (before : Option Char) (states : List (List Pattern)) : List Char → Bool
  | [] => states.any (·.all (isNullable ⟨before, none⟩))
  | c :: s =>
    let place : Place := ⟨before, some c⟩
    states.any (·.all (isNullable place)) ||
      search start (some c) ([start] :: states.flatMap (advanceAll place c)).eraseDups s

/-- Whether a pattern matches some part of a text. -/
def matchesIn (p : Pattern) (text : List Char) : Bool :=
  search p none [[p]] text

end Pattern

end ConditionLang
