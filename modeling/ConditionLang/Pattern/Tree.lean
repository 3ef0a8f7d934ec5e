import ConditionLang.Pattern.Basic

/-!
# The syntax of patterns

A pattern as it is written: with flags, escapes, groups and bracketed classes. `Tree.depth` counts how deeply it nests.
-/

namespace ConditionLang

namespace Pattern

/-- The switches of a group. -/
inductive Flag where
  | caseless
  | multiLine
  | dotAll
  | swapGreed
  | unicode
  | crlf
  | verbose
  deriving Repr, DecidableEq, Inhabited

/-- Flags that a group turns on or off. -/
abbrev FlagChanges := List (Flag × Bool)

/-- The classes that have a letter of their own. -/
inductive Shorthand where
  | digit
  | space
  | word
  deriving Repr, DecidableEq, Inhabited

/-- The named classes of ASCII characters. -/
inductive AsciiClass where
  | alnum | alpha | ascii | blank | cntrl | digit | graph | lower | print | punct | space | upper | word | xdigit
  deriving Repr, DecidableEq, Inhabited

/-- What is asked of Unicode: a property by its name, or the value of a property. -/
inductive PropertyQuery where
  | name (name : String)
  | value (property value : String)
  deriving Repr, DecidableEq, Inhabited

/-- The operators between the parts of a bracketed class. -/
inductive ClassOp where
  | inter
  | diff
  | symmDiff
  deriving Repr, DecidableEq, Inhabited

/-- A character as it is written; `byte` when it is an escape `\x` of two digits, which names a byte outside Unicode. -/
structure Literal where
  char : Char
  byte : Bool
  deriving Repr, DecidableEq, Inhabited

inductive ClassTree where
  | empty
  | literal (l : Literal)
  | range (first last : Literal)
  | shorthand (s : Shorthand) (negated : Bool)
  | ascii (a : AsciiClass) (negated : Bool)
  | property (q : PropertyQuery) (negated : Bool)
  | bracket (negated : Bool) (body : ClassTree)
  | union (items : List ClassTree)
  | op (o : ClassOp) (left right : ClassTree)
  deriving Repr, Inhabited

inductive Tree where
  | empty
  /-- Flags for the rest of the group. -/
  | flags (changes : FlagChanges)
  | literal (l : Literal)
  | dot
  | textStart
  | textEnd
  | lineStart
  | lineEnd
  | word (edge : WordEdge)
  | shorthand (s : Shorthand) (negated : Bool)
  | property (q : PropertyQuery) (negated : Bool)
  | bracket (negated : Bool) (body : ClassTree)
  /-- A repetition; `greedy` unless a question mark makes it reluctant. -/
  | repeated (min : Nat) (max : Option Nat) (greedy : Bool) (body : Tree)
  /-- A group, which may set flags for its inside; `kept` if it is numbered or has a name. -/
  | group (kept : Bool) (changes : FlagChanges) (body : Tree)
  | concat (parts : List Tree)
  | alternation (branches : List Tree)
  deriving Repr, Inhabited

namespace ClassTree

/-- The items of a class side by side. -/
def ofItems : List ClassTree → ClassTree
  | [] => .empty
  | [item] => item
  | items => .union items

mutual

/-- How deeply a class nests. -/
def depth : ClassTree → Nat
  | .union items => 1 + depthOfAll items
  | .bracket _ body => 1 + body.depth
  | .op _ left right => 1 + Nat.max left.depth right.depth
  | _ => 0

/-- The depth of the deepest of several classes. -/
def depthOfAll : List ClassTree → Nat
  | [] => 0
  | t :: ts => Nat.max t.depth (depthOfAll ts)

end

end ClassTree

namespace Tree

/-- Parts one after the other. -/
def ofParts : List Tree → Tree
  | [] => .empty
  | [part] => part
  | parts => .concat parts

/-- Branches to choose from. -/
def ofBranches : List Tree → Tree
  | [] => .empty
  | [branch] => branch
  | branches => .alternation branches

mutual

/-- How deeply a pattern nests. -/
def depth : Tree → Nat
  | .bracket _ body => 1 + body.depth
  | .repeated _ _ _ body => 1 + body.depth
  | .group _ _ body => 1 + body.depth
  | .concat parts => 1 + depthOfAll parts
  | .alternation branches => 1 + depthOfAll branches
  | _ => 0

/-- The depth of the deepest of several patterns. -/
def depthOfAll : List Tree → Nat
  | [] => 0
  | t :: ts => Nat.max t.depth (depthOfAll ts)

end

end Tree

end Pattern

end ConditionLang
