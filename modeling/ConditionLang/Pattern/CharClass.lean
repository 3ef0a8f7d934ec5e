import ConditionLang.Text.Blank
import ConditionLang.Unicode.Binary
import ConditionLang.Unicode.Script

/-!
# Classes of characters

The sets of characters that a pattern can name: ranges and Unicode properties, joined by set operations and closed under
case. A class is a description; `contains` says what it holds.
-/

namespace ConditionLang

namespace Unicode

/-- The property Alphabetic. -/
def alphabetic : CodeSet :=
  (binaryProperty? "alphabetic").getD default

/-- The decimal digits of all scripts. -/
def decimalDigits : CodeSet :=
  (generalCategory? "nd").getD default

/-- All characters that are numbers. -/
def numeric : CodeSet :=
  (generalCategory? "n").getD default

/-- The characters of words: letters, marks, decimal digits, connectors and the joiners. -/
def wordCharacters : CodeSet :=
  alphabetic.union (((generalCategory? "m").getD default).union (decimalDigits.union
    (((generalCategory? "pc").getD default).union ((binaryProperty? "joinc").getD default))))

end Unicode

namespace Pattern

inductive CharClass where
  | span (first last : Nat)
  | set (s : CodeSet)
  | blank
  | union (a b : CharClass)
  | inter (a b : CharClass)
  | diff (a b : CharClass)
  | symmDiff (a b : CharClass)
  | complement (a : CharClass)
  /-- With every character also those that differ from it in case only. -/
  | folded (a : CharClass)
  /-- With every ASCII letter also its other case. -/
  | foldedAscii (a : CharClass)
  /-- The same characters, written as bytes. -/
  | bytes (a : CharClass)
  deriving Repr, DecidableEq, Inhabited

namespace CharClass

/-- The class without members. -/
def nothing : CharClass := .set ⟨[]⟩

/-- The class of all characters. -/
def everything : CharClass := .complement nothing

/-- The class of one character. -/
def single (c : Char) : CharClass := .span c.toNat c.toNat

/-- The class of the ASCII characters of a list of ranges. -/
def ofRanges (ranges : List (Char × Char)) : CharClass :=
  ranges.foldl (fun a (first, last) => .union a (.span first.toNat last.toNat)) nothing

/-- The other case of an ASCII letter. -/
def swapAsciiCase (c : Char) : Char :=
  if c.isUpper then c.toLower else c.toUpper

/-- Whether a character belongs to a class. -/
def contains : CharClass → Char → Bool
  | .span first last, c => first ≤ c.toNat && c.toNat ≤ last
  | .set s, c => s.contains c
  | .blank, c => Text.isBlank c
  | .union a b, c => a.contains c || b.contains c
  | .inter a b, c => a.contains c && b.contains c
  | .diff a b, c => a.contains c && !b.contains c
  | .symmDiff a b, c => a.contains c != b.contains c
  | .complement a, c => !a.contains c
  | .folded a, c => a.contains c || (Unicode.foldMates c).any a.contains
  | .foldedAscii a, c => a.contains c || a.contains (swapAsciiCase c)
  | .bytes a, c => a.contains c

end CharClass

/-- Whether a character is part of a word. -/
def isWordChar (ascii : Bool) (c : Char) : Bool :=
  if ascii then c.isAlphanum || c == '_' else Unicode.wordCharacters.contains c

end Pattern

end ConditionLang
