import ConditionLang.Pattern.Reader
import ConditionLang.Pattern.Segmentation
import ConditionLang.Unicode.Age

/-!
# The meaning of written patterns

Flags are carried from left to right through a group and resolved, property names are looked up, and the written pattern
becomes a `Pattern`. Without the flag `unicode` a pattern may only name ASCII characters; one that could match a part of
a character, or names a property that does not exist, has no meaning.
-/

namespace ConditionLang

namespace Pattern

/-- The flags in force. -/
structure Flags where
  caseless : Bool := false
  multiLine : Bool := false
  dotAll : Bool := false
  swapGreed : Bool := false
  unicode : Bool := true
  crlf : Bool := false
  deriving Repr, DecidableEq, Inhabited

namespace Flags

/-- Turns one flag on or off. Verbose mode has no meaning of its own. -/
def set (f : Flags) (change : Flag × Bool) : Flags :=
  match change with
  | (.caseless, on) => { f with caseless := on }
  | (.multiLine, on) => { f with multiLine := on }
  | (.dotAll, on) => { f with dotAll := on }
  | (.unicode, on) => { f with unicode := on }
  | (.crlf, on) => { f with crlf := on }
  | (.swapGreed, on) => { f with swapGreed := on }
  | (.verbose, _) => f

/-- Turns flags on or off. -/
def change (f : Flags) (changes : FlagChanges) : Flags :=
  changes.foldl set f

end Flags

/-- The name of a property or value as it is looked up: blanks, hyphens and underscores do not count, nor do the case of
letters, characters outside ASCII, and `is` at the start. -/
def normalName (name : String) : String :=
  let lower := name.toList.map Char.toLower
  let bare := if ['i', 's'].isPrefixOf lower then lower.drop 2 else lower
  let kept := bare.filter fun c => c.toNat < 128 && c != ' ' && c != '-' && c != '_'
  if kept = ['c'] ∧ ['i', 's'].isPrefixOf lower then "isc" else String.ofList kept

/-- The characters of a general category, or of one of the names that stand beside the categories. -/
def category? (name : String) : Option CharClass :=
  if name = "any" then some .everything
  else if name = "ascii" then some (.span 0 127)
  else if name = "assigned" then (Unicode.generalCategory? "cn").map fun s => .complement (.set s)
  else (Unicode.generalCategory? name).map .set

/-- The characters of a binary property, a category or a script. -/
def byName? (name : String) : Option CharClass :=
  let name := normalName name
  let property := if ["cf", "sc", "lc"].contains name then none else Unicode.binaryProperty? name
  (property.map .set).or ((category? name).or ((Unicode.script? name).map .set))

/-- The characters for which a property has a value. -/
def byValue? (property value : String) : Option CharClass :=
  let value := normalName value
  let property := normalName property
  if ["gc", "generalcategory"].contains property then category? value
  else if ["sc", "script"].contains property then (Unicode.script? value).map .set
  else if ["scx", "scriptextensions"].contains property then
    (Unicode.scriptExtensions? value).map fun (own, left) => .diff (.set own) (.set left)
  else if property = "age" then (Unicode.age? value).map .set
  else if ["gcb", "graphemeclusterbreak"].contains property then BreakValue.find? graphemeBreaks value
  else if ["wb", "wordbreak"].contains property then BreakValue.find? wordBreaks value
  else if ["sb", "sentencebreak"].contains property then BreakValue.find? sentenceBreaks value
  else none

/-- The class of characters that a query asks for. -/
def PropertyQuery.resolve? : PropertyQuery → Option CharClass
  | .name n => byName? n
  | .value p v => byValue? p v

/-- The ASCII characters of a named class. -/
def AsciiClass.toClass : AsciiClass → CharClass
  | .alnum => .ofRanges [('0', '9'), ('A', 'Z'), ('a', 'z')]
  | .alpha => .ofRanges [('A', 'Z'), ('a', 'z')]
  | .ascii => .span 0 127
  | .blank => .ofRanges [('\t', '\t'), (' ', ' ')]
  | .cntrl => .ofRanges [('\x00', '\x1f'), ('\x7f', '\x7f')]
  | .digit => .ofRanges [('0', '9')]
  | .graph => .ofRanges [('!', '~')]
  | .lower => .ofRanges [('a', 'z')]
  | .print => .ofRanges [(' ', '~')]
  | .punct => .ofRanges [('!', '/'), (':', '@'), ('[', '\x60'), ('\x7b', '~')]
  | .space => .ofRanges [('\t', '\r'), (' ', ' ')]
  | .upper => .ofRanges [('A', 'Z')]
  | .word => .ofRanges [('0', '9'), ('A', 'Z'), ('_', '_'), ('a', 'z')]
  | .xdigit => .ofRanges [('0', '9'), ('A', 'F'), ('a', 'f')]

/-- The characters that a shorthand stands for. -/
def Shorthand.toClass (unicode : Bool) : Shorthand → CharClass
  | .digit => if unicode then .set Unicode.decimalDigits else AsciiClass.digit.toClass
  | .space => if unicode then .blank else AsciiClass.space.toClass
  | .word => if unicode then .set Unicode.wordCharacters else AsciiClass.word.toClass

/-- A class closed under case, if case does not count. -/
def CharClass.caseClosed (f : Flags) (c : CharClass) : CharClass :=
  if !f.caseless then c else if f.unicode then .folded c else .foldedAscii c

/-- A class or the characters outside it, which only Unicode has. -/
def CharClass.negatedIf? (f : Flags) (negated : Bool) (c : CharClass) : Option CharClass :=
  if !negated then some c else if f.unicode then some (.complement c) else none

/-- The character a literal stands for. Without Unicode, an escape for a byte above 127 stands for none. -/
def Literal.char? (f : Flags) (l : Literal) : Option Char :=
  if !f.unicode && l.byte && 127 < l.char.toNat then none else some l.char

/-- The character a literal in a class stands for, an ASCII character unless Unicode is in force. -/
def Literal.member? (f : Flags) (l : Literal) : Option Char :=
  if f.unicode || l.char.toNat < 128 then some l.char else none

/-- The pattern of a class, which is marked if it is written without Unicode. -/
def CharClass.toPattern (f : Flags) (c : CharClass) : Pattern :=
  .char (if f.unicode then c else .bytes c)

/-- The class of a property, which only Unicode has. -/
def propertyClass? (f : Flags) (q : PropertyQuery) (negated : Bool) : Option CharClass :=
  if f.unicode then do (← q.resolve?).caseClosed f |>.negatedIf? f negated else none

/-- The class of an operator between two classes. -/
def ClassOp.apply (o : ClassOp) (a b : CharClass) : CharClass :=
  match o with
  | .inter => .inter a b
  | .diff => .diff a b
  | .symmDiff => .symmDiff a b

namespace ClassTree

mutual

/-- The class that a written class stands for. -/
def meaning? (f : Flags) : ClassTree → Option CharClass
  | .empty => some .nothing
  | .literal l => (l.member? f).map .single
  | .range first last => do return .span (← first.member? f).toNat (← last.member? f).toNat
  | .shorthand s negated => (s.toClass f.unicode).negatedIf? f negated
  | .ascii a negated => (a.toClass.caseClosed f).negatedIf? f negated
  | .property q negated => propertyClass? f q negated
  | .bracket negated body => do ((← body.meaning? f).caseClosed f).negatedIf? f negated
  | .union items => meaningOfAll? f items
  | .op o left right => do return o.apply ((← left.meaning? f).caseClosed f) ((← right.meaning? f).caseClosed f)

/-- The union of the classes that written classes stand for. -/
def meaningOfAll? (f : Flags) : List ClassTree → Option CharClass
  | [] => some .nothing
  | t :: ts => do return .union (← t.meaning? f) (← meaningOfAll? f ts)

end

end ClassTree

namespace Tree

/-- The class that a dot stands for: all characters, or all but the ends of lines. -/
def dotClass (f : Flags) : CharClass :=
  if f.dotAll then .everything
  else if f.crlf then .complement (.ofRanges [('\n', '\n'), ('\r', '\r')])
  else .complement (.single '\n')

mutual

/-- The pattern that a written pattern stands for under flags, and the flags for what follows it. -/
def meaning? (f : Flags) : Tree → Option (Pattern × Flags)
  | .empty => some (.empty, f)
  | .flags changes => some (.empty, f.change changes)
  | .literal l => do return ((CharClass.single (← l.char? f) |>.caseClosed f).toPattern f, f)
  | .dot => if f.unicode then some ((dotClass f).toPattern f, f) else none
  | .textStart => some (.anchor .textStart, f)
  | .textEnd => some (.anchor .textEnd, f)
  | .lineStart => some (.anchor (if f.multiLine then .lineStart f.crlf else .textStart), f)
  | .lineEnd => some (.anchor (if f.multiLine then .lineEnd f.crlf else .textEnd), f)
  | .word edge => some (.anchor (.word edge !f.unicode), f)
  | .shorthand s negated => do return ((← (s.toClass f.unicode).negatedIf? f negated).toPattern f, f)
  | .property q negated => do return ((← propertyClass? f q negated).toPattern f, f)
  | .bracket negated body => do return ((← (ClassTree.bracket negated body).meaning? f).toPattern f, f)
  | .repeated min max greedy body => do return (.repeated min max (greedy != f.swapGreed) (← body.meaning? f).1, f)
  | .group kept changes body => do
    let (p, _) ← body.meaning? (f.change changes)
    return (if kept then .group p else p, f)
  | .concat parts => concatMeaning? f parts
  | .alternation branches => branchMeaning? f branches

/-- The meaning of parts one after the other. -/
def concatMeaning? (f : Flags) : List Tree → Option (Pattern × Flags)
  | [] => some (.empty, f)
  | t :: ts => do
    let (p, f) ← t.meaning? f
    let (q, f) ← concatMeaning? f ts
    return (.cat p q, f)

/-- The meaning of a choice between branches. -/
def branchMeaning? (f : Flags) : List Tree → Option (Pattern × Flags)
  | [] => some (.char .nothing, f)
  | t :: ts => do
    let (p, f) ← t.meaning? f
    let (q, f) ← branchMeaning? f ts
    return (.alt p q, f)

end

end Tree

/-- The pattern that a text writes. -/
def ofText? (text : List Char) : Option Pattern := do
  let (p, _) ← (← Reader.read? text).meaning? {}
  return p

end Pattern

/-- How reports put that a text writes no pattern. The wording, with a picture of the place that is at fault, is that of whoever
reads patterns, and a parameter of every message that quotes it. -/
class PatternReports where
  /-- The report about a text that writes no pattern. -/
  report : String → String

end ConditionLang
