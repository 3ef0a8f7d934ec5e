import ConditionLang.Pattern.Tree
import ConditionLang.Text.Hexadecimal
import ConditionLang.Text.Taken

/-!
# Reading patterns

The grammar of patterns, from text to `Tree`. In verbose mode blanks and comments between the parts of a pattern do not
count. Every reader hands on a shorter rest, so reading ends; what does not read is simply refused.
-/

namespace ConditionLang

-- Powers are those of the core library, whatever other instances there are.
attribute [local instance (high)] instPowNat

namespace Pattern

namespace Reader

/-- The text after blanks and comments, which are skipped in verbose mode only. -/
def skipSpace (verbose : Bool) : List Char → List Char
  | [] => []
  | c :: s =>
    if verbose && Text.isBlank c then skipSpace verbose s
    else if verbose && c == '#' then skipSpace verbose ((s.dropWhile (· != '\n')).drop 1)
    else c :: s
termination_by s => s.length
decreasing_by
  · simp
  · have := length_dropWhile_le (· != '\n') s
    simp only [List.length_drop, List.length_cons]
    omega

/-- Skipping space leaves no more characters. -/
theorem length_skipSpace_le (verbose : Bool) (s : List Char) : (skipSpace verbose s).length ≤ s.length := by
  fun_induction skipSpace verbose s with
  | case1 => simp
  | case2 c s _ ih => simp only [List.length_cons]; omega
  | case3 c s _ _ ih =>
    have := length_dropWhile_le (· != '\n') s
    simp only [List.length_drop, List.length_cons] at *
    omega
  | case4 => simp

/-- The next character that is not skipped. -/
def next? (verbose : Bool) (s : List Char) : Option (Taken s.length Char) :=
  match h : skipSpace verbose s with
  | [] => none
  | c :: r => some ⟨c, r, by have := length_skipSpace_le verbose s; simp [h] at this; omega⟩

/-- The next character, nothing skipped. -/
def char? (s : List Char) : Option (Taken s.length Char) :=
  match s with
  | [] => none
  | c :: r => some ⟨c, r, length_lt_succ r⟩

/-- Exactly `count` characters, what may be skipped between them left out. -/
def chars? (verbose : Bool) : Nat → (s : List Char) → Option (Taken (s.length + 1) (List Char))
  | 0, s => some ⟨[], s, Nat.lt_succ_self _⟩
  | count + 1, s => do
    let first ← next? verbose s
    let more ← chars? verbose count first.rest
    return ⟨first.value :: more.value, more.rest, by have := first.shorter; have := more.shorter; omega⟩

/-- The characters up to a closing brace, what may be skipped left out. -/
def braced? (verbose : Bool) (s : List Char) : Option (Taken s.length (List Char)) := do
  let first ← next? verbose s
  if first.value = '}' then return first.withValue []
  else
    have hf := first.shorter
    let more ← braced? verbose first.rest
    return ⟨first.value :: more.value, more.rest, by have := more.shorter; omega⟩
termination_by s.length
decreasing_by omega

/-- A character given by its number after `\x`, `\u` or `\U`: in braces, or with the digits that the letter asks for. -/
def numbered? (verbose : Bool) (digits : Nat) (s : List Char) : Option (Taken s.length Literal) := do
  let first ← next? verbose s
  if first.value = '{' then
    let inner ← braced? verbose first.rest
    if inner.value.isEmpty then none
    else
      let c ← Text.hexChar? inner.value
      return ⟨⟨c, false⟩, inner.rest, by have := first.shorter; have := inner.shorter; omega⟩
  else
    let more ← chars? verbose (digits - 1) first.rest
    let c ← Text.hexChar? (first.value :: more.value)
    return ⟨⟨c, digits == 2⟩, more.rest, by have := first.shorter; have := more.shorter; omega⟩

/-- A property as it is written between braces, and whether the characters without it are meant. A value stands after
`!=`, `:` or `=`, whichever is found first in this order; after `!=` it is the value that the characters do not have. -/
def propertyQuery (s : List Char) : PropertyQuery × Bool :=
  let differs := Text.splitOnce ['!', '='] s
  match differs.or ((Text.splitOnce [':'] s).or (Text.splitOnce ['='] s)) with
  | some (property, value) => (.value (String.ofList property) (String.ofList value), differs.isSome)
  | none => (.name (String.ofList s), false)

/-- The property after `\p`: a single letter, or what is written in braces. -/
def property? (verbose : Bool) (s : List Char) : Option (Taken s.length (PropertyQuery × Bool)) := do
  let first ← next? verbose s
  if first.value = '{' then
    let inner ← braced? verbose first.rest
    return ⟨propertyQuery inner.value, inner.rest, by have := first.shorter; have := inner.shorter; omega⟩
  else if first.value = '\\' then none
  else return first.withValue (.name first.value.toString, false)

/-- Whether a character may stand in the name of an edge of a word. -/
def isEdgeChar (c : Char) : Bool :=
  c.isAlpha || c == '-'

/-- The characters of the name of an edge of a word. -/
def edgeName (verbose : Bool) (s : List Char) : Taken (s.length + 1) (List Char) :=
  match next? verbose s with
  | none => ⟨[], s, length_lt_succ s⟩
  | some first =>
    have hf := first.length_rest_lt
    if isEdgeChar first.value then
      let more := edgeName verbose first.rest
      (more.withValue (first.value :: more.value)).weaken (Nat.le_succ_of_le hf)
    else ⟨[], s, length_lt_succ s⟩
termination_by s.length
decreasing_by omega

/-- The edges of words that have a name. -/
def edgeNames : List (String × WordEdge) :=
  [("start", .start), ("end", .stop), ("start-half", .startHalf), ("end-half", .stopHalf)]

/-- The edge of a word named in braces after `\b`. Braces that start with anything but a letter or a hyphen are left to
be read as a repetition. -/
def wordEdge? (verbose : Bool) (s : List Char) : Option (Taken (s.length + 1) WordEdge) :=
  match s with
  | '{' :: r => do
    let first ← next? verbose r
    if isEdgeChar first.value then
      let name := edgeName verbose r
      let close ← next? verbose name.rest
      if close.value = '}' then
        let edge ← edgeNames.lookup (String.ofList name.value)
        return ⟨edge, close.rest, by have := name.shorter; have := close.shorter; simp only [List.length_cons]; omega⟩
      else none
    else return ⟨.boundary, '{' :: r, Nat.lt_succ_self _⟩
  | s => some ⟨.boundary, s, length_lt_succ s⟩

/-- What an escape stands for. -/
inductive Escaped where
  | literal (l : Literal)
  | shorthand (s : Shorthand) (negated : Bool)
  | property (q : PropertyQuery) (negated : Bool)
  | textStart
  | textEnd
  | word (edge : WordEdge)
  deriving Repr, DecidableEq, Inhabited

/-- Whether a backslash before a character stands for the character itself: all ASCII characters but letters, digits and
angle brackets. -/
def isEscapable (c : Char) : Bool :=
  c.toNat < 128 && !c.isAlphanum && c != '<' && c != '>'

/-- The control characters that have an escape of one letter. -/
def controlEscapes : List (Char × Char) :=
  [('a', '\x07'), ('f', '\x0c'), ('t', '\t'), ('n', '\n'), ('r', '\r'), ('v', '\x0b')]

/-- The classes that have an escape of one letter; the capital letter stands for the other characters. -/
def shorthandEscapes : List (Char × Shorthand × Bool) :=
  [('d', .digit, false), ('D', .digit, true), ('s', .space, false), ('S', .space, true), ('w', .word, false),
    ('W', .word, true)]

/-- How many digits a character number has after each of the letters that announce one. -/
def numberEscapes : List (Char × Nat) :=
  [('x', 2), ('u', 4), ('U', 8)]

/-- Reads what follows a backslash. -/
def escape? (verbose : Bool) (s : List Char) : Option (Taken s.length Escaped) := do
  let first ← char? s
  have hf := first.length_rest_lt
  let c := first.value
  match numberEscapes.lookup c with
  | some digits =>
    let l ← numbered? verbose digits first.rest
    return (l.withValue (.literal l.value)).weaken (by omega)
  | none =>
  match shorthandEscapes.lookup c with
  | some (s, negated) => return first.withValue (.shorthand s negated)
  | none =>
  match controlEscapes.lookup c with
  | some control => return first.withValue (.literal ⟨control, false⟩)
  | none =>
  if c = 'p' ∨ c = 'P' then
    let q ← property? verbose first.rest
    return (q.withValue (.property q.value.1 ((c == 'P') != q.value.2))).weaken (by omega)
  else if isEscapable c then return first.withValue (.literal ⟨c, false⟩)
  else if c = 'A' then return first.withValue .textStart
  else if c = 'z' then return first.withValue .textEnd
  else if c = 'b' then
    let edge ← wordEdge? verbose first.rest
    return (edge.withValue (.word edge.value)).weaken (by omega)
  else if c = 'B' then return first.withValue (.word .inside)
  else if c = '<' then return first.withValue (.word .start)
  else if c = '>' then return first.withValue (.word .stop)
  else none

/-! ## Bracketed classes -/

/-- The names of the classes of ASCII characters. -/
def asciiNames : List (String × AsciiClass) :=
  [("alnum", .alnum), ("alpha", .alpha), ("ascii", .ascii), ("blank", .blank), ("cntrl", .cntrl), ("digit", .digit),
    ("graph", .graph), ("lower", .lower), ("print", .print), ("punct", .punct), ("space", .space), ("upper", .upper),
    ("word", .word), ("xdigit", .xdigit)]

/-- A class such as `[:alpha:]`, read after its opening bracket. -/
def asciiClass? (s : List Char) : Option (Taken s.length ClassTree) := do
  let colon ← char? s
  if colon.value ≠ ':' then none
  else
    let negated := colon.rest.head? == some '^'
    let body := if negated then colon.rest.drop 1 else colon.rest
    let name := body.takeWhile (· != ':')
    let close := body.drop name.length
    if [':', ']'].isPrefixOf close then
      let a ← asciiNames.lookup (String.ofList name)
      return ⟨.ascii a negated, close.drop 2, by
        have := colon.shorter
        have : body.length ≤ colon.rest.length := by dsimp only [body]; split <;> simp
        have : close.length ≤ body.length := by simp [close]
        simp only [List.length_drop]
        omega⟩
    else none

/-- A single member of a class, or an escape. -/
def classItem? (verbose : Bool) (s : List Char) : Option (Taken s.length Escaped) := do
  let first ← char? s
  if first.value = '\\' then
    let e ← escape? verbose first.rest
    return e.weaken (Nat.le_of_lt first.shorter)
  else return first.withValue (.literal ⟨first.value, false⟩)

/-- An escape as a part of a class. Conditions on places cannot be one. -/
def classPart? : Escaped → Option ClassTree
  | .literal l => some (.literal l)
  | .shorthand s negated => some (.shorthand s negated)
  | .property q negated => some (.property q negated)
  | _ => none

/-- The character after the next one, blanks and the start of a comment skipped in verbose mode. -/
def peekPast (verbose : Bool) (s : List Char) : Option Char :=
  if verbose then
    let t := s.dropWhile Text.isBlank
    let u := match t with
      | '#' :: r => r.dropWhile Text.isBlank
      | _ => t
    (u.head?).or s.head?
  else s.head?

/-- A single member of a class, or a range of them. A hyphen makes no range before a closing bracket or another hyphen. -/
def classRange? (verbose : Bool) (s : List Char) : Option (Taken s.length ClassTree) := do
  let first ← classItem? verbose s
  have hf := first.shorter
  let dash ← next? verbose first.rest
  if dash.value ≠ '-' ∨ peekPast verbose dash.rest = some ']' ∨ peekPast verbose dash.rest = some '-' then
    return first.withValue (← classPart? first.value)
  else
    have hd := dash.shorter
    let last ← classItem? verbose (skipSpace verbose dash.rest)
    match first.value, last.value with
    | .literal a, .literal b =>
      if a.char ≤ b.char then
        return ⟨.range a b, last.rest, by
          have := last.shorter
          have := length_skipSpace_le verbose dash.rest
          omega⟩
      else none
    | _, _ => none

/-- A bracketed class that is still open: its items so far in reverse, and an operator that waits for its right side. -/
structure OpenClass where
  negated : Bool
  pending : Option (ClassOp × ClassTree)
  items : List ClassTree

namespace OpenClass

/-- One more item. -/
def add (o : OpenClass) (item : ClassTree) : OpenClass :=
  { o with items := item :: o.items }

/-- The class so far, without its brackets. -/
def body (o : OpenClass) : ClassTree :=
  let right := ClassTree.ofItems o.items.reverse
  match o.pending with
  | some (op, left) => .op op left right
  | none => right

/-- Goes on with the right side of an operator. -/
def operate (o : OpenClass) (op : ClassOp) : OpenClass :=
  ⟨o.negated, some (op, o.body), []⟩

/-- The class with its brackets. -/
def close (o : OpenClass) : ClassTree :=
  .bracket o.negated o.body

end OpenClass

/-- Hyphens at the start of a class, which stand for themselves. -/
def leadingHyphens (verbose : Bool) (s : List Char) : Taken (s.length + 1) Nat :=
  match next? verbose s with
  | none => ⟨0, s, Nat.lt_succ_self _⟩
  | some first =>
    have hf := first.shorter
    if first.value = '-' then
      let more := leadingHyphens verbose first.rest
      ⟨more.value + 1, more.rest, by have := more.shorter; omega⟩
    else ⟨0, s, Nat.lt_succ_self _⟩
termination_by s.length
decreasing_by omega

/-- Opens a class after its bracket: a caret negates it, and a closing bracket that comes first stands for itself. -/
def openClass? (verbose : Bool) (s : List Char) : Option (Taken (s.length + 1) OpenClass) := do
  let first ← next? verbose s
  let negated := first.value == '^'
  let inner : Taken (s.length + 1) Unit :=
    if negated then ⟨(), first.rest, by have := first.shorter; omega⟩ else ⟨(), s, Nat.lt_succ_self _⟩
  let hyphens := leadingHyphens verbose inner.rest
  let items := List.replicate hyphens.value (ClassTree.literal ⟨'-', false⟩)
  let follow ← next? verbose hyphens.rest
  if items.isEmpty ∧ follow.value = ']' then
    return ⟨⟨negated, none, [.literal ⟨']', false⟩]⟩, follow.rest, by
      have := inner.shorter
      have := hyphens.shorter
      have := follow.shorter
      omega⟩
  else
    return ⟨⟨negated, none, items⟩, hyphens.rest, by
      have := inner.shorter
      have := hyphens.shorter
      omega⟩

/-- The operator of classes at the front of a text. -/
def classOp? (c : Char) (s : List Char) : Option ClassOp :=
  if s.head? ≠ some c then none
  else if c = '&' then some .inter
  else if c = '-' then some .diff
  else if c = '~' then some .symmDiff
  else none

/-- Reads classes up to the bracket that closes the outermost one, which is the last of `outer`, or `here` itself. -/
def classes? (verbose : Bool) (outer : List OpenClass) (here : OpenClass) (s : List Char) :
    Option (Taken s.length ClassTree) := do
  let first ← next? verbose s
  have hf := first.shorter
  let c := first.value
  if c = '[' then
    match asciiClass? first.rest with
    | some a =>
      have ha := a.shorter
      let t ← classes? verbose outer (here.add a.value) a.rest
      return t.weaken (by omega)
    | none =>
      let inner ← openClass? verbose first.rest
      have hi := inner.shorter
      let t ← classes? verbose (here :: outer) inner.value inner.rest
      return t.weaken (by omega)
  else if c = ']' then
    match outer with
    | [] => return first.withValue here.close
    | o :: rest =>
      let t ← classes? verbose rest (o.add here.close) first.rest
      return t.weaken (by omega)
  else
    match classOp? c first.rest with
    | some op =>
      have hd : (first.rest.drop 1).length ≤ first.rest.length := by simp
      let t ← classes? verbose outer (here.operate op) (first.rest.drop 1)
      return t.weaken (by omega)
    | none =>
      have hs := length_skipSpace_le verbose s
      let item ← classRange? verbose (skipSpace verbose s)
      have hi := item.shorter
      let t ← classes? verbose outer (here.add item.value) item.rest
      return t.weaken (by omega)
termination_by s.length
decreasing_by all_goals omega

/-! ## Groups and repetitions -/

/-- The letters of the flags. -/
def flagLetters : List (Char × Flag) :=
  [('i', .caseless), ('m', .multiLine), ('s', .dotAll), ('U', .swapGreed), ('u', .unicode), ('R', .crlf),
    ('x', .verbose)]

/-- Flags up to the colon or the closing parenthesis: letters that turn on, and after one minus letters that turn off. No
letter may come twice, and the minus may not come last. Also gives the character that ends them. -/
def flags? (seen : List Flag) (minus : Bool) (last : Option Char) :
    (s : List Char) → Option (Taken s.length (FlagChanges × Char))
  | [] => none
  | c :: s =>
    if c = ':' ∨ c = ')' then
      if last = some '-' then none else some ⟨([], c), s, by simp⟩
    else if c = '-' then
      if minus then none else (flags? seen true (some c) s).map (·.weaken (by simp))
    else do
      let flag ← flagLetters.lookup c
      if seen.contains flag then none
      else
        let more ← flags? (flag :: seen) minus (some c) s
        return (more.withValue ((flag, !minus) :: more.value.1, more.value.2)).weaken (by simp)

/-- Whether the name of a group may have a character at its start or later on. -/
def isGroupNameChar (first : Bool) (c : Char) : Bool :=
  c == '_' || Unicode.alphabetic.contains c ||
    (!first && (c == '.' || c == '[' || c == ']' || Unicode.numeric.contains c))

/-- The name of a group, up to a closing angle bracket. -/
def groupName? (s : List Char) : Option (Taken (s.length + 1) String) :=
  let name := s.takeWhile (· != '>')
  match name, s.drop name.length with
  | c :: cs, '>' :: rest =>
    if isGroupNameChar true c ∧ cs.all (isGroupNameChar false) then
      if h : rest.length < s.length + 1 then some ⟨String.ofList name, rest, h⟩ else none
    else none
  | _, _ => none

/-- Blanks inside the braces of a repetition, which are skipped in every mode. -/
def skipCountSpace (verbose : Bool) (s : List Char) : List Char :=
  if verbose then skipSpace true s else s.dropWhile Text.isBlank

/-- The digits of a count. -/
def countDigits (verbose : Bool) (s : List Char) : Taken (s.length + 1) (List Char) :=
  match next? verbose s with
  | none => ⟨[], s, Nat.lt_succ_self _⟩
  | some first =>
    have hf := first.shorter
    if first.value.isDigit then
      let more := countDigits verbose first.rest
      ⟨first.value :: more.value, more.rest, by have := more.shorter; omega⟩
    else ⟨[], s, Nat.lt_succ_self _⟩
termination_by s.length
decreasing_by omega

/-- A count of a repetition, which has 32 bits. -/
def count? (verbose : Bool) (s : List Char) : Option (Taken (s.length + 1) Nat) :=
  let digits := countDigits verbose (s.dropWhile Text.isBlank)
  let n := digits.value.foldl (fun n c => 10 * n + (c.toNat - '0'.toNat)) 0
  if digits.value.isEmpty ∨ 2 ^ (32 : Nat) ≤ n then none
  else some ⟨n, skipCountSpace verbose digits.rest, by
    have := digits.shorter
    have := length_dropWhile_le Text.isBlank s
    have : (skipCountSpace verbose digits.rest).length ≤ digits.rest.length := by
      unfold skipCountSpace
      split
      · exact length_skipSpace_le _ _
      · exact length_dropWhile_le _ _
    omega⟩

/-- The bounds of a repetition, read after its opening brace. -/
def bounds? (verbose : Bool) (s : List Char) : Option (Taken s.length (Nat × Option Nat)) := do
  let least ← count? verbose (skipSpace verbose s)
  have hs := length_skipSpace_le verbose s
  have hl := least.shorter
  let follow ← char? least.rest
  have hf := follow.shorter
  if follow.value = '}' then return ⟨(least.value, some least.value), follow.rest, by omega⟩
  else if follow.value = ',' then
    let close ← next? verbose follow.rest
    if close.value = '}' then return ⟨(least.value, none), close.rest, by have := close.shorter; omega⟩
    else
      let most ← count? verbose (skipSpace verbose follow.rest)
      have hs := length_skipSpace_le verbose follow.rest
      let close ← char? most.rest
      if close.value = '}' ∧ least.value ≤ most.value then
        return ⟨(least.value, some most.value), close.rest, by have := most.shorter; have := close.shorter; omega⟩
      else none
  else none

/-- Whether no question mark follows that makes a repetition reluctant. -/
def isGreedy (s : List Char) : Bool :=
  s.head? != some '?'

/-- The text after the question mark that makes a repetition reluctant. -/
def skipReluctant (s : List Char) : List Char :=
  match s with
  | '?' :: r => r
  | _ => s

/-- Skipping the mark of a reluctant repetition leaves no more characters. -/
theorem length_skipReluctant_le (s : List Char) : (skipReluctant s).length ≤ s.length := by
  unfold skipReluctant
  split <;> simp

/-- A group that is still open: its parts so far and the branches before them, both in reverse. -/
structure OpenGroup where
  parts : List Tree
  branches : List Tree

namespace OpenGroup

/-- One more part. -/
def add (g : OpenGroup) (t : Tree) : OpenGroup :=
  { g with parts := t :: g.parts }

/-- Starts another branch. -/
def branch (g : OpenGroup) : OpenGroup :=
  ⟨[], Tree.ofParts g.parts.reverse :: g.branches⟩

/-- What the group holds. -/
def body (g : OpenGroup) : Tree :=
  Tree.ofBranches g.branch.branches.reverse

/-- Repeats the last part; flags cannot be repeated. -/
def repeat? (g : OpenGroup) (min : Nat) (max : Option Nat) (greedy : Bool) : Option OpenGroup :=
  match g.parts with
  | [] => none
  | .flags _ :: _ => none
  | part :: parts => some { g with parts := .repeated min max greedy part :: parts }

end OpenGroup

/-- What surrounds an open group: the group around it, whether it is kept, the flags it sets, and whether reading was
verbose before. -/
structure Surrounding where
  outer : OpenGroup
  kept : Bool
  changes : FlagChanges
  verbose : Bool

/-- How a group starts. -/
inductive GroupStart where
  /-- Flags for the rest of the group around. -/
  | flags (changes : FlagChanges)
  | plain (changes : FlagChanges)
  | numbered
  | named (name : String)

/-- Whether the flags turn verbose mode on or off. -/
def verboseAfter (changes : FlagChanges) (verbose : Bool) : Bool :=
  (changes.lookup .verbose).getD verbose

/-- Reads the start of a group after its parenthesis. Groups that look around are refused. -/
def groupStart? (verbose : Bool) (s : List Char) : Option (Taken (s.length + 1) GroupStart) := do
  have hs := length_skipSpace_le verbose s
  match h : skipSpace verbose s with
  | '?' :: 'P' :: '<' :: r =>
    let name ← groupName? r
    return (name.withValue (.named name.value)).weaken (by rw [h] at hs; simp only [List.length_cons] at hs; omega)
  | '?' :: '<' :: r =>
    if r.head? = some '=' ∨ r.head? = some '!' then none
    else
      let name ← groupName? r
      return (name.withValue (.named name.value)).weaken (by rw [h] at hs; simp only [List.length_cons] at hs; omega)
  | '?' :: r =>
    if r.head? = some '=' ∨ r.head? = some '!' then none
    else
      let f ← flags? [] false none r
      if f.value.2 = ')' then
        if f.value.1.isEmpty then none
        else return (f.withValue (.flags f.value.1)).weaken (by rw [h] at hs; simp only [List.length_cons] at hs; omega)
      else return (f.withValue (.plain f.value.1)).weaken (by rw [h] at hs; simp only [List.length_cons] at hs; omega)
  | r => return ⟨.numbered, r, by rw [← h]; omega⟩

/-- What an escape stands for outside of brackets. -/
def Escaped.toTree : Escaped → Tree
  | .literal l => .literal l
  | .shorthand s negated => .shorthand s negated
  | .property q negated => .property q negated
  | .textStart => .textStart
  | .textEnd => .textEnd
  | .word edge => .word edge

/-- Reads the rest of a pattern: `names` are the names of groups taken so far, `around` the open groups around `here`. -/
def groups? (verbose : Bool) (names : List String) (around : List Surrounding) (here : OpenGroup) (s : List Char) :
    Option Tree :=
  match next? verbose s with
  | none => if around.isEmpty then some here.body else none
  | some first => do
    have := first.shorter
    let c := first.value
    if c = '(' then
      let g ← groupStart? verbose first.rest
      have := g.shorter
      match g.value with
      | .flags changes => groups? (verboseAfter changes verbose) names around (here.add (.flags changes)) g.rest
      | .plain changes =>
        groups? (verboseAfter changes verbose) names (⟨here, false, changes, verbose⟩ :: around) ⟨[], []⟩ g.rest
      | .numbered => groups? verbose names (⟨here, true, [], verbose⟩ :: around) ⟨[], []⟩ g.rest
      | .named name =>
        if names.contains name then none
        else groups? verbose (name :: names) (⟨here, true, [], verbose⟩ :: around) ⟨[], []⟩ g.rest
    else if c = ')' then
      match around with
      | [] => none
      | o :: rest => groups? o.verbose names rest (o.outer.add (.group o.kept o.changes here.body)) first.rest
    else if c = '|' then groups? verbose names around here.branch first.rest
    else if c = '[' then
      let start ← openClass? verbose first.rest
      have := start.shorter
      let t ← classes? verbose [] start.value start.rest
      have := t.shorter
      match t.value with
      | .bracket negated body => groups? verbose names around (here.add (.bracket negated body)) t.rest
      | _ => none
    else if c = '?' ∨ c = '*' ∨ c = '+' then
      let more ← here.repeat? (if c = '+' then 1 else 0) (if c = '?' then some 1 else none) (isGreedy first.rest)
      have := length_skipReluctant_le first.rest
      groups? verbose names around more (skipReluctant first.rest)
    else if c = '{' then
      let b ← bounds? verbose first.rest
      have := b.shorter
      let more ← here.repeat? b.value.1 b.value.2 (isGreedy (skipSpace verbose b.rest))
      have := length_skipReluctant_le (skipSpace verbose b.rest)
      have := length_skipSpace_le verbose b.rest
      groups? verbose names around more (skipReluctant (skipSpace verbose b.rest))
    else if c = '\\' then
      let e ← escape? verbose first.rest
      have := e.shorter
      groups? verbose names around (here.add e.value.toTree) e.rest
    else
      let t : Tree :=
        if c = '.' then .dot else if c = '^' then .lineStart else if c = '$' then .lineEnd else .literal ⟨c, false⟩
      groups? verbose names around (here.add t) first.rest
termination_by s.length
decreasing_by all_goals omega

/-- How deeply a pattern may nest. -/
def depthLimit : Nat := 250

/-- Reads a whole pattern. -/
def read? (s : List Char) : Option Tree := do
  let t ← groups? false [] [] ⟨[], []⟩ s
  if t.depth ≤ depthLimit then some t else none

end Reader

end Pattern

end ConditionLang
