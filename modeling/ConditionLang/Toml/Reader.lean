import ConditionLang.Toml.Quoted
import ConditionLang.Toml.Scalar

/-!
# Reading TOML

A document is a sequence of lines with a header, a key and its value, or nothing, each with a comment at its end or none.
Arrays and tables in braces run over lines. The reader works on a text whose line ends are line feeds and which has no
other control characters but tabs; `read?` sees to that.
-/

namespace ConditionLang

namespace Toml

/-- The text after blanks, line ends and comments. -/
def skipLayout (s : List Char) : List Char :=
  match s with
  | [] => []
  | c :: rest =>
    if c = ' ' ∨ c = '\t' ∨ c = '\n' then skipLayout rest
    else if c = '#' then skipLayout (rest.dropWhile (· != '\n'))
    else c :: rest
termination_by s.length
decreasing_by
  · simp
  · have := length_dropWhile_le (· != '\n') rest
    simp only [List.length_cons]
    omega

/-- Skipping blanks, comments and line ends leaves no more characters. -/
theorem length_skipLayout_le (s : List Char) : (skipLayout s).length ≤ s.length := by
  fun_induction skipLayout s with
  | case1 => simp
  | case2 c rest _ ih => exact Nat.le_trans ih (Nat.le_succ _)
  | case3 rest _ ih => exact Nat.le_trans ih (Nat.le_trans (length_dropWhile_le _ rest) (Nat.le_succ _))
  | case4 => exact Nat.le_refl _

/-! ## Keys -/

/-- The characters of keys without marks. -/
def isBare (c : Char) : Bool :=
  c.isAlphanum || c == '_' || c == '-'

/-- A part of a key. -/
def keyPart? (s : List Char) : Option (Taken s.length String) :=
  match s with
  | [] => none
  | c :: rest =>
    if isBare c then
      some ⟨String.ofList (c :: rest.takeWhile isBare), rest.dropWhile isBare,
        Nat.lt_succ_of_le (length_dropWhile_le _ rest)⟩
    else lineText? (c :: rest)

/-- The key with a part in front. -/
def Key.cons (part : String) (key : Key) : Key :=
  { key with path := part :: key.path }

/-- What follows a character after blanks and the blanks after it is shorter. -/
theorem length_skipSpaces_lt {s t rest : List Char} {c : Char} (hs : s.length < t.length)
    (h : skipSpaces s = c :: rest) : (skipSpaces rest).length < t.length := by
  have le : (skipSpaces s).length ≤ s.length := length_dropWhile_le _ s
  have le' : (skipSpaces rest).length ≤ rest.length := length_dropWhile_le _ rest
  rw [h, List.length_cons] at le
  omega

/-- Parts of a key with dots between them. -/
def key? (s : List Char) : Option (Taken s.length Key) :=
  match keyPart? s with
  | none => none
  | some first =>
    match h : skipSpaces first.rest with
    | '.' :: rest =>
      have shorter : (skipSpaces rest).length < s.length := length_skipSpaces_lt first.shorter h
      (key? (skipSpaces rest)).map fun t => (t.withValue (t.value.cons first.value)).weaken (Nat.le_of_lt shorter)
    | _ => some (first.withValue ⟨[], first.value⟩)
termination_by s.length

/-! ## Values -/

/-- The characters of words. -/
def isWordPart (c : Char) : Bool :=
  c.isAlphanum || c == '_' || c == '-' || c == '+' || c == '.' || c == ':'

/-- Whether a word is a date and a time of the day follows it after a blank. -/
def hasTimeAfter (word rest : List Char) : Bool :=
  afterDate? word == some [] && rest.head? == some ' ' && rest.tail.head?.any Char.isDigit

/-- A value that is neither an array nor a table. -/
def simple? (s : List Char) : Option (Taken s.length Value) :=
  match s with
  | [] => none
  | c :: rest =>
    if isWordPart c then
      let word := c :: rest.takeWhile isWordPart
      let after := rest.dropWhile isWordPart
      have le : after.length ≤ rest.length := length_dropWhile_le _ rest
      if hasTimeAfter word after then
        (scalar? (word ++ ' ' :: after.tail.takeWhile isWordPart)).map fun v =>
          ⟨v, after.tail.dropWhile isWordPart, by
            have := length_dropWhile_le isWordPart after.tail
            simp only [List.length_tail, List.length_cons] at *
            omega⟩
      else (scalar? word).map fun v => ⟨v, after, Nat.lt_succ_of_le le⟩
    else (text? (c :: rest)).map fun t => t.withValue (.text t.value)

/-- Elements with commas between them up to the mark that closes them. There may be no elements, and a comma may follow
the last. -/
def elements? {α : Type} (close : Char) (element : (s : List Char) → Option (Taken s.length α)) (s : List Char) :
    Option (Taken s.length (List α)) :=
  have le := length_skipLayout_le s
  match h : skipLayout s with
  | [] => none
  | c :: rest =>
    if c = close then some ⟨[], rest, by grind⟩
    else
      match element (c :: rest) with
      | none => none
      | some first =>
        have shorter := first.shorter
        have le' := length_skipLayout_le first.rest
        match h' : skipLayout first.rest with
        | [] => none
        | c' :: rest' =>
          have shorter' : rest'.length < s.length := by grind
          if c' = close then some ⟨[first.value], rest', shorter'⟩
          else if c' = ',' then
            (elements? close element rest').map fun t =>
              (t.withValue (first.value :: t.value)).weaken (Nat.le_of_lt shorter')
          else none
termination_by s.length

/-- A key, an equals sign and a value. -/
def pair? (value : (s : List Char) → Option (Taken s.length Value)) (s : List Char) :
    Option (Taken s.length (Key × Value)) :=
  match key? s with
  | none => none
  | some key =>
    have shorter := key.shorter
    have le : (skipSpaces key.rest).length ≤ key.rest.length := length_dropWhile_le _ key.rest
    match h : skipSpaces key.rest with
    | '=' :: rest =>
      have le' : (skipSpaces rest).length ≤ rest.length := length_dropWhile_le _ rest
      (value (skipSpaces rest)).map fun t => (t.withValue (key.value, t.value)).weaken (by grind)
    | _ => none

/-- A value with at most `depth` arrays and tables inside each other. -/
def value? : Nat → (s : List Char) → Option (Taken s.length Value)
  | 0, s => simple? s
  | depth + 1, s =>
    match s with
    | '[' :: rest => (elements? ']' (value? depth) rest).map fun t => (t.withValue (.array t.value)).after
    | '{' :: rest => do
      let t ← elements? '}' (pair? (value? depth)) rest
      let table ← Table.defineAll ⟨.braces, []⟩ t.value
      return (t.withValue table.value).after
    | s => simple? s

/-! ## Lines -/

/-- What a line of a document holds. -/
inductive Line where
  | header (key : Key) (inArray : Bool)
  | pair (key : Key) (value : Value)
  deriving Repr, Inhabited

/-- A header in brackets. -/
def header? (s : List Char) : Option (Taken s.length Line) :=
  match s with
  | '[' :: rest =>
    let inArray := rest.head? == some '['
    let inner := if inArray then rest.tail else rest
    have le : inner.length ≤ rest.length := by simp only [inner]; split <;> simp
    have le' : (skipSpaces inner).length ≤ inner.length := length_dropWhile_le _ inner
    match key? (skipSpaces inner) with
    | none => none
    | some key =>
      have shorter := key.shorter
      have le'' : (skipSpaces key.rest).length ≤ key.rest.length := length_dropWhile_le _ key.rest
      match h : skipSpaces key.rest, inArray with
      | ']' :: ']' :: rest, true => some ⟨.header key.value true, rest, by grind⟩
      | ']' :: rest, false => some ⟨.header key.value false, rest, by grind⟩
      | _, _ => none
  | _ => none

/-- A header, or a key and its value. -/
def line? (s : List Char) : Option (Taken s.length Line) :=
  match s with
  | '[' :: rest => header? ('[' :: rest)
  | s => (pair? (value? 80) s).map fun t => t.withValue (.pair t.value.1 t.value.2)

/-- Whether nothing but a comment is left of a line. -/
def endsLine (s : List Char) : Bool :=
  match skipSpaces s with
  | [] => true
  | c :: _ => c == '\n' || c == '#'

/-- The lines of a document. -/
def lines? (s : List Char) : Option (List Line) :=
  have le := length_skipLayout_le s
  match h : skipLayout s with
  | [] => some []
  | c :: rest =>
    match line? (c :: rest) with
    | none => none
    | some first =>
      have shorter := first.shorter
      have shorter' : first.rest.length < s.length := by grind
      if endsLine first.rest then (lines? first.rest).map (first.value :: ·) else none
termination_by s.length

/-- The pairs up to the first header, and the sections from it on. -/
def sectionsOf : List Line → List (Key × Value) × List Section
  | [] => ([], [])
  | .pair key value :: rest =>
    let (pairs, sections) := sectionsOf rest
    ((key, value) :: pairs, sections)
  | .header key inArray :: rest =>
    let (pairs, sections) := sectionsOf rest
    ([], ⟨key, inArray, pairs⟩ :: sections)

/-! ## Documents -/

/-- A document with line feeds for line ends. Of control characters it may hold tabs only. -/
def plainLines? : List Char → Option (List Char)
  | [] => some []
  | '\r' :: '\n' :: s => (plainLines? s).map ('\n' :: ·)
  | c :: s =>
    if (c.toNat < 0x20 ∧ c ≠ '\t' ∧ c ≠ '\n') ∨ c.toNat = 0x7F then none else (plainLines? s).map (c :: ·)

/-- A text without a byte order mark in front. -/
def dropMark : List Char → List Char
  | '\uFEFF' :: s => s
  | s => s

/-- The table that a TOML document holds. -/
def read? (s : List Char) : Option (Entries Value) := do
  let lines ← lines? (← plainLines? (dropMark s))
  let (pairs, sections) := sectionsOf lines
  document? pairs sections

end Toml

end ConditionLang
