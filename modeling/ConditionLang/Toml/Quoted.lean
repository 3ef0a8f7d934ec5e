import ConditionLang.Text.Hexadecimal
import ConditionLang.Text.Taken

/-!
# Quoted texts of TOML

Texts stand between quotation marks or between apostrophes. A backslash escapes a character between quotation marks and
is an ordinary character between apostrophes. Three marks open a text that may run over lines; a line end right after
them does not count.
-/

namespace ConditionLang

namespace Toml

/-- The character that a letter after a backslash stands for. -/
def escapedLetter? : Char → Option Char
  | '"' => some '"'
  | '\\' => some '\\'
  | 'b' => some '\x08'
  | 't' => some '\t'
  | 'n' => some '\n'
  | 'f' => some '\x0c'
  | 'r' => some '\r'
  | 'e' => some '\x1b'
  | _ => none

/-- How many hexadecimal digits follow a letter after a backslash. -/
def hexLength? : Char → Option Nat
  | 'x' => some 2
  | 'u' => some 4
  | 'U' => some 8
  | _ => none

/-- The character that an escape after its backslash stands for. -/
def escape? (s : List Char) : Option (Taken s.length Char) :=
  match s with
  | [] => none
  | c :: rest =>
    match escapedLetter? c, hexLength? c with
    | some e, _ => some ⟨e, rest, length_lt_succ rest⟩
    | none, some n =>
      if rest.length < n then none
      else (Text.hexChar? (rest.take n)).map fun e => ⟨e, rest.drop n, by simp only [List.length_drop, List.length_cons]; omega⟩
    | none, none => none

/-- The characters of a text on one line after its opening mark. -/
def lineRest? (mark : Char) (s : List Char) : Option (Taken s.length (List Char)) :=
  match s with
  | [] => none
  | c :: rest =>
    if c = mark then some ⟨[], rest, length_lt_succ rest⟩
    else if c = '\n' then none
    else if c = '\\' ∧ mark = '"' then
      match escape? rest with
      | none => none
      | some e =>
        have shorter := e.length_rest_lt
        (lineRest? mark e.rest).map fun t =>
          (t.withValue (e.value :: t.value)).weaken (by simp only [List.length_cons]; omega)
    else (lineRest? mark rest).map fun t => (t.withValue (c :: t.value)).after
termination_by s.length

/-- Whether a text starts with three marks. -/
def opensLines (mark : Char) (s : List Char) : Bool :=
  [mark, mark, mark].isPrefixOf s

/-- The text after blanks within a line. -/
def skipSpaces (s : List Char) : List Char :=
  s.dropWhile fun c => c == ' ' || c == '\t'

/-- The text after blanks and line ends. -/
def skipLineEnds (s : List Char) : List Char :=
  s.dropWhile fun c => c == ' ' || c == '\t' || c == '\n'

/-- The characters of a text over lines after its opening marks. Of more than three marks at its end all but the last
three belong to it, and a backslash at the end of a line takes the line end and all blanks after it away. -/
def linesRest? (mark : Char) (s : List Char) : Option (Taken s.length (List Char)) :=
  match s with
  | [] => none
  | c :: rest =>
    if opensLines mark (c :: rest) then
      let extra := ((c :: rest).drop 3).take 2 |>.takeWhile (· == mark)
      some ⟨extra, (c :: rest).drop (3 + extra.length), by simp only [List.length_drop, List.length_cons]; omega⟩
    else if c = '\\' ∧ mark = '"' then
      if (skipSpaces rest).head? = some '\n' then
        have le : (skipLineEnds rest).length ≤ rest.length := length_dropWhile_le _ rest
        (linesRest? mark (skipLineEnds rest)).map fun t => t.weaken (by simp only [List.length_cons]; omega)
      else
        match escape? rest with
        | none => none
        | some e =>
          have shorter := e.length_rest_lt
          (linesRest? mark e.rest).map fun t =>
            (t.withValue (e.value :: t.value)).weaken (by simp only [List.length_cons]; omega)
    else (linesRest? mark rest).map fun t => (t.withValue (c :: t.value)).after
termination_by s.length
decreasing_by
  all_goals simp only [List.length_cons]
  all_goals omega

/-- A text on one line. -/
def lineText? (s : List Char) : Option (Taken s.length String) :=
  match s with
  | [] => none
  | c :: rest =>
    if c = '"' ∨ c = '\'' then
      (lineRest? c rest).map fun t => (t.withValue (String.ofList t.value)).after
    else none

/-- A text on one line or over lines. -/
def text? (s : List Char) : Option (Taken s.length String) :=
  match s with
  | [] => none
  | c :: rest =>
    if (c = '"' ∨ c = '\'') ∧ opensLines c (c :: rest) then
      let body := if (rest.drop 2).head? = some '\n' then rest.drop 3 else rest.drop 2
      have le : body.length ≤ rest.length := by
        simp only [body]; split <;> simp
      (linesRest? c body).map fun t =>
        (t.withValue (String.ofList t.value)).weaken (by simp only [List.length_cons]; omega)
    else lineText? (c :: rest)

end Toml

end ConditionLang
