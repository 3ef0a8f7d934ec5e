import ConditionLang.Text.Blank
import ConditionLang.Token.Basic
import ConditionLang.Token.SyntaxError

/-!
# Cutting a condition into tokens

A condition is cut into lexemes from left to right, blanks between them dropped. A lexeme is a token, a character that
starts none, or a quotation mark that is never closed. `lexemes` does not depend on the mode; the mode only decides in
`tokensOf` whether a stray character is skipped or refused, so the strict tokens of a text are its lenient ones.
-/

namespace ConditionLang

/-- What the first characters of a text form. -/
inductive Lexeme where
  | token (kind : Token.Kind) (body : List Char)
  /-- A quotation mark without a partner, and all that follows it. -/
  | unclosed (body : List Char)
  | stray (c : Char)
  deriving Repr, DecidableEq, Inhabited

namespace Lexeme

/-- The characters a lexeme takes up. -/
def spelling : Lexeme → List Char
  | .token kind body => kind.spell body
  | .unclosed body => '"' :: body
  | .stray c => [c]

/-- The number at the front of a text: digits, and a fraction if the dot is followed by a digit. -/
def numeral (s : List Char) : List Char :=
  let whole := s.takeWhile Char.isDigit
  match s.drop whole.length with
  | '.' :: rest =>
    let fraction := rest.takeWhile Char.isDigit
    if fraction.isEmpty then whole else whole ++ '.' :: fraction
  | _ => whole

/-- The lexeme at the front of the text `c :: s`, where `c` is no blank: a mark of two characters before anything else,
and a mark of one character last. -/
def first (c : Char) (s : List Char) : Lexeme :=
  if Token.doubleMarks.contains (c :: s.take 1) then .token .mark (c :: s.take 1)
  else if c = '"' then
    let body := s.takeWhile (· != '"')
    if body.length < s.length then .token .quoted body else .unclosed body
  else if c.isDigit then .token .number (numeral (c :: s))
  else if c = '.' ∧ (s.head?.any Token.isNameStart) then .token .dotted (s.takeWhile Token.isNamePart)
  else if Token.isNameStart c then .token .name ((c :: s).takeWhile Token.isNamePart)
  else if Token.singleMarks.contains c then .token .mark [c]
  else .stray c

end Lexeme

/-- The lexemes of a text that starts at byte `position`, each with the byte it starts at. -/
def lexemes (position : Nat) : List Char → List (Nat × Lexeme)
  | [] => []
  | c :: s =>
    if Text.isBlank c then lexemes (position + c.utf8Size) s
    else
      let l := Lexeme.first c s
      (position, l) :: lexemes (position + Text.byteLength l.spelling) (s.drop (l.spelling.length - 1))
termination_by s => s.length
decreasing_by
  · simp
  · simp only [List.length_drop, List.length_cons]
    omega

/-- The tokens among lexemes, or the first lexeme that the mode refuses. -/
def tokensOf (mode : LexMode) : List (Nat × Lexeme) → Except SyntaxError (List Token)
  | [] => .ok []
  | (start, .token kind body) :: rest => do
    let tokens ← tokensOf mode rest
    return ⟨kind, String.ofList body, start, start + Text.byteLength (kind.spell body)⟩ :: tokens
  | (start, .unclosed body) :: _ => .error ⟨.unclosedQuote (String.ofList ('"' :: body)), start⟩
  | (start, .stray c) :: rest =>
    match mode with
    | .lenient => tokensOf mode rest
    | .strict => .error ⟨.strayCharacter c, start⟩

/-- The tokens of a condition. -/
def tokenize (mode : LexMode) (text : List Char) : Except SyntaxError (List Token) :=
  tokensOf mode (lexemes 0 text)

/-- The characters of a condition that lenient lexing skips, with their positions. -/
def strayCharacters (text : List Char) : List (Nat × Char) :=
  (lexemes 0 text).filterMap fun
    | (start, .stray c) => some (start, c)
    | _ => none

end ConditionLang
