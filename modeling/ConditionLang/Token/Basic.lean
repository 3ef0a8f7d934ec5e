/-!
# Tokens

A token has a kind, a text and the bytes it takes up in the condition. The text of a quoted token stands without its
quotation marks and that of a dotted name without its dot; `Kind.spell` puts them back.
-/

namespace ConditionLang

/-- What the lexer does with a character that starts no token: skip it or refuse it. -/
inductive LexMode where
  | lenient
  | strict
  deriving Repr, DecidableEq, Inhabited

namespace Token

inductive Kind where
  | number
  | quoted
  | name
  | mark
  /-- A name with a dot before it, as in `.random` or `user.age`. -/
  | dotted
  deriving Repr, DecidableEq, Inhabited

/-- How a token of a kind is spelled in a condition. -/
def Kind.spell : Kind → List Char → List Char
  | .quoted, body => '"' :: body ++ ['"']
  | .dotted, body => '.' :: body
  | _, body => body

end Token

/-- A token and its span, in bytes from the start of the condition. -/
structure Token where
  kind : Token.Kind
  text : String
  start : Nat
  stop : Nat
  deriving Repr, DecidableEq, Inhabited

namespace Token

/-- Whether the token is the punctuation mark `m`. -/
def isMark (t : Token) (m : String) : Bool :=
  t.kind == .mark && t.text == m

/-- Whether the token is the word `w`. -/
def isWord (t : Token) (w : String) : Bool :=
  t.kind == .name && t.text == w

/-- The words that join conditions; they never name a variable. -/
def connectives : List String := ["and", "or", "not"]

/-- The punctuation marks of two characters. -/
def doubleMarks : List (List Char) :=
  [['>', '>'], ['=', '='], ['!', '='], ['>', '='], ['<', '='], ['.', '.'], ['/', '/']]

/-- The punctuation marks of one character. -/
def singleMarks : List Char :=
  ['+', '-', '*', '/', '%', '(', ')', ',', '[', ']', '{', '}', '.', '<', '>', '=']

/-- Whether a name may start with the character. -/
def isNameStart (c : Char) : Bool :=
  c.isAlpha || c == '_'

/-- Whether a name may go on with the character. -/
def isNamePart (c : Char) : Bool :=
  c.isAlphanum || c == '_'

/-- Whether a text has the shape of a name: letters, digits and underscores that do not start with a digit. -/
def isNameShaped : List Char → Bool
  | [] => false
  | c :: s => isNameStart c && s.all isNamePart

end Token

end ConditionLang
