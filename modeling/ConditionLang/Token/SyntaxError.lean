import ConditionLang.Text.Quoted

/-!
# Syntax errors

A condition that does not read fails with a cause and the position of the first character or token that does not fit.
-/

namespace ConditionLang

/-- What a condition that ends too early still needs. -/
inductive Wanted where
  | expression
  | variableName
  | indexKey
  | closingBrace
  | mark (m : String)
  deriving Repr, DecidableEq, Inhabited

/-- How a message names what is wanted. -/
def Wanted.describe : Wanted → String
  | .expression => "an expression"
  | .variableName => "variable name"
  | .indexKey => "index key"
  | .closingBrace => "'\x7d'"
  | .mark m => Text.quoted m

namespace SyntaxError

/-- Why a condition does not read. Each cause but the early end holds the text at fault. -/
inductive Cause where
  /-- A quotation mark that is never closed, and all that follows it. -/
  | unclosedQuote (found : String)
  | strayCharacter (found : Char)
  | unexpectedToken (found : String)
  /-- Another token stands where the mark `wanted` must stand. -/
  | missingMark (wanted found : String)
  | notAVariableName (found : String)
  | notAnIndexKey (found : String)
  /-- A table that mixes single entries with `key = value` pairs. -/
  | mixedTable (found : String)
  | invalidNumber (found : String)
  | endOfCondition (wanted : Wanted)
  deriving Repr, DecidableEq, Inhabited

/-- The text of the offending token or character, unless the condition ends too early. -/
def Cause.found? : Cause → Option String
  | .unclosedQuote found | .unexpectedToken found | .missingMark _ found | .notAVariableName found
  | .notAnIndexKey found | .mixedTable found | .invalidNumber found => some found
  | .strayCharacter found => some found.toString
  | .endOfCondition _ => none

/-- The message of a cause. -/
def Cause.message : Cause → String
  | .unclosedQuote _ => "unterminated string literal"
  | .strayCharacter found => "unexpected character " ++ Text.quotedChar found
  | .unexpectedToken found => "unexpected token " ++ Text.quoted found
  | .missingMark wanted found => "expected " ++ Text.quoted wanted ++ ", got " ++ Text.quoted found
  | .notAVariableName found => "expected variable name after '>>', got " ++ Text.quoted found
  | .notAnIndexKey found => "expected string or number in brackets, got " ++ Text.quoted found
  | .mixedTable _ => "table mixes array elements and key = value pairs"
  | .invalidNumber found => "invalid number " ++ Text.quoted found
  | .endOfCondition wanted => "unexpected end of expression, expected " ++ wanted.describe

end SyntaxError

/-- A cause and the byte at which the offending text, or the end of the condition, stands. -/
structure SyntaxError where
  cause : SyntaxError.Cause
  position : Nat
  deriving Repr, DecidableEq, Inhabited

namespace SyntaxError

/-- The message of an error, without its position. -/
def message (e : SyntaxError) : String :=
  e.cause.message

/-- The text of an error as reports show it. -/
def describe (e : SyntaxError) : String :=
  e.message ++ " at position " ++ toString e.position

end SyntaxError

end ConditionLang
