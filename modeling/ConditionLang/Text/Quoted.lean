import ConditionLang.Unicode.Hidden

/-!
# Text between quotation marks

Messages show names, keys and tokens between quotation marks. Tabs, line ends, the null character, the backslash and the
surrounding mark are escaped by a backslash, hidden characters by their number in braces; all else stands as it is.
-/

namespace ConditionLang

namespace Text

/-- The lower-case hexadecimal number of a character, in braces after `\u`. -/
def codePointEscape (c : Char) : List Char :=
  ['\\', 'u', '{'] ++ Nat.toDigits 16 c.toNat ++ ['}']

/-- A character as it is written between two marks `mark`. -/
def escape (mark c : Char) : List Char :=
  if c = '\x00' then ['\\', '0']
  else if c = '\t' then ['\\', 't']
  else if c = '\r' then ['\\', 'r']
  else if c = '\n' then ['\\', 'n']
  else if c = '\\' || c = mark then ['\\', c]
  else if Unicode.hidden.contains c then codePointEscape c
  else [c]

/-- A text in double quotation marks. -/
def quoted (s : String) : String :=
  String.ofList ('"' :: s.toList.flatMap (escape '"') ++ ['"'])

/-- A character in single quotation marks. -/
def quotedChar (c : Char) : String :=
  String.ofList ('\'' :: escape '\'' c ++ ['\''])

end Text

end ConditionLang
