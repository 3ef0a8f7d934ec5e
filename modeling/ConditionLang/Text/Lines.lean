/-!
# Lines of a text

Lines end at a line feed, and a carriage return right before it belongs to the end of the line. A text that ends with a
line feed has no empty line after it, and a carriage return at the end of the last line is kept.
-/

namespace ConditionLang

namespace Text

/-- A line without the carriage return at its end. -/
def dropReturn (line : List Char) : List Char :=
  if line.getLast? = some '\r' then line.dropLast else line

/-- The lines of a text after the characters `line` of the first of them, which are given in reverse. -/
def linesAfter (line : List Char) : List Char → List (List Char)
  | [] => if line.isEmpty then [] else [line.reverse]
  | c :: s => if c = '\n' then dropReturn line.reverse :: linesAfter [] s else linesAfter (c :: line) s

/-- The lines of a text. -/
def lines (s : List Char) : List (List Char) :=
  linesAfter [] s

end Text

end ConditionLang
