import ConditionLang.Expr.Basic
import ConditionLang.Number.Decimal

/-!
# Canonical text of expressions

Every operator stands in parentheses with its operands, so the text shows how a condition was grouped.
-/

namespace ConditionLang

/-- Parts joined by a separator. -/
def joinWith (sep : List Char) : List (List Char) → List Char
  | [] => []
  | [part] => part
  | part :: rest => part ++ sep ++ joinWith sep rest

/-- A step as it is written after a variable. -/
def Access.canonical : Access → List Char
  | .property key => '.' :: key.toList
  | .index key => ['[', '"'] ++ key.toList ++ ['"', ']']

/-- A variable followed by its steps. -/
def Reference.canonical (r : Reference) : List Char :=
  r.name.toList ++ r.path.flatMap Access.canonical

namespace Expr

mutual

/-- The canonical text of an expression, as characters. -/
def canonicalChars : Expr → List Char
  | .number value => (Number.text value).toList
  | .truth value => (if value then "True" else "False").toList
  | .text value => '"' :: value.toList ++ ['"']
  | .sequence items => '[' :: joinWith [',', ' '] (canonicalItems items) ++ [']']
  | .dictionary [] => ['[', ']']
  | .dictionary (pair :: pairs) => '{' :: joinWith [',', ' '] (canonicalPairs (pair :: pairs)) ++ ['}']
  | .range first last => (Number.text first).toList ++ ['.', '.'] ++ (Number.text last).toList
  | .reference ref => ref.canonical
  | .binary op left right =>
    '(' :: left.canonicalChars ++ ' ' :: op.symbol.toList ++ ' ' :: right.canonicalChars ++ [')']
  | .negation operand => "(not ".toList ++ operand.canonicalChars ++ [')']
  | .binding value names => value.canonicalChars ++ " >> [".toList ++ joinWith [' '] (names.map String.toList) ++ [']']
  | .call name args => '.' :: name.toList ++ '(' :: joinWith [',', ' '] (canonicalItems args) ++ [')']
  | .method target name args =>
    target.canonicalChars ++ '.' :: name.toList ++ '(' :: joinWith [',', ' '] (canonicalItems args) ++ [')']

/-- The canonical texts of a list of expressions. -/
def canonicalItems : List Expr → List (List Char)
  | [] => []
  | item :: items => item.canonicalChars :: canonicalItems items

/-- The canonical texts of key and value pairs. -/
def canonicalPairs : List (String × Expr) → List (List Char)
  | [] => []
  | (key, value) :: pairs => (key.toList ++ " = ".toList ++ value.canonicalChars) :: canonicalPairs pairs

end

/-- The canonical text of an expression. -/
def canonical (e : Expr) : String :=
  String.ofList e.canonicalChars

end Expr

end ConditionLang
