import ConditionLang.Request
import ConditionLang.Text.Blank

/-!
# Arguments that stand for parts of a request or a block

A header is written `NAME:VALUE` and a query parameter `KEY=VALUE`, each split at the first mark. An expression becomes a
line of a block; one that is written with the marker of condition lines is such a line already.
-/

namespace ConditionLang

/-- Why an argument does not read. -/
inductive ArgumentError where
  | noColon (raw : String)
  | unnamedHeader (raw : String)
  | noEquals (raw : String)
  deriving Repr, DecidableEq, Inhabited

/-- The message of an error. -/
def ArgumentError.message : ArgumentError → String
  | .noColon raw => s!"expected NAME:VALUE, got '{raw}'"
  | .unnamedHeader raw => s!"empty header name in '{raw}'"
  | .noEquals raw => s!"expected KEY=VALUE, got '{raw}'"

namespace Argument

/-- Reads the name and the value of a header, without the blanks around them. -/
def header (raw : String) : Except ArgumentError (String × String) :=
  match Text.splitOnce [':'] raw.toList with
  | none => .error (.noColon raw)
  | some (name, value) =>
    if (Text.trim name).isEmpty then .error (.unnamedHeader raw)
    else .ok (String.ofList (Text.trim name), String.ofList (Text.trim value))

/-- Reads the key and the value of a query parameter. -/
def query (raw : String) : Except ArgumentError (String × String) :=
  match Text.splitOnce ['='] raw.toList with
  | none => .error (.noEquals raw)
  | some (key, value) => .ok (String.ofList key, String.ofList value)

/-- The line of a block that an expression stands for. -/
def line (expr : String) : String :=
  if (Text.trimStart expr.toList).head? = some '>' then expr else "> " ++ expr

/-- The text of the block that expressions stand for. -/
def block (exprs : List String) : String :=
  "\n".intercalate (exprs.map line)

end Argument

end ConditionLang
