/-!
# Expressions

The syntax tree of a condition: literals, references to variables, operators, bindings and calls.
-/

namespace ConditionLang

/-- A step from a table to one of its entries. -/
inductive Access where
  /-- A key after a dot, `user.name`. -/
  | property (key : String)
  /-- A key in brackets, `headers["Accept"]` or `items[0]`; a number is kept as it is spelled. -/
  | index (key : String)
  deriving Repr, DecidableEq, Inhabited

/-- The key of a step. -/
def Access.key : Access → String
  | .property key => key
  | .index key => key

/-- A variable and the steps taken from its value. -/
structure Reference where
  name : String
  path : List Access
  deriving Repr, DecidableEq, Inhabited

/-- The operators between two operands. -/
inductive Operator where
  | add | sub | mul | div | mod | floorDiv
  | eq | ne | gt | lt | ge | le
  | concat
  | and | or
  deriving Repr, DecidableEq, Inhabited

namespace Operator

/-- How an operator is written. -/
def symbol : Operator → String
  | .add => "+"
  | .sub => "-"
  | .mul => "*"
  | .div => "/"
  | .mod => "%"
  | .floorDiv => "//"
  | .eq => "=="
  | .ne => "!="
  | .gt => ">"
  | .lt => "<"
  | .ge => ">="
  | .le => "<="
  | .concat => ".."
  | .and => "and"
  | .or => "or"

/-- Whether an operator compares. -/
def isComparison : Operator → Bool
  | .eq | .ne | .gt | .lt | .ge | .le => true
  | _ => false

/-- Whether an operator computes a number. -/
def isArithmetic : Operator → Bool
  | .add | .sub | .mul | .div | .mod | .floorDiv => true
  | _ => false

end Operator

inductive Expr where
  | number (value : Float)
  | truth (value : Bool)
  | text (value : String)
  | sequence (items : List Expr)
  /-- Key and value pairs in the order they are written. -/
  | dictionary (pairs : List (String × Expr))
  /-- The numbers from `first` to `last`, both included. -/
  | range (first last : Float)
  | reference (ref : Reference)
  | binary (op : Operator) (left right : Expr)
  | negation (operand : Expr)
  /-- `value >> a` binds a name, `value >> a, b` takes a table apart. -/
  | binding (value : Expr) (names : List String)
  /-- A call of a built-in by itself, `.random_int 1 10`. -/
  | call (name : String) (args : List Expr)
  /-- A call of a built-in on a target, `email.split "@"`. -/
  | method (target : Expr) (name : String) (args : List Expr)
  deriving Repr, Inhabited

namespace Expr

/-- A variable without steps. -/
def ofName (name : String) : Expr :=
  .reference ⟨name, []⟩

/-- Whether the expression as a whole binds names. -/
def isBinding : Expr → Bool
  | .binding _ _ => true
  | _ => false

end Expr

end ConditionLang
