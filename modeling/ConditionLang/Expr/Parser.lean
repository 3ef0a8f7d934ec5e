import ConditionLang.Expr.Basic
import ConditionLang.Number.Decimal
import ConditionLang.Builtin
import ConditionLang.Token.Lexer

/-!
# From tokens to expressions

Operators bind in the order of `Level`, loosest first; `not` binds tighter than all of them, and below it stand the
primary expressions. Every step that succeeds hands on a cursor together with the proof that fewer tokens are left, so
the parser ends on every list of tokens.
-/

namespace ConditionLang

/-- A place in a list of tokens: where the token before it ended, the tokens left, and where the list ends. -/
structure Cursor where
  before : Option Nat
  rest : List Token
  limit : Nat
  deriving Repr, DecidableEq, Inhabited

namespace Cursor

/-- The start of a list of tokens. -/
def start (tokens : List Token) : Cursor :=
  ⟨none, tokens, (tokens.getLast?.map (·.stop)).getD 0⟩

/-- How many tokens are left. -/
def size (c : Cursor) : Nat :=
  c.rest.length

/-- The next token. -/
def peek? (c : Cursor) : Option Token :=
  c.rest.head?

/-- The place after the next token. -/
def skip (c : Cursor) : Cursor :=
  match c.rest with
  | [] => c
  | token :: rest => ⟨some token.stop, rest, c.limit⟩

/-- Going past a token takes one off the tokens ahead. -/
theorem size_skip {c : Cursor} {t : Token} (h : c.peek? = some t) : c.skip.size + 1 = c.size := by
  unfold skip size peek? at *
  split <;> simp_all

theorem size_skip_lt {c : Cursor} {t : Token} (h : c.peek? = some t) : c.skip.size < c.size := by
  have := size_skip h
  omega

theorem size_skip_le (c : Cursor) : c.skip.size ≤ c.size := by
  unfold skip size
  split <;> simp_all

/-- Whether the next token starts where the token before it ended. -/
def isAdjacent (c : Cursor) : Bool :=
  match c.before, c.peek? with
  | some stop, some token => stop == token.start
  | _, _ => false

/-- Whether the next token is the mark `m`. -/
def atMark (c : Cursor) (m : String) : Bool :=
  c.peek?.any (·.isMark m)

/-- Going past a mark takes one off the tokens ahead. -/
theorem size_skip_of_atMark {c : Cursor} {m : String} (h : c.atMark m = true) : c.skip.size + 1 = c.size := by
  obtain ⟨t, ht, -⟩ := (Option.any_eq_true _ _).1 h
  exact size_skip ht

end Cursor

/-- A syntax error and the place at which it was found. -/
structure Failure where
  error : SyntaxError
  place : Cursor
  deriving Repr, DecidableEq, Inhabited

/-- Fails at a token. -/
def Failure.at (token : Token) (cause : String → SyntaxError.Cause) (place : Cursor) : Failure :=
  ⟨⟨cause token.text, token.start⟩, place⟩

/-- Fails because the condition ends too early. -/
def Failure.atEnd (wanted : Wanted) (place : Cursor) : Failure :=
  ⟨⟨.endOfCondition wanted, place.limit⟩, place⟩

/-- A value read from tokens, and the place after them, where fewer than `n` tokens are left. -/
structure Parsed (n : Nat) (α : Type) where
  value : α
  next : Cursor
  fewer : next.size < n

namespace Parsed

/-- Another value in place of the one that was read. -/
def withValue {n : Nat} {α β : Type} (p : Parsed n α) (value : β) : Parsed n β :=
  ⟨value, p.next, p.fewer⟩

/-- The same value, seen from an earlier place. -/
def weaken {m n : Nat} {α : Type} (p : Parsed m α) (h : m ≤ n) : Parsed n α :=
  ⟨p.value, p.next, Nat.lt_of_lt_of_le p.fewer h⟩

end Parsed

namespace Expr

/-- The levels at which operators bind, loosest first. -/
inductive Level where
  | disjunction
  | conjunction
  | binding
  | comparison
  | concatenation
  | sum
  | product
  deriving Repr, DecidableEq, Inhabited

namespace Level

/-- The next tighter level. -/
def tighter? : Level → Option Level
  | .disjunction => some .conjunction
  | .conjunction => some .binding
  | .binding => some .comparison
  | .comparison => some .concatenation
  | .concatenation => some .sum
  | .sum => some .product
  | .product => none

/-- How many levels bind at least as tightly. -/
def rank : Level → Nat
  | .disjunction => 7
  | .conjunction => 6
  | .binding => 5
  | .comparison => 4
  | .concatenation => 3
  | .sum => 2
  | .product => 1

@[simp] theorem rank_disjunction : rank .disjunction = 7 := rfl

/-- The levels on the way to tighter operators come to an end. -/
theorem rank_tighter {l m : Level} (h : l.tighter? = some m) : m.rank < l.rank := by
  cases l <;> simp only [tighter?, Option.some.injEq, reduceCtorEq] at h <;> subst h <;> decide

/-- The operators of a level. -/
def operators : Level → List Operator
  | .disjunction => [.or]
  | .conjunction => [.and]
  | .binding => []
  | .comparison => [.eq, .ne, .gt, .lt, .ge, .le]
  | .concatenation => [.concat]
  | .sum => [.add, .sub]
  | .product => [.mul, .div, .mod, .floorDiv]

/-- Whether an operator of the level may follow another without parentheses. Comparisons may not. -/
def chains (l : Level) : Bool :=
  l != .comparison

end Level

end Expr

/-- Whether a token spells an operator. -/
def Token.spells (t : Token) (op : Operator) : Bool :=
  match op with
  | .and | .or => t.isWord op.symbol
  | _ => t.isMark op.symbol

namespace Parser

/-- The operator of a level that the next token spells. -/
def operator? (l : Expr.Level) (c : Cursor) : Option Operator :=
  c.peek?.bind fun t => l.operators.find? t.spells

/-- An operator is one token. -/
theorem size_skip_of_operator {l : Expr.Level} {c : Cursor} {op : Operator} (h : operator? l c = some op) :
    c.skip.size + 1 = c.size := by
  obtain ⟨t, ht, -⟩ := Option.bind_eq_some_iff.1 h
  exact Cursor.size_skip ht

/-- The number that a token spells. -/
def number (t : Token) (place : Cursor) : Except Failure Float :=
  match Number.read? t.text.toList with
  | some value => .ok value
  | none => .error (.at t .invalidNumber place)

/-- Steps over the mark `m`. -/
def mark (m : String) (c : Cursor) : Except Failure (Parsed c.size Unit) :=
  match h : c.peek? with
  | some t =>
    if t.isMark m then .ok ⟨(), c.skip, Cursor.size_skip_lt h⟩
    else .error (.at t (.missingMark m) c)
  | none => .error (.atEnd (.mark m) c)

/-- Reads a name to bind. -/
def boundName (c : Cursor) : Except Failure (Parsed c.size String) :=
  match h : c.peek? with
  | some t =>
    if t.kind = .name then .ok ⟨t.text, c.skip, Cursor.size_skip_lt h⟩
    else .error (.at t .notAVariableName c.skip)
  | none => .error (.atEnd .variableName c)

/-- Reads names to bind, separated by commas. -/
def boundNames (c : Cursor) : Except Failure (Parsed c.size (List String)) := do
  let first ← boundName c
  if h : first.next.atMark "," then
    have hs := Cursor.size_skip_of_atMark h
    have hf := first.fewer
    let more ← boundNames first.next.skip
    return ⟨first.value :: more.value, more.next, by have := more.fewer; omega⟩
  else
    return first.withValue [first.value]
termination_by c.size
decreasing_by omega

/-- Reads the key between brackets. -/
def indexKey (c : Cursor) : Except Failure (Parsed c.size String) :=
  match h : c.peek? with
  | some t =>
    if t.kind = .quoted ∨ t.kind = .number then .ok ⟨t.text, c.skip, Cursor.size_skip_lt h⟩
    else .error (.at t .notAnIndexKey c.skip)
  | none => .error (.atEnd .indexKey c)

/-- Reads the steps after a variable: keys in brackets, and joined dotted names up to the first that is a built-in. -/
def path (c : Cursor) : Except Failure (Parsed (c.size + 1) (List Access)) :=
  match h : c.peek? with
  | some t =>
    have hs := Cursor.size_skip h
    if t.isMark "[" then do
      let key ← indexKey c.skip
      let close ← mark "]" key.next
      have hk := key.fewer
      have hc := close.fewer
      let more ← path close.next
      return ⟨.index key.value :: more.value, more.next, by have := more.fewer; omega⟩
    else if t.kind = .dotted ∧ c.isAdjacent ∧ ¬ isBuiltin t.text then do
      let more ← path c.skip
      return ⟨.property t.text :: more.value, more.next, by have := more.fewer; omega⟩
    else .ok ⟨[], c, Nat.lt_succ_self _⟩
  | none => .ok ⟨[], c, Nat.lt_succ_self _⟩
termination_by c.size
decreasing_by all_goals omega

/-- Whether the next token can start an argument of a call. -/
def startsArgument (c : Cursor) : Bool :=
  match c.peek? with
  | none => false
  | some t =>
    match t.kind with
    | .number | .quoted => true
    | .name => !Token.connectives.contains t.text
    | .dotted => !c.isAdjacent
    | .mark => t.text == "(" || t.text == "\x7b"

/-- The last number of a range whose first number is the token `first`, just before the cursor: two dots and a number
that follow without a blank. -/
def rangeEnd? (first : Token) (c : Cursor) : Option Token :=
  match c.rest with
  | dots :: last :: _ =>
    if dots.isMark ".." ∧ dots.start = first.stop ∧ last.kind = .number ∧ last.start = dots.stop then some last else none
  | _ => none

/-- The end of a range takes two tokens. -/
theorem size_skip_skip_of_rangeEnd {t last : Token} {c : Cursor} (h : rangeEnd? t c = some last) :
    c.skip.skip.size + 2 = c.size := by
  unfold rangeEnd? at h
  split at h
  · rename_i hc
    simp [Cursor.size, Cursor.skip, hc]
  · cases h

/-- The entries of a table read so far: single expressions, or `key = value` pairs. -/
inductive Entries where
  | items (es : List Expr)
  | pairs (ps : List (String × Expr))

namespace Entries

/-- The table of the entries. -/
def toExpr : Entries → Expr
  | .items es => .sequence es
  | .pairs ps => .dictionary ps

/-- Whether a pair may follow. -/
def takesPair : Entries → Bool
  | .items es => es.isEmpty
  | .pairs _ => true

/-- Whether a single expression may follow. -/
def takesItem : Entries → Bool
  | .items _ => true
  | .pairs ps => ps.isEmpty

/-- One more pair. -/
def addPair (key : String) (value : Expr) : Entries → Entries
  | .items _ => .pairs [(key, value)]
  | .pairs ps => .pairs (ps ++ [(key, value)])

/-- One more expression. -/
def addItem (e : Expr) : Entries → Entries
  | .items es => .items (es ++ [e])
  | .pairs _ => .items [e]

end Entries

/-- The key of a `key = value` pair at the cursor. -/
def pairKey? (c : Cursor) : Option String :=
  match c.rest with
  | key :: eq :: _ => if key.kind = .name ∧ eq.isMark "=" then some key.text else none
  | _ => none

/-- The key of a pair and its colon take two tokens. -/
theorem size_skip_skip_of_pairKey {c : Cursor} {key : String} (h : pairKey? c = some key) :
    c.skip.skip.size + 2 = c.size := by
  unfold pairKey? at h
  split at h
  · rename_i hc
    simp [Cursor.size, Cursor.skip, hc]
  · cases h

/-- The cursor after a comma, if there is one. -/
def skipComma (c : Cursor) : Cursor :=
  if c.atMark "," then c.skip else c

/-- An optional comma leaves no more tokens ahead. -/
theorem size_skipComma (c : Cursor) : (skipComma c).size ≤ c.size := by
  unfold skipComma
  split
  · exact c.size_skip_le
  · exact Nat.le_refl _

mutual

/-- Reads an expression whose loosest operators are those of the level. -/
def level (l : Expr.Level) (c : Cursor) : Except Failure (Parsed c.size Expr) := do
  let left ← operand l c
  have hl := left.fewer
  let whole ← chain l left.value left.next
  return whole.weaken hl
termination_by (c.size, 2 * l.rank + 3)

/-- Reads an operand of the operators of the level. -/
def operand (l : Expr.Level) (c : Cursor) : Except Failure (Parsed c.size Expr) :=
  match h : l.tighter? with
  | some m =>
    have := Expr.Level.rank_tighter h
    level m c
  | none => unary c
termination_by (c.size, 2 * l.rank + 2)

/-- Joins operands to the expression `left` read so far, while operators of the level follow. -/
def chain (l : Expr.Level) (left : Expr) (c : Cursor) : Except Failure (Parsed (c.size + 1) Expr) :=
  if hb : l = .binding ∧ c.atMark ">>" then do
    have hs := Cursor.size_skip_of_atMark hb.2
    let names ← boundNames c.skip
    have hn := names.fewer
    let whole ← chain l (.binding left names.value) names.next
    return whole.weaken (by omega)
  else
    match h : operator? l c with
    | none => .ok ⟨left, c, Nat.lt_succ_self _⟩
    | some op => do
      have hs := size_skip_of_operator h
      let right ← operand l c.skip
      have hr := right.fewer
      if l.chains then
        let whole ← chain l (.binary op left right.value) right.next
        return whole.weaken (by omega)
      else
        return (right.withValue (.binary op left right.value)).weaken (by omega)
termination_by (c.size, 0)

/-- Reads a primary expression after any number of `not`. -/
def unary (c : Cursor) : Except Failure (Parsed c.size Expr) :=
  match h : c.peek? with
  | some t =>
    have hs := Cursor.size_skip h
    if t.isWord "not" then do
      let operand ← unary c.skip
      return (operand.withValue (.negation operand.value)).weaken (by omega)
    else primary c
  | none => primary c
termination_by (c.size, 1)

/-- Reads a literal, a variable, a call, a table or an expression in parentheses, and the method calls that follow it. -/
def primary (c : Cursor) : Except Failure (Parsed c.size Expr) :=
  match h : c.peek? with
  | none => .error (.atEnd .expression c)
  | some t => do
    have hs := Cursor.size_skip h
    let base ← base t c.skip
    have hb := base.fewer
    let whole ← methods base.value base.next
    return whole.weaken (by omega)
termination_by (c.size, 0)

/-- Reads the rest of a primary expression that starts with the token `t`, just before the cursor. -/
def base (t : Token) (c : Cursor) : Except Failure (Parsed (c.size + 1) Expr) :=
  match t.kind with
  | .number =>
    match h : rangeEnd? t c with
    | some last => do
      let low ← number t c.skip.skip
      let high ← number last c.skip.skip
      return ⟨.range low high, c.skip.skip, by have := size_skip_skip_of_rangeEnd h; omega⟩
    | none => do
      let value ← number t c
      return ⟨.number value, c, Nat.lt_succ_self _⟩
  | .quoted => .ok ⟨.text t.text, c, Nat.lt_succ_self _⟩
  | .name =>
    if t.text = "True" then .ok ⟨.truth true, c, Nat.lt_succ_self _⟩
    else if t.text = "False" then .ok ⟨.truth false, c, Nat.lt_succ_self _⟩
    else if Token.connectives.contains t.text then .error (.at t .unexpectedToken c)
    else do
      let steps ← path c
      return steps.withValue (.reference ⟨t.text, steps.value⟩)
  | .dotted => do
    let args ← arguments c
    return args.withValue (.call t.text args.value)
  | .mark =>
    if t.text = "(" then do
      let inner ← level .disjunction c
      have hi := inner.fewer
      let close ← mark ")" inner.next
      return (close.withValue inner.value).weaken (by omega)
    else if t.text = "\x7b" then table (.items []) c
    else .error (.at t .unexpectedToken c)
termination_by (c.size, 20)

/-- Reads the joined method calls on the expression `target` read so far. -/
def methods (target : Expr) (c : Cursor) : Except Failure (Parsed (c.size + 1) Expr) :=
  match h : c.peek? with
  | some t =>
    have hs := Cursor.size_skip h
    if t.kind = .dotted ∧ c.isAdjacent then do
      let args ← arguments c.skip
      have ha := args.fewer
      let whole ← methods (.method target t.text args.value) args.next
      return whole.weaken (by omega)
    else .ok ⟨target, c, Nat.lt_succ_self _⟩
  | none => .ok ⟨target, c, Nat.lt_succ_self _⟩
termination_by (c.size, 0)

/-- Reads arguments as long as the next token can start one. -/
def arguments (c : Cursor) : Except Failure (Parsed (c.size + 1) (List Expr)) :=
  if startsArgument c then do
    let first ← primary c
    have hf := first.fewer
    let more ← arguments first.next
    return ⟨first.value :: more.value, more.next, by have := more.fewer; omega⟩
  else .ok ⟨[], c, Nat.lt_succ_self _⟩
termination_by (c.size, 1)

/-- Reads the entries of a table up to its closing brace. -/
def table (entries : Entries) (c : Cursor) : Except Failure (Parsed (c.size + 1) Expr) :=
  match h : c.peek? with
  | none => .error (.atEnd .closingBrace c)
  | some t =>
    have hs := Cursor.size_skip h
    if t.isMark "\x7d" then .ok ⟨entries.toExpr, c.skip, by omega⟩
    else
      match hp : pairKey? c with
      | some key =>
        if entries.takesPair then do
          have hss := size_skip_skip_of_pairKey hp
          let value ← level .disjunction c.skip.skip
          have hv := value.fewer
          have hc := size_skipComma value.next
          let whole ← table (entries.addPair key value.value) (skipComma value.next)
          return whole.weaken (by omega)
        else .error (.at t .mixedTable c)
      | none =>
        if entries.takesItem then do
          let item ← level .disjunction c
          have hi := item.fewer
          have hc := size_skipComma item.next
          let whole ← table (entries.addItem item.value) (skipComma item.next)
          return whole.weaken (by omega)
        else .error (.at t .mixedTable c)
termination_by (c.size, 19)

end

end Parser

namespace Expr

/-- The expression that a list of tokens spells. No tokens at all stand for a condition that never holds. -/
def ofTokens (tokens : List Token) : Except SyntaxError Expr :=
  if tokens.isEmpty then .ok (.truth false)
  else
    match Parser.level .disjunction (Cursor.start tokens) with
    | .error failure => .error failure.error
    | .ok whole =>
      match whole.next.peek? with
      | none => .ok whole.value
      | some t => .error ⟨.unexpectedToken t.text, t.start⟩

/-- The expression that a text spells. -/
def parse (mode : LexMode) (text : List Char) : Except SyntaxError Expr := do
  ofTokens (← tokenize mode text)

end Expr

end ConditionLang
