import ConditionLang.Expr.Parser

/-!
# Parsing by positions

A walk reads what the parser reads, by the same tests on the next tokens, but nothing in it makes it end or keeps it among
the tokens. Its place is a position, to which it adds what it steps over, whether there are so many tokens or not. It is given
some fuel, of which every call leaves one unit less to the calls that it makes and every round of a loop to the next one, and
it does not come to an end without fuel. On its way it records the rounds that its loops have gone through (`Round`).
-/

namespace ConditionLang

/-- The place at a position of a list of tokens. Behind the last token no tokens are left. -/
def Cursor.ofPosition (tokens : List Token) (position : Nat) : Cursor :=
  ⟨if position = 0 then none else tokens[position - 1]?.map (·.stop), tokens.drop position,
    (tokens.getLast?.map (·.stop)).getD 0⟩

/-- The loops of the parser. -/
inductive Loop where
  /-- Operators of a level that may follow each other, with their right operands. -/
  | operators (l : Expr.Level)
  /-- Bindings, one after another. -/
  | bindings
  /-- Names of a binding, with the commas behind them. -/
  | names
  /-- The steps of a reference. -/
  | steps
  /-- The method calls on an expression. -/
  | methods
  | arguments
  /-- The entries of a table. -/
  | entries
  deriving Repr, DecidableEq

/-- A round of a loop after which the loop goes on, with the positions at which it starts and ends. -/
structure Round where
  loop : Loop
  start : Nat
  stop : Nat
  deriving Repr, DecidableEq

/-- How a walk ends: with a value or an error, at a position, after some rounds of loops. -/
structure Walked (α : Type) where
  result : Except SyntaxError α
  position : Nat
  rounds : List Round

/-- A walk over tokens from a position on, which does not end if it runs out of fuel. -/
def Walk (α : Type) := List Token → Nat → Option (Walked α)

namespace Walk

variable {α : Type}

instance : Monad Walk where
  pure a _ position := some ⟨.ok a, position, []⟩
  bind w f tokens position :=
    match w tokens position with
    | none => none
    | some ⟨.error e, position, rounds⟩ => some ⟨.error e, position, rounds⟩
    | some ⟨.ok a, position, rounds⟩ =>
      (f a tokens position).map fun walked => { walked with rounds := rounds ++ walked.rounds }

/-- No fuel is left. -/
def exhausted : Walk α :=
  fun _ _ => none

/-- What is seen of the next tokens. -/
def look (f : Cursor → α) : Walk α :=
  fun tokens position => some ⟨.ok (f (.ofPosition tokens position)), position, []⟩

/-- The position. -/
def here : Walk Nat :=
  fun _ position => some ⟨.ok position, position, []⟩

/-- Steps over a number of tokens. -/
def advance (count : Nat) : Walk Unit :=
  fun _ position => some ⟨.ok (), position + count, []⟩

/-- Records a round of a loop that ends at the position. -/
def record (loop : Loop) (start : Nat) : Walk Unit :=
  fun _ position => some ⟨.ok (), position, [⟨loop, start, position⟩]⟩

/-- Fails at the position. -/
def fail (f : Cursor → Failure) : Walk α :=
  fun tokens position => some ⟨.error (f (.ofPosition tokens position)).error, position, []⟩

/-! ## Marks, names and steps -/

/-- Walks over the mark `m`. -/
def mark (m : String) : Walk Unit := do
  match ← look Cursor.peek? with
  | some t => if t.isMark m then advance 1 else fail (.at t (.missingMark m))
  | none => fail (.atEnd (.mark m))

/-- Walks over a token and gives its text, if the token is accepted. -/
def text (accepts : Token → Prop) [DecidablePred accepts] (cause : String → SyntaxError.Cause) (wanted : Wanted) :
    Walk String := do
  match ← look Cursor.peek? with
  | some t => do
    advance 1
    if accepts t then return t.text else fail (.at t cause)
  | none => fail (.atEnd wanted)

/-- Walks over a name to bind. -/
def boundName : Walk String :=
  text (·.kind = .name) .notAVariableName .variableName

/-- Walks over names to bind, separated by commas. -/
def boundNames : Nat → Walk (List String)
  | 0 => exhausted
  | fuel + 1 => do
    let start ← here
    let first ← boundName
    if ← look (·.atMark ",") then
      advance 1
      record .names start
      let more ← boundNames fuel
      return first :: more
    else return [first]

/-- Walks over the key between brackets. -/
def indexKey : Walk String :=
  text (fun t => t.kind = .quoted ∨ t.kind = .number) .notAnIndexKey .indexKey

/-- Walks over the steps after a variable. -/
def path : Nat → Walk (List Access)
  | 0 => exhausted
  | fuel + 1 => do
    let start ← here
    let adjacent ← look Cursor.isAdjacent
    match ← look Cursor.peek? with
    | some t =>
      if t.isMark "[" then do
        advance 1
        let key ← indexKey
        mark "]"
        record .steps start
        let more ← path fuel
        return .index key :: more
      else if t.kind = .dotted ∧ adjacent ∧ ¬isBuiltin t.text then do
        advance 1
        record .steps start
        let more ← path fuel
        return .property t.text :: more
      else return []
    | none => return []

/-- The number that a token spells. -/
def number (t : Token) : Walk Float :=
  match Number.read? t.text.toList with
  | some value => pure value
  | none => fail (.at t .invalidNumber)

/-- Walks over a comma, if there is one. -/
def skipComma : Walk Unit := do
  if ← look (·.atMark ",") then advance 1

/-! ## Expressions -/

open ConditionLang.Parser (operator? startsArgument rangeEnd? pairKey?)

mutual

/-- Walks over an expression whose loosest operators are those of the level. -/
def level : Nat → Expr.Level → Walk Expr
  | 0, _ => exhausted
  | fuel + 1, l => do
    let left ← operand fuel l
    chain fuel l left

/-- Walks over an operand of the operators of the level. -/
def operand : Nat → Expr.Level → Walk Expr
  | 0, _ => exhausted
  | fuel + 1, l =>
    match l.tighter? with
    | some m => level fuel m
    | none => unary fuel

/-- Walks over operators of the level and their right operands. -/
def chain : Nat → Expr.Level → Expr → Walk Expr
  | 0, _, _ => exhausted
  | fuel + 1, l, left => do
    let start ← here
    let binds ← look (·.atMark ">>")
    if l = .binding ∧ binds then
      advance 1
      let names ← boundNames fuel
      record .bindings start
      chain fuel l (.binding left names)
    else
      match ← look (operator? l) with
      | none => return left
      | some op => do
        advance 1
        let right ← operand fuel l
        if l.chains then
          record (.operators l) start
          chain fuel l (.binary op left right)
        else return .binary op left right

/-- Walks over a primary expression after any number of `not`. -/
def unary : Nat → Walk Expr
  | 0 => exhausted
  | fuel + 1 => do
    match ← look Cursor.peek? with
    | some t =>
      if t.isWord "not" then do
        advance 1
        let operand ← unary fuel
        return .negation operand
      else primary fuel
    | none => primary fuel

/-- Walks over a literal, a variable, a call, a table or an expression in parentheses, and the method calls after it. -/
def primary : Nat → Walk Expr
  | 0 => exhausted
  | fuel + 1 => do
    match ← look Cursor.peek? with
    | none => fail (.atEnd .expression)
    | some t => do
      advance 1
      let target ← base fuel t
      methods fuel target

/-- Walks over the rest of a primary expression that starts with the token `t`. -/
def base : Nat → Token → Walk Expr
  | 0, _ => exhausted
  | fuel + 1, t =>
    match t.kind with
    | .number => do
      match ← look (rangeEnd? t) with
      | some last => do
        advance 2
        let low ← number t
        let high ← number last
        return .range low high
      | none => do
        let value ← number t
        return .number value
    | .quoted => pure (.text t.text)
    | .name =>
      if t.text = "True" then pure (.truth true)
      else if t.text = "False" then pure (.truth false)
      else if Token.connectives.contains t.text then fail (.at t .unexpectedToken)
      else do
        let accesses ← path fuel
        return .reference ⟨t.text, accesses⟩
    | .dotted => do
      let args ← arguments fuel
      return .call t.text args
    | .mark =>
      if t.text = "(" then do
        let inner ← level fuel .disjunction
        mark ")"
        return inner
      else if t.text = "\x7b" then table fuel (.items [])
      else fail (.at t .unexpectedToken)

/-- Walks over joined method calls. -/
def methods : Nat → Expr → Walk Expr
  | 0, _ => exhausted
  | fuel + 1, target => do
    let start ← here
    let adjacent ← look Cursor.isAdjacent
    match ← look Cursor.peek? with
    | some t =>
      if t.kind = .dotted ∧ adjacent then do
        advance 1
        let args ← arguments fuel
        record .methods start
        methods fuel (.method target t.text args)
      else return target
    | none => return target

/-- Walks over arguments. -/
def arguments : Nat → Walk (List Expr)
  | 0 => exhausted
  | fuel + 1 => do
    let start ← here
    if ← look startsArgument then
      let first ← primary fuel
      record .arguments start
      let more ← arguments fuel
      return first :: more
    else return []

/-- Walks over the entries of a table up to its closing brace. -/
def table : Nat → Parser.Entries → Walk Expr
  | 0, _ => exhausted
  | fuel + 1, entries => do
    let start ← here
    match ← look Cursor.peek? with
    | none => fail (.atEnd .closingBrace)
    | some t =>
      if t.isMark "\x7d" then do
        advance 1
        return entries.toExpr
      else
        match ← look pairKey? with
        | some key =>
          if entries.takesPair then do
            advance 2
            let value ← level fuel .disjunction
            skipComma
            record .entries start
            table fuel (entries.addPair key value)
          else fail (.at t .mixedTable)
        | none =>
          if entries.takesItem then do
            let item ← level fuel .disjunction
            skipComma
            record .entries start
            table fuel (entries.addItem item)
          else fail (.at t .mixedTable)

end

/-- Walks over an expression after which nothing is left. -/
def whole (fuel : Nat) : Walk Expr := do
  let e ← level fuel .disjunction
  match ← look Cursor.peek? with
  | none => return e
  | some t => fail (.at t .unexpectedToken)

/-- Walks over all tokens. No tokens at all stand for a condition that never holds. -/
def ofTokens (fuel : Nat) (tokens : List Token) : Option (Walked Expr) :=
  if tokens.isEmpty then some ⟨.ok (.truth false), 0, []⟩ else whole fuel tokens 0

end Walk

end ConditionLang
