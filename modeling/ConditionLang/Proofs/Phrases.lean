import ConditionLang.Diagnostic.Check
import ConditionLang.Proofs.Reading

/-!
# How tokens spell expressions

`Phrase.SpelledBy p ts found` says that the tokens `ts` spell the phrase `p`, whatever blanks are between them, and which of
them name a call or a variable that is bound: `found` holds all that is wrong with the phrase, in the order of the checker, and
each finding with the token that names what it is about. The name of a method stands between its target and its arguments.

Every parsing function takes tokens off the front of those that are left, and they spell what it reads (`Parser.Takes`). So the
tokens of a text spell the expression that is read from them (`exists_spelledBy_of_parse`).
-/

namespace ConditionLang

/-- A finding, the call or the binding that it is about, and the token that names the call or the variable. -/
structure Located where
  token : Token
  part : Expr
  finding : Finding

namespace Located

/-- What is wrong with a call itself, at the token that names it. -/
def ofCall (token : Token) (part : Expr) (findings : List Finding) : List Located :=
  findings.map (⟨token, part, ·⟩)

/-- What is wrong with the names that a binding binds, each at its token. -/
def ofNames (names : List Token) (part : Expr) : List Located :=
  (names.filter (!isBindable ·.text)).map fun t => ⟨t, part, .invalidName t.text⟩

end Located

/-! ## Phrases -/

/-- The first tokens are the names among the others, which are those names with commas between them. -/
inductive Token.Listed : List Token → List Token → Prop
  | last {t : Token} (hkind : t.kind = .name) : Listed [t] [t]
  | cons {t comma : Token} {names ts : List Token} (hkind : t.kind = .name) (hcomma : comma.isMark "," = true)
      (hrest : Listed names ts) : Listed (t :: names) (t :: comma :: ts)

/-- The tokens spell the steps from a variable. -/
inductive Access.SpelledBy : List Access → List Token → Prop
  | nil : SpelledBy [] []
  | index {opening key closing : Token} {steps : List Access} {ts : List Token} (hopening : opening.isMark "[" = true)
      (hkey : key.kind = .quoted ∨ key.kind = .number) (hclosing : closing.isMark "]" = true) (hrest : SpelledBy steps ts) :
      SpelledBy (.index key.text :: steps) (opening :: key :: closing :: ts)
  | property {t : Token} {steps : List Access} {ts : List Token} (hkind : t.kind = .dotted) (hrest : SpelledBy steps ts) :
      SpelledBy (.property t.text :: steps) (t :: ts)

/-- What the parser reads from tokens: an expression, the arguments of a call, or the entries of a table. -/
inductive Phrase where
  | expr (e : Expr)
  | arguments (args : List Expr)
  | entries (entries : Parser.Entries)

namespace Phrase

/-- The tokens spell the phrase, and the findings about it are at those tokens that name what they are about. -/
inductive SpelledBy : Phrase → List Token → List Located → Prop
  | number {t : Token} {x : Float} (hkind : t.kind = .number) (hx : Number.read? t.text.toList = some x) :
      SpelledBy (.expr (.number x)) [t] []
  | range {t dots last : Token} {low high : Float} (hkind : t.kind = .number)
      (hlow : Number.read? t.text.toList = some low) (hdots : dots.isMark ".." = true) (hlast : last.kind = .number)
      (hhigh : Number.read? last.text.toList = some high) :
      SpelledBy (.expr (.range low high)) [t, dots, last] []
  | text {t : Token} (hkind : t.kind = .quoted) : SpelledBy (.expr (.text t.text)) [t] []
  | truth {t : Token} (b : Bool) (hword : t.isWord (if b then "True" else "False") = true) :
      SpelledBy (.expr (.truth b)) [t] []
  | reference {t : Token} {steps : List Access} {ts : List Token} (hkind : t.kind = .name)
      (hsteps : Access.SpelledBy steps ts) : SpelledBy (.expr (.reference ⟨t.text, steps⟩)) (t :: ts) []
  | parenthesized {opening closing : Token} {e : Expr} {ts : List Token} {found : List Located}
      (hopening : opening.isMark "(" = true) (hclosing : closing.isMark ")" = true) (h : SpelledBy (.expr e) ts found) :
      SpelledBy (.expr e) (opening :: (ts ++ [closing])) found
  | table {opening closing : Token} {entries : Parser.Entries} {ts : List Token} {found : List Located}
      (hopening : opening.isMark "\x7b" = true) (hclosing : closing.isMark "\x7d" = true)
      (h : SpelledBy (.entries entries) ts found) : SpelledBy (.expr entries.toExpr) (opening :: (ts ++ [closing])) found
  | negation {t : Token} {e : Expr} {ts : List Token} {found : List Located} (hword : t.isWord "not" = true)
      (h : SpelledBy (.expr e) ts found) : SpelledBy (.expr (.negation e)) (t :: ts) found
  | binary {t : Token} {op : Operator} {left right : Expr} {ts ts' : List Token} {found found' : List Located}
      (hop : t.spells op = true) (hleft : SpelledBy (.expr left) ts found) (hright : SpelledBy (.expr right) ts' found') :
      SpelledBy (.expr (.binary op left right)) (ts ++ t :: ts') (found ++ found')
  | binding {sign : Token} {value : Expr} {names ts ts' : List Token} {found : List Located} (hsign : sign.isMark ">>" = true)
      (hvalue : SpelledBy (.expr value) ts found) (hnames : Token.Listed names ts') :
      SpelledBy (.expr (.binding value (names.map (·.text)))) (ts ++ sign :: ts')
        (found ++ Located.ofNames names (.binding value (names.map (·.text))))
  | call {t : Token} {args : List Expr} {ts : List Token} {found : List Located} (hkind : t.kind = .dotted)
      (hargs : SpelledBy (.arguments args) ts found) :
      SpelledBy (.expr (.call t.text args)) (t :: ts)
        (Located.ofCall t (.call t.text args) (Check.callFindings none t.text args) ++ found)
  | method {t : Token} {target : Expr} {args : List Expr} {ts ts' : List Token} {found found' : List Located}
      (hkind : t.kind = .dotted) (htarget : SpelledBy (.expr target) ts found)
      (hargs : SpelledBy (.arguments args) ts' found') :
      SpelledBy (.expr (.method target t.text args)) (ts ++ t :: ts')
        (Located.ofCall t (.method target t.text args) (Check.callFindings (some target) t.text args) ++ found ++ found')
  | noArguments : SpelledBy (.arguments []) [] []
  | argument {arg : Expr} {args : List Expr} {ts ts' : List Token} {found found' : List Located}
      (harg : SpelledBy (.expr arg) ts found) (hargs : SpelledBy (.arguments args) ts' found') :
      SpelledBy (.arguments (arg :: args)) (ts ++ ts') (found ++ found')
  | noEntries : SpelledBy (.entries (.items [])) [] []
  | item {entries : Parser.Entries} {e : Expr} {ts ts' : List Token} {comma : Option Token} {found found' : List Located}
      (htakes : entries.takesItem = true) (hentries : SpelledBy (.entries entries) ts found)
      (hitem : SpelledBy (.expr e) ts' found') (hcomma : ∀ t ∈ comma, t.isMark "," = true) :
      SpelledBy (.entries (entries.addItem e)) (ts ++ (ts' ++ comma.toList)) (found ++ found')
  | pair {entries : Parser.Entries} {key sign : Token} {e : Expr} {ts ts' : List Token} {comma : Option Token}
      {found found' : List Located} (htakes : entries.takesPair = true) (hentries : SpelledBy (.entries entries) ts found)
      (hkey : key.kind = .name) (hsign : sign.isMark "=" = true) (hvalue : SpelledBy (.expr e) ts' found')
      (hcomma : ∀ t ∈ comma, t.isMark "," = true) :
      SpelledBy (.entries (entries.addPair key.text e)) (ts ++ (key :: sign :: (ts' ++ comma.toList))) (found ++ found')

/-- The tokens spell the phrase, wherever the findings about it are. -/
def Spelled (p : Phrase) (ts : List Token) : Prop :=
  ∃ found, p.SpelledBy ts found

end Phrase

/-! ## The tokens that are left -/

namespace Cursor

variable {c : Cursor} {t : Token}

/-- The next token is the first of those that are left. -/
theorem rest_of_peek (ht : c.peek? = some t) : c.rest = t :: c.skip.rest := by
  obtain ⟨before, rest, limit⟩ := c
  cases rest with
  | nil => cases ht
  | cons u rest =>
    cases ht
    rfl

/-- The mark that comes next is the first of the tokens that are left. -/
theorem rest_of_atMark {m : String} (h : c.atMark m = true) : ∃ t, t.isMark m = true ∧ c.rest = t :: c.skip.rest := by
  obtain ⟨t, ht, hmark⟩ := (Option.any_eq_true _ _).mp h
  exact ⟨t, hmark, rest_of_peek ht⟩

end Cursor

namespace Parser

variable {c : Cursor}

/-- An optional comma is one token or none. -/
theorem rest_of_skipComma (c : Cursor) :
    ∃ comma : Option Token, (∀ t ∈ comma, t.isMark "," = true) ∧ c.rest = comma.toList ++ (skipComma c).rest := by
  unfold skipComma
  split
  · rename_i h
    obtain ⟨t, hmark, hrest⟩ := Cursor.rest_of_atMark h
    exact ⟨some t, fun _ ht => Option.some.inj ht ▸ hmark, hrest⟩
  · exact ⟨none, by simp, rfl⟩

/-- The operator that comes next is the first of the tokens that are left. -/
theorem rest_of_operator {l : Expr.Level} {op : Operator} (h : operator? l c = some op) :
    ∃ t, t.spells op = true ∧ c.rest = t :: c.skip.rest := by
  obtain ⟨t, ht, hfind⟩ := Option.bind_eq_some_iff.mp h
  exact ⟨t, List.find?_some hfind, Cursor.rest_of_peek ht⟩

/-- A key and `=` are the first two tokens that are left. -/
theorem rest_of_pairKey {key : String} (h : pairKey? c = some key) :
    ∃ t sign, t.kind = .name ∧ t.text = key ∧ sign.isMark "=" = true ∧ c.rest = t :: sign :: c.skip.skip.rest := by
  obtain ⟨before, rest, limit⟩ := c
  unfold pairKey? at h
  split at h
  · rename_i t sign _ hrest
    cases hrest
    split at h
    · rename_i hpair
      cases h
      exact ⟨t, sign, hpair.1, rfl, hpair.2, rfl⟩
    · cases h
  · cases h

/-- Two dots and the last number are the first two tokens that are left. -/
theorem rest_of_rangeEnd {t last : Token} (h : rangeEnd? t c = some last) :
    ∃ dots, dots.isMark ".." = true ∧ last.kind = .number ∧ c.rest = dots :: last :: c.skip.skip.rest := by
  obtain ⟨before, rest, limit⟩ := c
  unfold rangeEnd? at h
  split at h
  · rename_i dots _ _ hrest
    cases hrest
    split at h
    · rename_i hrange
      cases h
      exact ⟨dots, hrange.1, hrange.2.2.1, rfl⟩
    · cases h
  · cases h

/-! ## What parsing functions take -/

/-- A parsing function that reads a value at a place takes tokens from there that stand in the relation to the value. -/
def Takes {n : Nat} {α : Type} (c : Cursor) (p : α → List Token → Prop) (r : Except Failure (Parsed n α)) : Prop :=
  ∀ a next, Reads r a next → ∃ ts, c.rest = ts ++ next.rest ∧ p a ts

/-- What is read from a later place, after tokens that have been taken. -/
theorem exists_taken_after {d next : Cursor} {q : List Token → Prop} {before ts : List Token} (hrest : c.rest = ts ++ d.rest)
    (h : ∃ ts', d.rest = ts' ++ next.rest ∧ q (before ++ ts ++ ts')) :
    ∃ ts', c.rest = ts' ++ next.rest ∧ q (before ++ ts') := by
  obtain ⟨ts', hts', hq⟩ := h
  exact ⟨ts ++ ts', by rw [hrest, hts', List.append_assoc], by rwa [← List.append_assoc]⟩

theorem takes_boundName : Takes c (fun name ts => ∃ t, t.kind = .name ∧ name = t.text ∧ ts = [t]) (boundName c) := by
  intro name next h
  obtain ⟨t, ht, hkind, rfl, rfl⟩ := reads_boundName.mp h
  exact ⟨[t], Cursor.rest_of_peek ht, t, hkind, rfl, rfl⟩

/-- Binding names takes them and the commas between them. -/
theorem takes_boundNames (c : Cursor) :
    Takes c (fun names ts => ∃ named, names = named.map (·.text) ∧ Token.Listed named ts) (boundNames c) := by
  intro names next h
  obtain ⟨name, d, hname, h⟩ := reads_boundNames.mp h
  obtain ⟨_, hrest, t, hkind, rfl, rfl⟩ := takes_boundName name d hname
  split at h
  · rename_i hmark
    obtain ⟨more, hmore, rfl⟩ := h
    obtain ⟨comma, hcomma, hd⟩ := Cursor.rest_of_atMark hmark
    have hfewer := hname.fewer
    have hskip := d.size_skip_le
    obtain ⟨ts, hts, named, rfl, hlisted⟩ := takes_boundNames d.skip more next hmore
    refine ⟨t :: comma :: ts, ?_, t :: named, rfl, .cons hkind hcomma hlisted⟩
    rw [hrest, hd, hts]
    rfl
  · obtain ⟨rfl, rfl⟩ := h
    exact ⟨[t], hrest, [t], rfl, .last hkind⟩
termination_by c.size

/-- The steps of a reference take the tokens that spell them. -/
theorem takes_path (c : Cursor) : Takes c Access.SpelledBy (path c) := by
  intro steps next h
  have hnil : steps = [] ∧ next = c → ∃ ts, c.rest = ts ++ next.rest ∧ Access.SpelledBy steps ts := by
    rintro ⟨rfl, rfl⟩
    exact ⟨[], rfl, .nil⟩
  replace h := reads_path.mp h
  split at h
  · rename_i t ht
    have hs := Cursor.size_skip ht
    have hrest := Cursor.rest_of_peek ht
    split at h
    · rename_i hopening
      obtain ⟨key, d, hkey, u, d', hclose, more, hmore, rfl⟩ := h
      have hfewer := hkey.fewer
      have hfewer' := hclose.fewer
      obtain ⟨k, hk, hkind, rfl, rfl⟩ := reads_indexKey.mp hkey
      obtain ⟨closing, hc, hclosing, rfl⟩ := reads_mark.mp hclose
      obtain ⟨ts, hts, hspelled⟩ := takes_path _ more next hmore
      refine ⟨t :: k :: closing :: ts, ?_, .index hopening hkind hclosing hspelled⟩
      rw [hrest, Cursor.rest_of_peek hk, Cursor.rest_of_peek hc, hts]
      rfl
    · split at h
      · rename_i hdotted
        obtain ⟨more, hmore, rfl⟩ := h
        obtain ⟨ts, hts, hspelled⟩ := takes_path c.skip more next hmore
        exact ⟨t :: ts, by rw [hrest, hts]; rfl, .property hdotted.1 hspelled⟩
      · exact hnil h
  · exact hnil h
termination_by c.size

/-! ## What expressions take -/

-- The recursion is that of the parser. Where it hands on what has been read so far, the tokens before the place spell that.

mutual

/-- An expression of a level takes the tokens that spell it. -/
theorem takes_level (l : Expr.Level) (c : Cursor) : Takes c (fun e => (Phrase.expr e).Spelled) (level l c) := by
  intro e next h
  obtain ⟨left, d, hleft, h⟩ := reads_level.mp h
  have hfewer := hleft.fewer
  obtain ⟨ts, hrest, hspelled⟩ := takes_operand l c left d hleft
  obtain ⟨ts', hrest', hwhole⟩ := takes_chain l left d hspelled e next h
  exact ⟨ts ++ ts', by rw [hrest, hrest', List.append_assoc], hwhole⟩
termination_by (c.size, 2 * l.rank + 3)

theorem takes_operand (l : Expr.Level) (c : Cursor) : Takes c (fun e => (Phrase.expr e).Spelled) (operand l c) := by
  rw [operand_eq]
  split
  · rename_i m h
    have := Expr.Level.rank_tighter h
    exact takes_level m c
  · exact takes_unary c
termination_by (c.size, 2 * l.rank + 2)

/-- A chain of operators takes the tokens that spell it behind its first operand. -/
theorem takes_chain (l : Expr.Level) (left : Expr) (c : Cursor) {before : List Token}
    (hleft : (Phrase.expr left).Spelled before) :
    Takes c (fun e ts => (Phrase.expr e).Spelled (before ++ ts)) (chain l left c) := by
  intro e next h
  obtain ⟨found, hleft⟩ := hleft
  replace h := reads_chain.mp h
  split at h
  · rename_i hmark
    obtain ⟨names, d, hnames, h⟩ := h
    have hs := Cursor.size_skip_of_atMark hmark.2
    have hfewer := hnames.fewer
    obtain ⟨sign, hsign, hrest⟩ := Cursor.rest_of_atMark hmark.2
    obtain ⟨ts, hts, named, rfl, hlisted⟩ := takes_boundNames c.skip names d hnames
    have hd : c.rest = (sign :: ts) ++ d.rest := by rw [hrest, hts, List.cons_append]
    exact exists_taken_after hd (takes_chain l _ d ⟨_, hleft.binding hsign hlisted⟩ e next h)
  · split at h
    · obtain ⟨rfl, rfl⟩ := h
      exact ⟨[], rfl, found, by rwa [List.append_nil]⟩
    · rename_i op hop
      obtain ⟨right, d, hright, h⟩ := h
      have hs := size_skip_of_operator hop
      have hfewer := hright.fewer
      obtain ⟨t, ht, hrest⟩ := rest_of_operator hop
      obtain ⟨ts, hts, found', hspelled⟩ := takes_operand l c.skip right d hright
      have hbinary := hleft.binary ht hspelled
      have hd : c.rest = (t :: ts) ++ d.rest := by rw [hrest, hts, List.cons_append]
      split at h
      · exact exists_taken_after hd (takes_chain l _ d ⟨_, hbinary⟩ e next h)
      · obtain ⟨rfl, rfl⟩ := h
        exact ⟨t :: ts, hd, _, hbinary⟩
termination_by (c.size, 0)

theorem takes_unary (c : Cursor) : Takes c (fun e => (Phrase.expr e).Spelled) (unary c) := by
  intro e next h
  replace h := reads_unary.mp h
  split at h
  · rename_i hnot
    obtain ⟨e', h, rfl⟩ := h
    obtain ⟨t, ht, hword⟩ := (Option.any_eq_true _ _).mp hnot
    have hs := Cursor.size_skip ht
    obtain ⟨ts, hts, found, hspelled⟩ := takes_unary c.skip e' next h
    exact ⟨t :: ts, by rw [Cursor.rest_of_peek ht, hts]; rfl, found, hspelled.negation hword⟩
  · exact takes_primary c e next h
termination_by (c.size, 1)

theorem takes_primary (c : Cursor) : Takes c (fun e => (Phrase.expr e).Spelled) (primary c) := by
  intro e next h
  obtain ⟨t, ht, e', d, hbase, h⟩ := reads_primary.mp h
  have hs := Cursor.size_skip ht
  have hfewer := hbase.fewer
  obtain ⟨ts, hts, hspelled⟩ := takes_base t c.skip e' d hbase
  obtain ⟨ts', hts', hwhole⟩ := takes_methods e' d hspelled e next h
  refine ⟨t :: ts ++ ts', ?_, hwhole⟩
  rw [Cursor.rest_of_peek ht, hts, hts', List.append_assoc]
  rfl
termination_by (c.size, 0)

/-- The token `t` stands just before the place. -/
theorem takes_base (t : Token) (c : Cursor) : Takes c (fun e ts => (Phrase.expr e).Spelled (t :: ts)) (base t c) := by
  intro e next h
  replace h := reads_base.mp h
  split at h
  · rename_i hkind
    split at h
    · rename_i last hlast
      obtain ⟨low, high, hlow, hhigh, rfl, rfl⟩ := h
      obtain ⟨dots, hdots, hlast, hrest⟩ := rest_of_rangeEnd hlast
      exact ⟨[dots, last], hrest, [], .range hkind hlow hdots hlast hhigh⟩
    · obtain ⟨x, hx, rfl, rfl⟩ := h
      exact ⟨[], rfl, [], .number hkind hx⟩
  · rename_i hkind
    obtain ⟨rfl, rfl⟩ := h
    exact ⟨[], rfl, [], .text hkind⟩
  · rename_i hkind
    split at h
    · rename_i htrue
      obtain ⟨rfl, rfl⟩ := h
      exact ⟨[], rfl, [], .truth true (by simp [Token.isWord, hkind, htrue])⟩
    · split at h
      · rename_i hfalse
        obtain ⟨rfl, rfl⟩ := h
        exact ⟨[], rfl, [], .truth false (by simp [Token.isWord, hkind, hfalse])⟩
      · obtain ⟨-, steps, hsteps, rfl⟩ := h
        obtain ⟨ts, hts, hspelled⟩ := takes_path c steps next hsteps
        exact ⟨ts, hts, [], .reference hkind hspelled⟩
  · rename_i hkind
    obtain ⟨args, hargs, rfl⟩ := h
    obtain ⟨ts, hts, found, hspelled⟩ := takes_arguments c args next hargs
    exact ⟨ts, hts, _, .call hkind hspelled⟩
  · rename_i hkind
    split at h
    · rename_i hopening
      obtain ⟨inner, d, hinner, u, hclose, rfl⟩ := h
      obtain ⟨ts, hts, found, hspelled⟩ := takes_level .disjunction c e d hinner
      obtain ⟨closing, hc, hclosing, rfl⟩ := reads_mark.mp hclose
      refine ⟨ts ++ [closing], ?_, found, .parenthesized (by simp [Token.isMark, hkind, hopening]) hclosing hspelled⟩
      rw [hts, Cursor.rest_of_peek hc, List.append_assoc]
      rfl
    · split at h
      · rename_i hopening
        have hbrace : t.isMark "\x7b" = true := by simp [Token.isMark, hkind, hopening]
        exact takes_table hbrace (.items []) c ⟨[], .noEntries⟩ e next h
      · exact h.elim
termination_by (c.size, 20)

/-- Calls take the tokens that spell them behind their target. -/
theorem takes_methods (target : Expr) (c : Cursor) {before : List Token} (htarget : (Phrase.expr target).Spelled before) :
    Takes c (fun e ts => (Phrase.expr e).Spelled (before ++ ts)) (methods target c) := by
  intro e next h
  obtain ⟨found, htarget⟩ := htarget
  have hnil : e = target ∧ next = c → ∃ ts, c.rest = ts ++ next.rest ∧ (Phrase.expr e).Spelled (before ++ ts) := by
    rintro ⟨rfl, rfl⟩
    exact ⟨[], rfl, found, by rwa [List.append_nil]⟩
  replace h := reads_methods.mp h
  split at h
  · rename_i t ht
    split at h
    · rename_i hdotted
      obtain ⟨args, d, hargs, h⟩ := h
      have hs := Cursor.size_skip ht
      have hfewer := hargs.fewer
      obtain ⟨ts, hts, found', hspelled⟩ := takes_arguments c.skip args d hargs
      have hd : c.rest = (t :: ts) ++ d.rest := by rw [Cursor.rest_of_peek ht, hts, List.cons_append]
      exact exists_taken_after hd (takes_methods _ d ⟨_, htarget.method hdotted.1 hspelled⟩ e next h)
    · exact hnil h
  · exact hnil h
termination_by (c.size, 0)

/-- Arguments take the tokens that spell them. -/
theorem takes_arguments (c : Cursor) : Takes c (fun args => (Phrase.arguments args).Spelled) (arguments c) := by
  intro args next h
  replace h := reads_arguments.mp h
  split at h
  · obtain ⟨first, d, hfirst, more, hmore, rfl⟩ := h
    have hfewer := hfirst.fewer
    obtain ⟨ts, hts, found, hspelled⟩ := takes_primary c first d hfirst
    obtain ⟨ts', hts', found', hspelled'⟩ := takes_arguments d more next hmore
    exact ⟨ts ++ ts', by rw [hts, hts', List.append_assoc], _, .argument hspelled hspelled'⟩
  · obtain ⟨rfl, rfl⟩ := h
    exact ⟨[], rfl, [], .noArguments⟩
termination_by (c.size, 1)

/-- The tokens before spell the entries read so far, behind the brace. -/
theorem takes_table {opening : Token} (hopening : opening.isMark "\x7b" = true) (entries : Entries) (c : Cursor)
    {before : List Token} (hentries : (Phrase.entries entries).Spelled before) :
    Takes c (fun e ts => (Phrase.expr e).Spelled (opening :: (before ++ ts))) (table entries c) := by
  intro e next h
  obtain ⟨found, hentries⟩ := hentries
  obtain ⟨t, ht, h⟩ := reads_table.mp h
  have hs := Cursor.size_skip ht
  split at h
  · rename_i hclosing
    obtain ⟨rfl, rfl⟩ := h
    exact ⟨[t], Cursor.rest_of_peek ht, found, hentries.table hopening hclosing⟩
  · split at h
    · rename_i key hkey
      obtain ⟨htakes, value, d, hvalue, h⟩ := h
      have hss := size_skip_skip_of_pairKey hkey
      have hfewer := hvalue.fewer
      have hcomma := size_skipComma d
      obtain ⟨k, sign, hkind, rfl, hsign, hrest⟩ := rest_of_pairKey hkey
      obtain ⟨ts, hts, found', hspelled⟩ := takes_level .disjunction c.skip.skip value d hvalue
      obtain ⟨comma, hcommas, hd⟩ := rest_of_skipComma d
      have hd' : c.rest = (k :: sign :: (ts ++ comma.toList)) ++ (skipComma d).rest := by
        rw [hrest, hts, hd, List.cons_append, List.cons_append, List.append_assoc]
      exact exists_taken_after (q := fun ts => (Phrase.expr e).Spelled (opening :: ts)) hd'
        (takes_table hopening _ (skipComma d) ⟨_, hentries.pair htakes hkind hsign hspelled hcommas⟩ e next h)
    · obtain ⟨htakes, item, d, hitem, h⟩ := h
      have hfewer := hitem.fewer
      have hcomma := size_skipComma d
      obtain ⟨ts, hts, found', hspelled⟩ := takes_level .disjunction c item d hitem
      obtain ⟨comma, hcommas, hd⟩ := rest_of_skipComma d
      have hd' : c.rest = (ts ++ comma.toList) ++ (skipComma d).rest := by rw [hts, hd, List.append_assoc]
      exact exists_taken_after (q := fun ts => (Phrase.expr e).Spelled (opening :: ts)) hd'
        (takes_table hopening _ (skipComma d) ⟨_, hentries.item htakes hspelled hcommas⟩ e next h)
termination_by (c.size, 19)

end

end Parser

open ConditionLang.Parser

/-- The tokens of a text spell the expression that is read from it. No tokens at all stand for a condition that never holds. -/
theorem Expr.spelled_of_parse {mode : LexMode} {text : List Char} {e : Expr} (h : parse mode text = .ok e) :
    ∃ tokens, tokenize mode text = .ok tokens ∧ if tokens = [] then e = .truth false else (Phrase.expr e).Spelled tokens := by
  obtain ⟨tokens, htokens, h⟩ := parse_eq_ok_iff.mp h
  refine ⟨tokens, htokens, ?_⟩
  split
  · rename_i hnil
    subst hnil
    cases h
    rfl
  · rename_i hne
    obtain ⟨next, hread, hpeek⟩ := (ofTokens_eq_ok_iff hne).mp h
    obtain ⟨ts, hrest, hspelled⟩ := takes_level .disjunction (.start tokens) e next hread
    have hnext : next.rest = [] := List.head?_eq_none_iff.mp hpeek
    have hts : tokens = ts := by
      rw [hnext, List.append_nil] at hrest
      exact hrest
    rwa [hts]

end ConditionLang
