import ConditionLang.Diagnostic.Check
import ConditionLang.Proofs.Reading

/-!
# What parsed expressions are built from

`Expr.BuiltFrom S e` says that `e` is put together as the parser does it, from tokens that all satisfy `S`. Every parsing
function that is given such tokens builds such a value and leaves such tokens (`Parser.Builds`), so what `S` says of the tokens
of a text is known of every leaf of the expression that the text spells (`builtFrom_of_parse`).
-/

namespace ConditionLang

/-- Some token that satisfies `S` has the kind and the text. -/
def Token.Spells (S : Token → Prop) (kind : Token.Kind) (text : String) : Prop :=
  ∃ t, S t ∧ t.kind = kind ∧ t.text = text

/-- Some token that satisfies `S` is read as the number. -/
def Token.Denotes (S : Token → Prop) (x : Float) : Prop :=
  ∃ t, S t ∧ t.kind = .number ∧ Number.read? t.text.toList = some x

/-- A step from tokens that satisfy `S`: a property is not the name of a built-in, a key in brackets is a text or a number. -/
def Access.BuiltFrom (S : Token → Prop) : Access → Prop
  | .property key => Token.Spells S .dotted key ∧ isBuiltin key = false
  | .index key => Token.Spells S .quoted key ∨ Token.Spells S .number key

/-- An expression from tokens that satisfy `S`. -/
inductive Expr.BuiltFrom (S : Token → Prop) : Expr → Prop
  | number {x : Float} (h : Token.Denotes S x) : BuiltFrom S (.number x)
  | truth (value : Bool) : BuiltFrom S (.truth value)
  | text {value : String} (h : Token.Spells S .quoted value) : BuiltFrom S (.text value)
  | sequence {items : List Expr} (h : ∀ item ∈ items, BuiltFrom S item) : BuiltFrom S (.sequence items)
  | dictionary {pairs : List (String × Expr)} (hne : pairs ≠ []) (hkeys : ∀ pair ∈ pairs, Token.Spells S .name pair.1)
      (hvalues : ∀ pair ∈ pairs, BuiltFrom S pair.2) : BuiltFrom S (.dictionary pairs)
  | range {first last : Float} (hfirst : Token.Denotes S first) (hlast : Token.Denotes S last) :
      BuiltFrom S (.range first last)
  | reference {name : String} {path : List Access} (hname : Token.Spells S .name name) (hreserved : name ∉ reservedWords)
      (hpath : ∀ access ∈ path, access.BuiltFrom S) : BuiltFrom S (.reference ⟨name, path⟩)
  | binary {op : Operator} {left right : Expr} (hleft : BuiltFrom S left) (hright : BuiltFrom S right) :
      BuiltFrom S (.binary op left right)
  | negation {operand : Expr} (h : BuiltFrom S operand) : BuiltFrom S (.negation operand)
  | binding {value : Expr} {names : List String} (hvalue : BuiltFrom S value) (hne : names ≠ [])
      (hnames : ∀ name ∈ names, Token.Spells S .name name) : BuiltFrom S (.binding value names)
  | call {name : String} {args : List Expr} (hname : Token.Spells S .dotted name) (hargs : ∀ arg ∈ args, BuiltFrom S arg) :
      BuiltFrom S (.call name args)
  | method {target : Expr} {name : String} {args : List Expr} (htarget : BuiltFrom S target)
      (hname : Token.Spells S .dotted name) (hargs : ∀ arg ∈ args, BuiltFrom S arg) : BuiltFrom S (.method target name args)

/-- All tokens that are left satisfy `S`. -/
def Cursor.All (S : Token → Prop) (c : Cursor) : Prop :=
  ∀ t ∈ c.rest, S t

variable {S : Token → Prop} {c : Cursor}

namespace Cursor

variable {t : Token}

/-- The next token satisfies what all tokens ahead do. -/
theorem All.peek (h : c.All S) (ht : c.peek? = some t) : S t :=
  h t (List.mem_of_mem_head? ht)

/-- What all tokens ahead satisfy holds past a token too. -/
theorem All.skip (h : c.All S) : c.skip.All S := by
  obtain ⟨before, rest, limit⟩ := c
  cases rest with
  | nil => exact h
  | cons t rest => exact fun u hu => h u (List.mem_cons_of_mem t hu)

theorem All.skipComma (h : c.All S) : (Parser.skipComma c).All S := by
  unfold Parser.skipComma
  split
  · exact h.skip
  · exact h

/-- The next token spells its text. -/
theorem All.spells (h : c.All S) (ht : c.peek? = some t) {kind : Token.Kind} (hkind : t.kind = kind) :
    Token.Spells S kind t.text :=
  ⟨t, h.peek ht, hkind, rfl⟩

end Cursor

namespace Parser

variable {n : Nat} {α : Type}

/-- A parsing function gives values that satisfy `p` and leaves tokens that satisfy `S`. -/
def Builds (S : Token → Prop) (p : α → Prop) (r : Except Failure (Parsed n α)) : Prop :=
  ∀ a next, Reads r a next → p a ∧ next.All S

/-! ## Names and steps -/

theorem builds_boundName (hc : c.All S) : Builds S (Token.Spells S .name) (boundName c) := by
  intro name next h
  obtain ⟨t, ht, hkind, rfl, rfl⟩ := reads_boundName.mp h
  exact ⟨hc.spells ht hkind, hc.skip⟩

/-- Bound names are spelled by tokens, and there is one. -/
theorem builds_boundNames (c : Cursor) (hc : c.All S) :
    Builds S (fun names => names ≠ [] ∧ ∀ name ∈ names, Token.Spells S .name name) (boundNames c) := by
  intro names next h
  obtain ⟨name, d, hname, h⟩ := reads_boundNames.mp h
  obtain ⟨hspells, hd⟩ := builds_boundName hc name d hname
  split at h
  · obtain ⟨more, hmore, rfl⟩ := h
    have hfewer := hname.fewer
    have hskip := d.size_skip_le
    obtain ⟨⟨-, hnames⟩, hnext⟩ := builds_boundNames d.skip hd.skip more next hmore
    exact ⟨⟨List.cons_ne_nil _ _, List.forall_mem_cons.mpr ⟨hspells, hnames⟩⟩, hnext⟩
  · obtain ⟨rfl, rfl⟩ := h
    exact ⟨⟨List.cons_ne_nil _ _, List.forall_mem_singleton.mpr hspells⟩, hd⟩
termination_by c.size

/-- A key in brackets is spelled by a token. -/
theorem builds_indexKey (hc : c.All S) : Builds S (fun key => (Access.index key).BuiltFrom S) (indexKey c) := by
  intro key next h
  obtain ⟨t, ht, hkind, rfl, rfl⟩ := reads_indexKey.mp h
  exact ⟨hkind.imp (hc.spells ht) (hc.spells ht), hc.skip⟩

/-- The steps of a reference are built from tokens. -/
theorem builds_path (c : Cursor) (hc : c.All S) :
    Builds S (fun steps => ∀ access ∈ steps, access.BuiltFrom S) (path c) := by
  intro steps next h
  have hnil : steps = [] ∧ next = c → (∀ access ∈ steps, access.BuiltFrom S) ∧ next.All S := by
    rintro ⟨rfl, rfl⟩
    exact ⟨List.forall_mem_nil _, hc⟩
  replace h := reads_path.mp h
  split at h
  · rename_i t ht
    have hskip := Cursor.size_skip ht
    split at h
    · obtain ⟨key, d, hkey, u, d', hclose, more, hmore, rfl⟩ := h
      obtain ⟨hindex, hd⟩ := builds_indexKey hc.skip key d hkey
      have hfewer := hkey.fewer
      have hfewer' := hclose.fewer
      obtain ⟨_, -, -, rfl⟩ := reads_mark.mp hclose
      exact (builds_path d.skip hd.skip more next hmore).imp_left fun h => List.forall_mem_cons.mpr ⟨hindex, h⟩
    · split at h
      · rename_i hdotted
        obtain ⟨more, hmore, rfl⟩ := h
        have hproperty : (Access.property t.text).BuiltFrom S :=
          ⟨hc.spells ht hdotted.1, Bool.eq_false_iff.mpr hdotted.2.2⟩
        exact (builds_path c.skip hc.skip more next hmore).imp_left fun h => List.forall_mem_cons.mpr ⟨hproperty, h⟩
      · exact hnil h
  · exact hnil h
termination_by c.size

/-- The key of a pair is spelled by a token. -/
theorem spells_of_pairKey (hc : c.All S) {key : String} (h : pairKey? c = some key) : Token.Spells S .name key := by
  obtain ⟨before, rest, limit⟩ := c
  unfold pairKey? at h
  split at h
  · rename_i t _ _ hrest
    split at h
    · rename_i hkind
      cases h
      exact ⟨t, hc t (by rw [hrest]; exact List.mem_cons_self), hkind.1, rfl⟩
    · cases h
  · cases h

/-- The last number of a range is one of the tokens ahead. -/
theorem all_of_rangeEnd (hc : c.All S) {t last : Token} (h : rangeEnd? t c = some last) : S last ∧ last.kind = .number := by
  unfold rangeEnd? at h
  split at h
  · rename_i hrest
    split at h
    · rename_i hlast
      cases h
      exact ⟨hc last (by rw [hrest]; exact List.mem_cons_of_mem _ List.mem_cons_self), hlast.2.2.1⟩
    · cases h
  · cases h

/-- The last number of a range is denoted by a token. -/
theorem denotes_of_rangeEnd (hc : c.All S) {t last : Token} (h : rangeEnd? t c = some last) {x : Float}
    (hx : Number.read? last.text.toList = some x) : Token.Denotes S x :=
  have ⟨hlast, hkind⟩ := all_of_rangeEnd hc h
  ⟨last, hlast, hkind, hx⟩

/-- The entries of a table read so far are built from tokens that satisfy `S`. -/
def Entries.BuiltFrom (S : Token → Prop) : Entries → Prop
  | .items es => ∀ item ∈ es, item.BuiltFrom S
  | .pairs ps => ps ≠ [] ∧ (∀ pair ∈ ps, Token.Spells S .name pair.1) ∧ ∀ pair ∈ ps, pair.2.BuiltFrom S

namespace Entries

/-- Entries built from tokens make an expression built from them. -/
theorem BuiltFrom.toExpr {entries : Entries} (h : entries.BuiltFrom S) : entries.toExpr.BuiltFrom S := by
  cases entries with
  | items es => exact .sequence h
  | pairs ps => exact .dictionary h.1 h.2.1 h.2.2

/-- A pair built from tokens may be added. -/
theorem BuiltFrom.addPair {entries : Entries} (h : entries.BuiltFrom S) {key : String} {value : Expr}
    (hkey : Token.Spells S .name key) (hvalue : value.BuiltFrom S) : (entries.addPair key value).BuiltFrom S := by
  cases entries with
  | items es => exact ⟨List.cons_ne_nil _ _, List.forall_mem_singleton.mpr hkey, List.forall_mem_singleton.mpr hvalue⟩
  | pairs ps =>
    exact ⟨List.append_ne_nil_of_right_ne_nil _ (List.cons_ne_nil _ _),
      List.forall_mem_append.mpr ⟨h.2.1, List.forall_mem_singleton.mpr hkey⟩,
      List.forall_mem_append.mpr ⟨h.2.2, List.forall_mem_singleton.mpr hvalue⟩⟩

/-- An item built from tokens may be added. -/
theorem BuiltFrom.addItem {entries : Entries} (h : entries.BuiltFrom S) {item : Expr} (hitem : item.BuiltFrom S) :
    (entries.addItem item).BuiltFrom S := by
  cases entries with
  | items es => exact List.forall_mem_append.mpr ⟨h, List.forall_mem_singleton.mpr hitem⟩
  | pairs ps => exact List.forall_mem_singleton.mpr hitem

end Entries

/-! ## Expressions -/

mutual

/-- An expression of a level is built from tokens. -/
theorem builds_level (l : Expr.Level) (c : Cursor) (hc : c.All S) : Builds S (Expr.BuiltFrom S) (level l c) := by
  intro e next h
  obtain ⟨left, d, hleft, h⟩ := reads_level.mp h
  have hfewer := hleft.fewer
  obtain ⟨hbuilt, hd⟩ := builds_operand l c hc left d hleft
  exact builds_chain l left d hbuilt hd e next h
termination_by (c.size, 2 * l.rank + 3)

theorem builds_operand (l : Expr.Level) (c : Cursor) (hc : c.All S) : Builds S (Expr.BuiltFrom S) (operand l c) := by
  rw [operand_eq]
  split
  · rename_i m h
    have := Expr.Level.rank_tighter h
    exact builds_level m c hc
  · exact builds_unary c hc
termination_by (c.size, 2 * l.rank + 2)

/-- A chain of operators is built from tokens. -/
theorem builds_chain (l : Expr.Level) (left : Expr) (c : Cursor) (hleft : left.BuiltFrom S) (hc : c.All S) :
    Builds S (Expr.BuiltFrom S) (chain l left c) := by
  intro e next h
  replace h := reads_chain.mp h
  split at h
  · rename_i hmark
    obtain ⟨names, d, hnames, h⟩ := h
    have hs := Cursor.size_skip_of_atMark hmark.2
    have hfewer := hnames.fewer
    obtain ⟨⟨hne, hspells⟩, hd⟩ := builds_boundNames c.skip hc.skip names d hnames
    exact builds_chain l (.binding left names) d (.binding hleft hne hspells) hd e next h
  · split at h
    · obtain ⟨rfl, rfl⟩ := h
      exact ⟨hleft, hc⟩
    · rename_i op hop
      obtain ⟨right, d, hright, h⟩ := h
      have hs := size_skip_of_operator hop
      have hfewer := hright.fewer
      obtain ⟨hbuilt, hd⟩ := builds_operand l c.skip hc.skip right d hright
      split at h
      · exact builds_chain l (.binary op left right) d (.binary hleft hbuilt) hd e next h
      · obtain ⟨rfl, rfl⟩ := h
        exact ⟨.binary hleft hbuilt, hd⟩
termination_by (c.size, 0)

/-- A negation is built from tokens. -/
theorem builds_unary (c : Cursor) (hc : c.All S) : Builds S (Expr.BuiltFrom S) (unary c) := by
  intro e next h
  replace h := reads_unary.mp h
  split at h
  · rename_i hnot
    obtain ⟨e', h, rfl⟩ := h
    obtain ⟨t, ht, -⟩ := (Option.any_eq_true _ _).mp hnot
    have hs := Cursor.size_skip ht
    exact (builds_unary c.skip hc.skip e' next h).imp_left .negation
  · exact builds_primary c hc e next h
termination_by (c.size, 1)

theorem builds_primary (c : Cursor) (hc : c.All S) : Builds S (Expr.BuiltFrom S) (primary c) := by
  intro e next h
  obtain ⟨t, ht, e', d, hbase, h⟩ := reads_primary.mp h
  have hs := Cursor.size_skip ht
  have hfewer := hbase.fewer
  obtain ⟨hbuilt, hd⟩ := builds_base t c.skip (hc.peek ht) hc.skip e' d hbase
  exact builds_methods e' d hbuilt hd e next h
termination_by (c.size, 0)

/-- What a token starts is built from tokens, if the token is one of them. -/
theorem builds_base (t : Token) (c : Cursor) (ht : S t) (hc : c.All S) :
    Builds S (Expr.BuiltFrom S) (base t c) := by
  intro e next h
  replace h := reads_base.mp h
  split at h
  · rename_i hkind
    split at h
    · rename_i last hlast
      obtain ⟨low, high, hlow, hhigh, rfl, rfl⟩ := h
      exact ⟨.range ⟨t, ht, hkind, hlow⟩ (denotes_of_rangeEnd hc hlast hhigh), hc.skip.skip⟩
    · obtain ⟨x, hx, rfl, rfl⟩ := h
      exact ⟨.number ⟨t, ht, hkind, hx⟩, hc⟩
  · rename_i hkind
    obtain ⟨rfl, rfl⟩ := h
    exact ⟨.text ⟨t, ht, hkind, rfl⟩, hc⟩
  · rename_i hkind
    split at h
    · obtain ⟨rfl, rfl⟩ := h
      exact ⟨.truth true, hc⟩
    · rename_i htrue
      split at h
      · obtain ⟨rfl, rfl⟩ := h
        exact ⟨.truth false, hc⟩
      · rename_i hfalse
        obtain ⟨hconnective, steps, hsteps, rfl⟩ := h
        obtain ⟨hpath, hnext⟩ := builds_path c hc steps next hsteps
        refine ⟨.reference ⟨t, ht, hkind, rfl⟩ (fun hreserved => ?_) hpath, hnext⟩
        rcases List.mem_append.mp hreserved with hword | hword
        · exact hconnective hword
        · exact (List.mem_cons.mp hword).elim htrue fun h => hfalse (List.mem_singleton.mp h)
  · rename_i hkind
    obtain ⟨args, hargs, rfl⟩ := h
    exact (builds_arguments c hc args next hargs).imp_left (.call ⟨t, ht, hkind, rfl⟩)
  · split at h
    · obtain ⟨inner, d, hinner, u, hclose, rfl⟩ := h
      obtain ⟨hbuilt, hd⟩ := builds_level .disjunction c hc e d hinner
      obtain ⟨_, -, -, rfl⟩ := reads_mark.mp hclose
      exact ⟨hbuilt, hd.skip⟩
    · split at h
      · exact builds_table (.items []) c (List.forall_mem_nil _) hc e next h
      · exact h.elim
termination_by (c.size, 20)

/-- Calls on a target are built from tokens, if the target is. -/
theorem builds_methods (target : Expr) (c : Cursor) (htarget : target.BuiltFrom S) (hc : c.All S) :
    Builds S (Expr.BuiltFrom S) (methods target c) := by
  intro e next h
  replace h := reads_methods.mp h
  split at h
  · rename_i t ht
    split at h
    · rename_i hdotted
      obtain ⟨args, d, hargs, h⟩ := h
      have hs := Cursor.size_skip ht
      have hfewer := hargs.fewer
      obtain ⟨hbuilt, hd⟩ := builds_arguments c.skip hc.skip args d hargs
      have hmethod := htarget.method (hc.spells ht hdotted.1) hbuilt
      exact builds_methods (.method target t.text args) d hmethod hd e next h
    · obtain ⟨rfl, rfl⟩ := h
      exact ⟨htarget, hc⟩
  · obtain ⟨rfl, rfl⟩ := h
    exact ⟨htarget, hc⟩
termination_by (c.size, 0)

/-- Arguments are built from tokens. -/
theorem builds_arguments (c : Cursor) (hc : c.All S) :
    Builds S (fun args => ∀ arg ∈ args, arg.BuiltFrom S) (arguments c) := by
  intro args next h
  replace h := reads_arguments.mp h
  split at h
  · obtain ⟨first, d, hfirst, more, hmore, rfl⟩ := h
    have hfewer := hfirst.fewer
    obtain ⟨hbuilt, hd⟩ := builds_primary c hc first d hfirst
    exact (builds_arguments d hd more next hmore).imp_left fun h => List.forall_mem_cons.mpr ⟨hbuilt, h⟩
  · obtain ⟨rfl, rfl⟩ := h
    exact ⟨List.forall_mem_nil _, hc⟩
termination_by (c.size, 1)

/-- What stands between braces is built from tokens. -/
theorem builds_table (entries : Entries) (c : Cursor) (hentries : entries.BuiltFrom S) (hc : c.All S) :
    Builds S (Expr.BuiltFrom S) (table entries c) := by
  intro e next h
  obtain ⟨t, ht, h⟩ := reads_table.mp h
  have hs := Cursor.size_skip ht
  split at h
  · obtain ⟨rfl, rfl⟩ := h
    exact ⟨hentries.toExpr, hc.skip⟩
  · split at h
    · rename_i key hkey
      obtain ⟨-, value, d, hvalue, h⟩ := h
      have hss := size_skip_skip_of_pairKey hkey
      have hfewer := hvalue.fewer
      have hcomma := size_skipComma d
      obtain ⟨hbuilt, hd⟩ := builds_level .disjunction c.skip.skip hc.skip.skip value d hvalue
      have hadded := hentries.addPair (spells_of_pairKey hc hkey) hbuilt
      exact builds_table _ (skipComma d) hadded hd.skipComma e next h
    · obtain ⟨-, item, d, hitem, h⟩ := h
      have hfewer := hitem.fewer
      have hcomma := size_skipComma d
      obtain ⟨hbuilt, hd⟩ := builds_level .disjunction c hc item d hitem
      exact builds_table _ (skipComma d) (hentries.addItem hbuilt) hd.skipComma e next h
termination_by (c.size, 19)

end

end Parser

/-- What holds of all tokens of a text holds of those that the expression it spells is built from. -/
theorem Expr.builtFrom_of_parse {mode : LexMode} {text : List Char} {e : Expr}
    (hS : ∀ tokens, tokenize mode text = .ok tokens → ∀ t ∈ tokens, S t) (h : parse mode text = .ok e) :
    e.BuiltFrom S := by
  obtain ⟨tokens, htokens, h⟩ := parse_eq_ok_iff.mp h
  by_cases hne : tokens = []
  · subst hne
    cases h
    exact .truth false
  · obtain ⟨next, hread, -⟩ := (ofTokens_eq_ok_iff hne).mp h
    exact (Parser.builds_level .disjunction (Cursor.start tokens) (hS tokens htokens) e next hread).1

end ConditionLang
