import ConditionLang.Proofs.Writing

/-!
# The image of the parser

The parser reads exactly the writable expressions (`exists_parse_iff`). What it reads is writable; conversely it reads back
the snippets of a writable expression, wherever they stand and whatever follows the parenthesis after them.
-/

namespace ConditionLang

/-! ## Levels -/

namespace Parser

variable {c d : Cursor} {e left : Expr}

/-- An operator of the level, or the mark of a binding at its level, stands at the place. -/
def Follows (l : Expr.Level) (c : Cursor) : Prop :=
  (operator? l c).isSome = true ∨ l = .binding ∧ c.atMark ">>" = true

/-- A chain ends where no operator of its level follows. -/
theorem reads_chain_of_not_follows {l : Expr.Level} (h : ¬Follows l c) : Reads (chain l left c) left c := by
  have hnone : operator? l c = none := by
    rw [← Option.not_isSome_iff_eq_none]
    exact fun hsome => h (.inl hsome)
  rw [reads_chain, if_neg fun hmark => h (.inr hmark), hnone]
  exact ⟨rfl, rfl⟩

/-- What is read without operators is an operand of a level if no operator of a tighter level follows. -/
theorem reads_operand_of_unary (h : Reads (unary c) e d) (l : Expr.Level) (hd : ∀ m, m.rank < l.rank → ¬Follows m d) :
    Reads (operand l c) e d := by
  rw [operand_eq]
  split
  · rename_i m hm
    have hrank := Expr.Level.rank_tighter hm
    refine reads_level.mpr ⟨e, d, ?_, reads_chain_of_not_follows (hd m hrank)⟩
    exact reads_operand_of_unary h m fun m' hm' => hd m' (Nat.lt_trans hm' hrank)
  · exact h
termination_by l.rank

/-- Each level but the loosest has a level that is looser by one. -/
theorem Level.exists_looser (l : Expr.Level) :
    l = .disjunction ∨ ∃ m : Expr.Level, m.tighter? = some l ∧ m.rank = l.rank + 1 ∧ m.rank ≤ 7 := by
  cases l with
  | disjunction => exact .inl rfl
  | conjunction => exact .inr ⟨.disjunction, by decide⟩
  | binding => exact .inr ⟨.conjunction, by decide⟩
  | comparison => exact .inr ⟨.binding, by decide⟩
  | concatenation => exact .inr ⟨.comparison, by decide⟩
  | sum => exact .inr ⟨.concatenation, by decide⟩
  | product => exact .inr ⟨.sum, by decide⟩

/-- What is read at a level is a whole expression if no operator of a looser level follows. -/
theorem reads_disjunction_of_level (l : Expr.Level) (h : Reads (level l c) e d)
    (hd : ∀ m, l.rank < m.rank → ¬Follows m d) : Reads (level .disjunction c) e d := by
  rcases Level.exists_looser l with rfl | ⟨m, hm, hrank, hmax⟩
  · exact h
  · refine reads_disjunction_of_level m (reads_level.mpr ⟨e, d, ?_, reads_chain_of_not_follows (hd m (by omega))⟩)
      fun m' hm' => hd m' (by omega)
    rw [operand_eq, hm]
    exact h
termination_by 7 - l.rank

/-- What is read without operators is a whole expression if no operator follows. -/
theorem reads_disjunction_of_unary (h : Reads (unary c) e d) (hd : ∀ m, ¬Follows m d) :
    Reads (level .disjunction c) e d :=
  reads_level.mpr ⟨e, d, reads_operand_of_unary h _ fun m _ => hd m, reads_chain_of_not_follows (hd _)⟩

/-! ## Numbers and names -/

section

variable {t : Token}

/-- A number that does not start a range is read as a literal. -/
theorem reads_base_number {x : Float} (hkind : t.kind = .number) (hend : rangeEnd? t c = none)
    (hx : Number.read? t.text.toList = some x) : Reads (base t c) (.number x) c := by
  rw [reads_base, hkind]
  simp only [hend]
  exact ⟨x, hx, rfl, trivial⟩

/-- Two numbers with two dots between them are read as a range. -/
theorem reads_base_range {last : Token} {x y : Float} (hkind : t.kind = .number) (hend : rangeEnd? t c = some last)
    (hx : Number.read? t.text.toList = some x) (hy : Number.read? last.text.toList = some y) :
    Reads (base t c) (.range x y) c.skip.skip := by
  rw [reads_base, hkind]
  simp only [hend]
  exact ⟨x, y, hx, hy, rfl, trivial⟩

/-- A name that is not reserved is read as a reference, with the steps after it. -/
theorem reads_base_reference {steps : List Access} (hkind : t.kind = .name) (hname : t.text ∉ reservedWords)
    (hsteps : Reads (path c) steps d) : Reads (base t c) (.reference ⟨t.text, steps⟩) d := by
  have htrue : t.text ≠ "True" := fun h => hname (h ▸ by decide)
  have hfalse : t.text ≠ "False" := fun h => hname (h ▸ by decide)
  rw [reads_base, hkind]
  simp only [if_neg htrue, if_neg hfalse]
  exact ⟨fun hword => hname (List.mem_append_left _ hword), steps, hsteps, rfl⟩

end

/-! ## Entries of tables -/

section

variable {entries : Entries} {next : Cursor} {t : Token}

/-- An item between braces is read and added to those before it. -/
theorem reads_table_item {item : Expr} (ht : c.peek? = some t) (hbrace : t.isMark "\x7d" = false)
    (hkey : pairKey? c = none) (htakes : entries.takesItem = true) (hitem : Reads (level .disjunction c) item d)
    (hmore : Reads (table (entries.addItem item) (skipComma d)) e next) : Reads (table entries c) e next := by
  refine reads_table.mpr ⟨t, ht, ?_⟩
  rw [hbrace, if_neg Bool.false_ne_true, hkey]
  exact ⟨htakes, item, d, hitem, hmore⟩

/-- A pair between braces is read and added to those before it. -/
theorem reads_table_pair {key : String} {value : Expr} (ht : c.peek? = some t) (hbrace : t.isMark "\x7d" = false)
    (hkey : pairKey? c = some key) (htakes : entries.takesPair = true)
    (hvalue : Reads (level .disjunction c.skip.skip) value d)
    (hmore : Reads (table (entries.addPair key value) (skipComma d)) e next) : Reads (table entries c) e next := by
  refine reads_table.mpr ⟨t, ht, ?_⟩
  rw [hbrace, if_neg Bool.false_ne_true, hkey]
  exact ⟨htakes, value, d, hvalue, hmore⟩

end

end Parser

/-! ## Operators -/

/-- The level of an operator. -/
def Snippet.levelOf : Operator → Expr.Level
  | .or => .disjunction
  | .and => .conjunction
  | .eq | .ne | .gt | .lt | .ge | .le => .comparison
  | .concat => .concatenation
  | .add | .sub => .sum
  | .mul | .div | .mod | .floorDiv => .product

namespace Token

variable {t : Token} {op : Operator}

/-- A token that spells an operator is a mark or a name with its text. -/
theorem of_spells (h : t.spells op = true) : (t.kind = .mark ∨ t.kind = .name) ∧ t.text = op.symbol := by
  cases op <;> simp_all [spells, isMark, isWord]

/-- No operator is spelled by a name after a dot. -/
theorem kind_ne_dotted_of_spells (h : t.spells op = true) : t.kind ≠ .dotted := by
  rcases (of_spells h).1 with hkind | hkind
  · rw [hkind]
    decide
  · rw [hkind]
    decide

/-- A token spells one operator only. -/
theorem spells_eq (h : t.spells op = true) (op' : Operator) : t.spells op' = (op' == op) := by
  by_cases heq : op' = op
  · rw [heq, h, beq_self_eq_true]
  · rw [beq_false_of_ne heq, Bool.eq_false_iff]
    intro h'
    exact heq (Operator.symbol_injective ((of_spells h').2.symm.trans (of_spells h).2))

/-- A token that spells an operator is no other mark. -/
theorem isMark_eq_false_of_spells (h : t.spells op = true) {m : String} (hm : op.symbol ≠ m) : t.isMark m = false := by
  rw [isMark, (of_spells h).2, beq_false_of_ne hm, Bool.and_false]

end Token

namespace Parser

open Snippet

variable {c d next : Cursor} {t : Token} {op : Operator} {l : Expr.Level}

/-- An operator is read at its own level only. -/
theorem operator?_of_spells (ht : c.peek? = some t) (hop : t.spells op = true) (l : Expr.Level) :
    operator? l c = if levelOf op = l then some op else none := by
  have hspells : t.spells = (· == op) := funext (Token.spells_eq hop)
  unfold operator?
  rw [ht]
  show l.operators.find? t.spells = _
  rw [hspells]
  cases op <;> cases l <;> rfl

/-- An operator between values is not `>>`. -/
theorem atMark_binding_of_spells (ht : c.peek? = some t) (hop : t.spells op = true) : c.atMark ">>" = false := by
  unfold Cursor.atMark
  rw [ht]
  exact Token.isMark_eq_false_of_spells hop (by cases op <;> decide)

/-- An operator does not follow at another level than its own. -/
theorem not_follows_of_spells (ht : c.peek? = some t) (hop : t.spells op = true) (h : l ≠ levelOf op) : ¬Follows l c := by
  rintro (hsome | ⟨-, hmark⟩)
  · rw [operator?_of_spells ht hop, if_neg h.symm] at hsome
    cases hsome
  · rw [atMark_binding_of_spells ht hop] at hmark
    cases hmark

/-- The operator `>>` does not follow at another level than its own. -/
theorem not_follows_of_binding (hmark : c.atMark ">>" = true) (h : l ≠ .binding) : ¬Follows l c := by
  rintro (hsome | ⟨hl, -⟩)
  · obtain ⟨op, hop⟩ := Option.isSome_iff_exists.mp hsome
    obtain ⟨t, ht, hfind⟩ := Option.bind_eq_some_iff.mp hop
    cases hmark.symm.trans (atMark_binding_of_spells ht (List.find?_some hfind))
  · exact h hl

/-- What an operator joins is a whole expression if no operator follows. -/
theorem reads_disjunction_of_operator {left right : Expr} (hleft : Reads (unary c) left d) (ht : d.peek? = some t)
    (hop : t.spells op = true) (hright : Reads (unary d.skip) right next) (hend : ∀ m, ¬Follows m next) :
    Reads (level .disjunction c) (.binary op left right) next := by
  have hmark := atMark_binding_of_spells ht hop
  -- The levels tighter than that of the operator have nothing to read after the first operand.
  have hoperand := reads_operand_of_unary hleft (levelOf op) fun m hm =>
    not_follows_of_spells ht hop fun heq => absurd hm (heq ▸ Nat.lt_irrefl _)
  have hoperand' := reads_operand_of_unary hright (levelOf op) fun m _ => hend m
  have hchain : Reads (chain (levelOf op) left d) (.binary op left right) next := by
    rw [reads_chain, if_neg fun h => Bool.false_ne_true (hmark.symm.trans h.2), operator?_of_spells ht hop, if_pos rfl]
    refine ⟨right, next, hoperand', ?_⟩
    split
    · exact reads_chain_of_not_follows (hend _)
    · exact ⟨rfl, rfl⟩
  exact reads_disjunction_of_level (levelOf op) (reads_level.mpr ⟨left, d, hoperand, hchain⟩) fun m _ => hend m

/-- What is bound to names is a whole expression if no operator follows. -/
theorem reads_disjunction_of_binding {value : Expr} {names : List String} (hvalue : Reads (unary c) value d)
    (hmark : d.atMark ">>" = true) (hnames : Reads (boundNames d.skip) names next) (hend : ∀ m, ¬Follows m next) :
    Reads (level .disjunction c) (.binding value names) next := by
  have hoperand := reads_operand_of_unary hvalue .binding fun m hm =>
    not_follows_of_binding hmark fun heq => absurd hm (heq ▸ Nat.lt_irrefl _)
  have hchain : Reads (chain .binding value d) (.binding value names) next :=
    reads_chain.mpr ((if_pos ⟨rfl, hmark⟩).mpr ⟨names, next, hnames, reads_chain_of_not_follows (hend _)⟩)
  exact reads_disjunction_of_level .binding (reads_level.mpr ⟨value, d, hoperand, hchain⟩) fun m _ => hend m

end Parser

/-! ## Places before snippets -/

namespace Snippet

open ConditionLang.Parser

variable {limit : Nat} {rest : List Snippet} {e : Expr}

/-- The place before some snippets that are written after the byte `position`. -/
def cursor (limit position : Nat) (snippets : List Snippet) : Cursor :=
  ⟨some position, place position snippets, limit⟩

/-- The place before a snippet is adjacent to it if and only if the snippet is joined to what comes before. -/
theorem isAdjacent_cursor {position : Nat} {p : Snippet} :
    (cursor limit position (p :: rest)).isAdjacent = p.joined := by
  show (position == if p.joined then position else position + 1) = p.joined
  cases p.joined with
  | true => exact beq_self_eq_true position
  | false => exact beq_false_of_ne (Nat.succ_ne_self position).symm

/-- The snippets start with a closing parenthesis or a comma, or there are none. -/
def Halts (snippets : List Snippet) : Prop :=
  ∀ p ∈ snippets.head?, p = mark ")" ∨ p = mark ","

/-- Before a closing parenthesis or a comma, no operator follows. -/
theorem not_follows_of_halts (h : Halts rest) (l : Expr.Level) (position : Nat) :
    ¬Follows l (cursor limit position rest) := by
  have hnone : operator? l (cursor limit position rest) = none ∧ (cursor limit position rest).atMark ">>" = false := by
    cases rest with
    | nil => exact ⟨rfl, rfl⟩
    | cons p rest =>
      rcases h p rfl with rfl | rfl
      · cases l <;> exact ⟨rfl, rfl⟩
      · cases l <;> exact ⟨rfl, rfl⟩
  rintro (hop | ⟨-, hmark⟩)
  · rw [hnone.1] at hop
    cases hop
  · rw [hnone.2] at hmark
    cases hmark

/-- The snippets start with a closing parenthesis, or there are none. -/
def Ends (snippets : List Snippet) : Prop :=
  ∀ p ∈ snippets.head?, p = mark ")"

theorem Ends.halts (h : Ends rest) : Halts rest :=
  fun p hp => .inl (h p hp)

/-- No name after a dot is joined to what stands before the snippets. -/
def Apart (snippets : List Snippet) : Prop :=
  ∀ p ∈ snippets.head?, p.kind = .dotted → p.joined = false

/-- Snippets that halt do not start with a joined name after a dot. -/
theorem Halts.apart (h : Halts rest) : Apart rest := by
  intro p hp hkind
  rcases h p hp with rfl | rfl
  · rfl
  · rfl

/-! ## Steps and names -/

/-- The steps of a reference are read up to the snippets after them. -/
theorem reads_path_cursor (limit : Nat) (hrest : Ends rest) {steps : List Access}
    (h : ∀ access ∈ steps, access.Writable) (position : Nat) :
    ∃ stop, Reads (Parser.path (cursor limit position (path steps rest))) steps (cursor limit stop rest) := by
  induction steps generalizing position with
  | nil =>
    refine ⟨position, reads_path.mpr ?_⟩
    cases rest with
    | nil => exact ⟨rfl, rfl⟩
    | cons p rest =>
      obtain rfl := hrest p rfl
      exact ⟨rfl, rfl⟩
  | cons access steps ih =>
    have haccess := h access List.mem_cons_self
    replace ih := ih fun access hmem => h access (List.mem_cons_of_mem _ hmem)
    cases access with
    | property key =>
      obtain ⟨stop, hmore⟩ := ih ((dotted true key).token position).stop
      have htext : ((dotted true key).token position).text = key := String.ofList_toList
      have hdotted : ((dotted true key).token position).kind = .dotted ∧
          (cursor limit position (dotted true key :: path steps rest)).isAdjacent = true ∧
          ¬isBuiltin ((dotted true key).token position).text = true := by
        refine ⟨rfl, isAdjacent_cursor, ?_⟩
        rw [htext, haccess.2]
        exact Bool.false_ne_true
      refine ⟨stop, reads_path.mpr ((if_pos hdotted).mpr ⟨steps, hmore, ?_⟩)⟩
      rw [htext]
    | index key =>
      obtain ⟨stop, hmore⟩ := ih ((mark "]").token ((quoted key).token ((mark "[").token position).stop).stop).stop
      refine ⟨stop, reads_path.mpr ⟨key, _, reads_indexKey.mpr ⟨_, rfl, .inl rfl, ?_, rfl⟩, (), _,
        reads_mark.mpr ⟨_, rfl, rfl, rfl⟩, steps, hmore, rfl⟩⟩
      exact String.ofList_toList.symm

/-- A name is read where it stands. -/
theorem reads_boundName_cursor (s : String) (position : Nat) :
    Reads (boundName (cursor limit position (name s :: rest))) s (cursor limit ((name s).token position).stop rest) :=
  reads_boundName.mpr ⟨_, rfl, rfl, String.ofList_toList.symm, rfl⟩

/-- The names of a binding are read up to the snippets after them. -/
theorem reads_names_cursor (limit : Nat) (hrest : Ends rest) {bound : List String} (hne : bound ≠ []) (position : Nat) :
    ∃ stop, Reads (boundNames (cursor limit position (names bound rest))) bound (cursor limit stop rest) := by
  induction bound generalizing position with
  | nil => exact absurd rfl hne
  | cons s more ih =>
    cases more with
    | nil =>
      have hcomma : ¬(cursor limit ((name s).token position).stop rest).atMark "," = true := by
        cases rest with
        | nil => exact Bool.false_ne_true
        | cons p rest =>
          obtain rfl := hrest p rfl
          exact Bool.false_ne_true
      refine ⟨((name s).token position).stop, reads_boundNames.mpr ⟨s, _, reads_boundName_cursor s position, ?_⟩⟩
      exact (if_neg hcomma).mpr ⟨rfl, rfl⟩
    | cons s' more =>
      obtain ⟨stop, hmore⟩ := ih (List.cons_ne_nil _ _) ((mark ",").token ((name s).token position).stop).stop
      exact ⟨stop, reads_boundNames.mpr ⟨s, _, reads_boundName_cursor s position, s' :: more, hmore, rfl⟩⟩

/-! ## Expressions in parentheses -/

/-- The snippets of an expression are read back wherever they stand, if a closing parenthesis or nothing follows. -/
def ReadsBack (e : Expr) : Prop :=
  ∀ limit before position rest, Ends rest →
    ∃ stop, Reads (level .disjunction ⟨before, place position (e.snippets rest), limit⟩) e (cursor limit stop rest)

theorem ends_close : Ends (mark ")" :: rest) :=
  fun _ h => (Option.some.inj h).symm

/-- After an opening parenthesis the expression and the closing parenthesis are read. -/
theorem ReadsBack.base (h : ReadsBack e) (limit position : Nat) (rest : List Snippet) :
    ∃ stop, Reads (Parser.base ((mark "(").token position) (cursor limit ((mark "(").token position).stop
      (e.snippets (mark ")" :: rest)))) e (cursor limit stop rest) := by
  obtain ⟨stop, hinner⟩ := h limit _ ((mark "(").token position).stop (mark ")" :: rest) ends_close
  exact ⟨_, reads_base.mpr ⟨e, _, hinner, (), reads_mark.mpr ⟨_, rfl, rfl, rfl⟩, rfl⟩⟩

/-- Method calls end where no name after a dot is joined. -/
theorem reads_methods_of_apart (limit : Nat) (h : Apart rest) (target : Expr) (position : Nat) :
    Reads (methods target (cursor limit position rest)) target (cursor limit position rest) := by
  rw [reads_methods]
  cases rest with
  | nil => exact ⟨rfl, rfl⟩
  | cons p rest =>
    have hnot : ¬((p.token position).kind = .dotted ∧ (cursor limit position (p :: rest)).isAdjacent = true) := by
      rintro ⟨hkind, hadjacent⟩
      rw [isAdjacent_cursor, h p rfl hkind] at hadjacent
      cases hadjacent
    exact (if_neg hnot).mpr ⟨rfl, rfl⟩

/-- An expression in parentheses is read as a primary expression. -/
theorem ReadsBack.primary (h : ReadsBack e) (limit : Nat) (before : Option Nat) (position : Nat) (hrest : Apart rest) :
    ∃ stop, Reads (Parser.primary ⟨before, place position (mark "(" :: e.snippets (mark ")" :: rest)), limit⟩) e
      (cursor limit stop rest) := by
  obtain ⟨stop, hbase⟩ := h.base limit position rest
  exact ⟨stop, reads_primary.mpr ⟨_, rfl, e, _, hbase, reads_methods_of_apart limit hrest e stop⟩⟩

/-- An expression in parentheses is read as an operand. -/
theorem ReadsBack.unary (h : ReadsBack e) (limit : Nat) (before : Option Nat) (position : Nat) (hrest : Apart rest) :
    ∃ stop, Reads (Parser.unary ⟨before, place position (mark "(" :: e.snippets (mark ")" :: rest)), limit⟩) e
      (cursor limit stop rest) := by
  obtain ⟨stop, hprimary⟩ := h.primary limit before position hrest
  exact ⟨stop, reads_unary.mpr hprimary⟩

/-- An expression in parentheses is read as a whole expression. -/
theorem ReadsBack.disjunction (h : ReadsBack e) (limit : Nat) (before : Option Nat) (position : Nat) (hrest : Halts rest) :
    ∃ stop, Reads (level .disjunction ⟨before, place position (mark "(" :: e.snippets (mark ")" :: rest)), limit⟩) e
      (cursor limit stop rest) := by
  obtain ⟨stop, hunary⟩ := h.unary limit before position hrest.apart
  exact ⟨stop, reads_disjunction_of_unary hunary fun m => not_follows_of_halts hrest m stop⟩

/-! ## Arguments and tables -/

/-- Arguments are no joined names after a dot. -/
theorem apart_argumentSnippets (args : List Expr) (hrest : Apart rest) : Apart (Expr.argumentSnippets args rest) := by
  cases args with
  | nil => exact hrest
  | cons arg args =>
    rintro p ⟨⟩ hkind
    cases hkind

/-- Arguments in parentheses are read one after another, as primary expressions. -/
theorem reads_arguments_cursor (limit : Nat) (hrest : Ends rest) {args : List Expr} (h : ∀ arg ∈ args, ReadsBack arg)
    (position : Nat) :
    ∃ stop, Reads (arguments (cursor limit position (Expr.argumentSnippets args rest))) args (cursor limit stop rest) := by
  induction args generalizing position with
  | nil =>
    refine ⟨position, reads_arguments.mpr ?_⟩
    cases rest with
    | nil => exact ⟨rfl, rfl⟩
    | cons p rest =>
      obtain rfl := hrest p rfl
      exact ⟨rfl, rfl⟩
  | cons arg args ih =>
    obtain ⟨mid, hfirst⟩ := (h arg List.mem_cons_self).primary limit (some position) position
      (apart_argumentSnippets args hrest.halts.apart)
    obtain ⟨stop, hmore⟩ := ih (fun arg hmem => h arg (List.mem_cons_of_mem _ hmem)) mid
    exact ⟨stop, reads_arguments.mpr ⟨arg, _, hfirst, args, hmore, rfl⟩⟩

theorem halts_comma : Halts (mark "," :: rest) :=
  fun _ h => .inr (Option.some.inj h).symm

/-- An opening parenthesis is no key of a pair. -/
theorem pairKey?_parenthesis (position : Nat) : pairKey? (cursor limit position (mark "(" :: rest)) = none := by
  unfold pairKey?
  split
  · rename_i key _ _ heq
    obtain ⟨rfl, -⟩ := List.cons.inj heq
    exact if_neg fun h => nomatch h.1
  · rfl

/-- A name before `=` is the key of a pair. -/
theorem pairKey?_key (key : String) (position : Nat) :
    pairKey? (cursor limit position (name key :: mark "=" :: rest)) = some key :=
  congrArg some String.ofList_toList

/-- The items are read one after another and added to those read before. -/
theorem reads_items_cursor (limit : Nat) {items : List Expr} (h : ∀ item ∈ items, ReadsBack item) (done : List Expr)
    (position : Nat) :
    ∃ stop, Reads (table (.items done) (cursor limit position (Expr.itemSnippets items (mark "\x7d" :: rest))))
      (.sequence (done ++ items)) (cursor limit stop rest) := by
  induction items generalizing done position with
  | nil =>
    rw [List.append_nil]
    exact ⟨_, reads_table.mpr ⟨_, rfl, rfl, rfl⟩⟩
  | cons item items ih =>
    obtain ⟨mid, hitem⟩ := (h item List.mem_cons_self).disjunction limit (some position) position
      (halts_comma : Halts (mark "," :: Expr.itemSnippets items (mark "\x7d" :: rest)))
    obtain ⟨stop, hmore⟩ := ih (fun item hmem => h item (List.mem_cons_of_mem _ hmem)) (done ++ [item])
      ((mark ",").token mid).stop
    rw [List.append_assoc, List.singleton_append] at hmore
    exact ⟨stop, reads_table_item rfl rfl (pairKey?_parenthesis position) rfl hitem hmore⟩

/-- The pairs are read one after another and added to the entries. -/
theorem reads_pairs_cursor (limit : Nat) {pairs : List (String × Expr)} (h : ∀ pair ∈ pairs, ReadsBack pair.2)
    (entries : Parser.Entries) (hentries : entries.takesPair = true) (position : Nat) :
    ∃ stop, Reads (table entries (cursor limit position (Expr.pairSnippets pairs (mark "\x7d" :: rest))))
      (pairs.foldl (fun entries pair => entries.addPair pair.1 pair.2) entries).toExpr (cursor limit stop rest) := by
  induction pairs generalizing entries position with
  | nil => exact ⟨_, reads_table.mpr ⟨_, rfl, rfl, rfl⟩⟩
  | cons pair pairs ih =>
    obtain ⟨key, value⟩ := pair
    have hadded : (entries.addPair key value).takesPair = true := by
      cases entries <;> rfl
    let start := ((mark "=").token ((name key).token position).stop).stop
    obtain ⟨mid, hvalue⟩ := (h (key, value) List.mem_cons_self).disjunction limit (some start) start
      (halts_comma : Halts (mark "," :: Expr.pairSnippets pairs (mark "\x7d" :: rest)))
    obtain ⟨stop, hmore⟩ := ih (fun pair hmem => h pair (List.mem_cons_of_mem _ hmem)) (entries.addPair key value) hadded
      ((mark ",").token mid).stop
    exact ⟨stop, reads_table_pair rfl rfl (pairKey?_key key position) hentries hvalue hmore⟩

/-! ## Expressions -/

/-- A primary expression without method calls that does not start with `not` is a whole expression. -/
theorem reads_disjunction_of_base {p : Snippet} {snippets : List Snippet} {before : Option Nat} {position stop : Nat}
    (hrest : Ends rest) (hnot : (p.token position).isWord "not" = false)
    (h : Reads (Parser.base (p.token position) (cursor limit (p.token position).stop snippets)) e
      (cursor limit stop rest)) :
    Reads (level .disjunction ⟨before, place position (p :: snippets), limit⟩) e (cursor limit stop rest) := by
  have hprimary : Reads (Parser.primary ⟨before, place position (p :: snippets), limit⟩) e (cursor limit stop rest) :=
    reads_primary.mpr ⟨_, rfl, e, _, h, reads_methods_of_apart limit hrest.halts.apart e stop⟩
  refine reads_disjunction_of_unary (reads_unary.mpr ?_) fun m => not_follows_of_halts hrest.halts m stop
  have hpeek : ¬(⟨before, place position (p :: snippets), limit⟩ : Cursor).peek?.any (·.isWord "not") = true := by
    show ¬(p.token position).isWord "not" = true
    rw [hnot]
    exact Bool.false_ne_true
  exact (if_neg hpeek).mpr hprimary

/-- Before a closing parenthesis or the end, no range goes on. -/
theorem rangeEnd?_of_ends (hrest : Ends rest) (first : Token) (position : Nat) :
    rangeEnd? first (cursor limit position rest) = none := by
  unfold rangeEnd?
  split
  · rename_i dots last _ heq
    cases rest with
    | nil => cases heq
    | cons p rest =>
      obtain rfl := hrest p rfl
      obtain ⟨rfl, -⟩ := List.cons.inj heq
      exact if_neg fun h => nomatch h.1
  · rfl

theorem readsBack_number {x : Float} (h : Number.IsUnsigned x) : ReadsBack (.number x) := by
  intro limit before position rest hrest
  have hread : Number.read? ((literal false x).token position).text.toList = some x :=
    (congrArg Number.read? String.toList_ofList).trans (Number.read?_literal h)
  exact ⟨_, reads_disjunction_of_base hrest rfl (reads_base_number rfl (rangeEnd?_of_ends hrest _ _) hread)⟩

/-- A range between numbers without signs is read back. -/
theorem readsBack_range {x y : Float} (hx : Number.IsUnsigned x) (hy : Number.IsUnsigned y) : ReadsBack (.range x y) := by
  intro limit before position rest hrest
  have hread : ∀ joined position {z : Float}, Number.IsUnsigned z →
      Number.read? ((literal joined z).token position).text.toList = some z :=
    fun _ _ _ h => (congrArg Number.read? String.toList_ofList).trans (Number.read?_literal h)
  refine ⟨_, reads_disjunction_of_base hrest rfl (reads_base_range rfl (if_pos ⟨rfl, rfl, rfl, rfl⟩) ?_ ?_)⟩
  · exact hread false position hx
  · exact hread true _ hy

theorem readsBack_truth (b : Bool) : ReadsBack (.truth b) := by
  intro limit before position rest hrest
  cases b with
  | true => exact ⟨_, reads_disjunction_of_base hrest rfl (reads_base.mpr ⟨rfl, rfl⟩)⟩
  | false => exact ⟨_, reads_disjunction_of_base hrest rfl (reads_base.mpr ⟨rfl, rfl⟩)⟩

theorem readsBack_text (s : String) : ReadsBack (.text s) := by
  intro limit before position rest hrest
  exact ⟨_, reads_disjunction_of_base hrest rfl (reads_base.mpr ⟨congrArg Expr.text String.ofList_toList.symm, rfl⟩)⟩

/-- A reference with a name that is not reserved is read back. -/
theorem readsBack_reference {ref : Reference} (hname : ref.name ∉ reservedWords)
    (hpath : ∀ access ∈ ref.path, access.Writable) : ReadsBack (.reference ref) := by
  intro limit before position rest hrest
  have htext : ((name ref.name).token position).text = ref.name := String.ofList_toList
  have hnot : ((name ref.name).token position).isWord "not" = false := by
    have hne : ref.name ≠ "not" := fun h => hname (h ▸ by decide)
    rw [Token.isWord, htext, beq_false_of_ne hne, Bool.and_false]
  obtain ⟨stop, hsteps⟩ := reads_path_cursor limit hrest hpath ((name ref.name).token position).stop
  have hbase := reads_base_reference rfl (htext ▸ hname) hsteps
  rw [htext] at hbase
  exact ⟨stop, reads_disjunction_of_base hrest hnot hbase⟩

theorem readsBack_sequence {items : List Expr} (h : ∀ item ∈ items, ReadsBack item) : ReadsBack (.sequence items) := by
  intro limit before position rest hrest
  obtain ⟨stop, htable⟩ := reads_items_cursor limit h [] ((mark "\x7b").token position).stop
  exact ⟨stop, reads_disjunction_of_base hrest rfl (reads_base.mpr htable)⟩

/-- Pairs are added in their order. -/
theorem foldl_addPair (done pairs : List (String × Expr)) :
    pairs.foldl (fun entries pair => entries.addPair pair.1 pair.2) (Entries.pairs done) = .pairs (done ++ pairs) := by
  induction pairs generalizing done with
  | nil => rw [List.append_nil, List.foldl_nil]
  | cons pair pairs ih =>
    rw [List.foldl_cons]
    refine (ih _).trans ?_
    rw [List.append_assoc, List.singleton_append]

/-- A map that is not empty is read back if its values are. -/
theorem readsBack_dictionary {pairs : List (String × Expr)} (hne : pairs ≠ []) (h : ∀ pair ∈ pairs, ReadsBack pair.2) :
    ReadsBack (.dictionary pairs) := by
  intro limit before position rest hrest
  obtain ⟨stop, htable⟩ := reads_pairs_cursor limit h (.items []) rfl ((mark "\x7b").token position).stop
  obtain ⟨pair, pairs, rfl⟩ := List.exists_cons_of_ne_nil hne
  have hentries : (pair :: pairs).foldl (fun entries pair => entries.addPair pair.1 pair.2) (Entries.items []) =
      .pairs (pair :: pairs) := foldl_addPair [pair] pairs
  rw [hentries] at htable
  exact ⟨stop, reads_disjunction_of_base hrest rfl (reads_base.mpr htable)⟩

theorem readsBack_negation (h : ReadsBack e) : ReadsBack (.negation e) := by
  intro limit before position rest hrest
  obtain ⟨stop, hunary⟩ := h.unary limit (some ((name "not").token position).stop) ((name "not").token position).stop
    hrest.halts.apart
  have hnot : Reads (Parser.unary ⟨before, place position (Expr.snippets (.negation e) rest), limit⟩) (.negation e)
      (cursor limit stop rest) := reads_unary.mpr ⟨e, hunary, rfl⟩
  exact ⟨stop, reads_disjunction_of_unary hnot fun m => not_follows_of_halts hrest.halts m stop⟩

theorem readsBack_call {function : String} {args : List Expr} (h : ∀ arg ∈ args, ReadsBack arg) :
    ReadsBack (.call function args) := by
  intro limit before position rest hrest
  obtain ⟨stop, hargs⟩ := reads_arguments_cursor limit hrest h ((dotted false function).token position).stop
  have hcall : Expr.call function args = .call ((dotted false function).token position).text args :=
    congrArg (Expr.call · args) String.ofList_toList.symm
  exact ⟨stop, reads_disjunction_of_base hrest rfl (reads_base.mpr ⟨args, hargs, hcall⟩)⟩

/-- A call on a target is read back if the target and the arguments are. -/
theorem readsBack_method {target : Expr} (htarget : ReadsBack target) {function : String} {args : List Expr}
    (h : ∀ arg ∈ args, ReadsBack arg) : ReadsBack (.method target function args) := by
  intro limit before position rest hrest
  obtain ⟨mid, hbase⟩ := htarget.base limit position (dotted true function :: Expr.argumentSnippets args rest)
  obtain ⟨stop, hargs⟩ := reads_arguments_cursor limit hrest h ((dotted true function).token mid).stop
  have htext : ((dotted true function).token mid).text = function := String.ofList_toList
  have hend := reads_methods_of_apart limit hrest.halts.apart (.method target function args) stop
  have hdotted : ((dotted true function).token mid).kind = .dotted ∧
      (cursor limit mid (dotted true function :: Expr.argumentSnippets args rest)).isAdjacent = true :=
    ⟨rfl, isAdjacent_cursor⟩
  have hmethods : Reads (methods target (cursor limit mid (dotted true function :: Expr.argumentSnippets args rest)))
      (.method target function args) (cursor limit stop rest) := by
    refine reads_methods.mpr ((if_pos hdotted).mpr ⟨args, _, hargs, ?_⟩)
    rw [htext]
    exact hend
  have hprimary : Reads
      (Parser.primary ⟨before, place position (Expr.snippets (.method target function args) rest), limit⟩)
      (.method target function args) (cursor limit stop rest) := reads_primary.mpr ⟨_, rfl, target, _, hbase, hmethods⟩
  exact ⟨stop, reads_disjunction_of_unary (reads_unary.mpr hprimary) fun m => not_follows_of_halts hrest.halts m stop⟩

theorem readsBack_binding {value : Expr} (h : ReadsBack value) {bound : List String} (hne : bound ≠ []) :
    ReadsBack (.binding value bound) := by
  intro limit before position rest hrest
  have hapart : Apart (mark ">>" :: names bound rest) := by
    rintro p ⟨⟩ hkind
    cases hkind
  obtain ⟨mid, hunary⟩ := h.unary limit before position hapart
  obtain ⟨stop, hnames⟩ := reads_names_cursor limit hrest hne ((mark ">>").token mid).stop
  exact ⟨stop, reads_disjunction_of_binding hunary rfl hnames fun m => not_follows_of_halts hrest.halts m stop⟩

theorem readsBack_binary {left right : Expr} (op : Operator) (hleft : ReadsBack left) (hright : ReadsBack right) :
    ReadsBack (.binary op left right) := by
  intro limit before position rest hrest
  have hapart : Apart (operator op :: mark "(" :: right.snippets (mark ")" :: rest)) := by
    rintro p ⟨⟩ -
    exact joined_operator op
  obtain ⟨mid, hunary⟩ := hleft.unary limit before position hapart
  obtain ⟨stop, hunary'⟩ := hright.unary limit (some ((operator op).token mid).stop) ((operator op).token mid).stop
    hrest.halts.apart
  have hspells : ((operator op).token mid).spells op = true := by
    cases op <;> rfl
  exact ⟨stop, reads_disjunction_of_operator hunary rfl hspells hunary' fun m => not_follows_of_halts hrest.halts m stop⟩

end Snippet

namespace Expr

open Snippet

mutual

/-- The snippets of a writable expression are read back. -/
theorem readsBack_of_writable (e : Expr) (h : e.Writable) : ReadsBack e := by
  cases e with
  | number value => exact readsBack_number h
  | truth value => exact readsBack_truth value
  | text value => exact readsBack_text value
  | range first last => exact readsBack_range h.1 h.2
  | reference ref => exact readsBack_reference h.2.1 h.2.2
  | sequence items => exact readsBack_sequence (readsBack_of_writableItems items h)
  | dictionary pairs => exact readsBack_dictionary h.1 (readsBack_of_writablePairs pairs h.2)
  | binary op left right => exact readsBack_binary op (readsBack_of_writable left h.1) (readsBack_of_writable right h.2)
  | negation operand => exact readsBack_negation (readsBack_of_writable operand h)
  | binding value bound => exact readsBack_binding (readsBack_of_writable value h.1) h.2.1
  | call function args => exact readsBack_call (readsBack_of_writableItems args h.2)
  | method target function args =>
    exact readsBack_method (readsBack_of_writable target h.1) (readsBack_of_writableItems args h.2.2)

theorem readsBack_of_writableItems (items : List Expr) (h : WritableItems items) : ∀ item ∈ items, ReadsBack item := by
  cases items with
  | nil => exact fun _ hmem => absurd hmem List.not_mem_nil
  | cons first items =>
    have hfirst := readsBack_of_writable first h.1
    have hitems := readsBack_of_writableItems items h.2
    exact fun item hmem => (List.mem_cons.mp hmem).elim (fun heq => heq ▸ hfirst) (hitems item)

theorem readsBack_of_writablePairs (pairs : List (String × Expr)) (h : WritablePairs pairs) :
    ∀ pair ∈ pairs, ReadsBack pair.2 := by
  cases pairs with
  | nil => exact fun _ hmem => absurd hmem List.not_mem_nil
  | cons first pairs =>
    obtain ⟨key, value⟩ := first
    have hvalue := readsBack_of_writable value h.2.1
    have hpairs := readsBack_of_writablePairs pairs h.2.2
    exact fun pair hmem => (List.mem_cons.mp hmem).elim (fun heq => heq ▸ hvalue) (hpairs pair)

end

/-- The text of a writable expression spells it. -/
theorem parse_spelling (mode : LexMode) {e : Expr} (h : e.Writable) : parse mode e.spelling = .ok e := by
  have htokens := tokenize_write (fits_snippets e h [] loose_nil trivial) mode
  have hne : place 0 (e.snippets []) ≠ [] := by
    cases e <;> exact List.cons_ne_nil _ _
  obtain ⟨stop, hread⟩ := readsBack_of_writable e h (Cursor.start (place 0 (e.snippets []))).limit none 0 []
    fun _ hp => nomatch hp
  exact parse_eq_ok_iff.mpr ⟨_, htokens, (ofTokens_eq_ok_iff hne).mpr ⟨_, hread, rfl⟩⟩

/-- The parser reads exactly the writable expressions. -/
theorem exists_parse_iff (mode : LexMode) (e : Expr) : (∃ text, parse mode text = .ok e) ↔ e.Writable :=
  ⟨fun ⟨_, h⟩ => writable_of_parse h, fun h => ⟨e.spelling, parse_spelling mode h⟩⟩

end Expr

end ConditionLang
