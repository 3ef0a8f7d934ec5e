import ConditionLang.Proofs.Boundaries
import ConditionLang.Proofs.Image

/-!
# Texts in parentheses

A text that spells an expression spells the same one in parentheses, whatever follows them, so such texts can be put together
to operators, bindings and method calls without knowing anything else of them (`parentheses_compose`). Argument lists, lists
of bound names, member chains and ranges go on as far as they can, but none of them goes on with a closing parenthesis: what
the tokens of the text spell is read from the same tokens between the parentheses (`reads_base_parenthesized`).
-/

namespace ConditionLang

/-- A text in parentheses. -/
def Text.parenthesized (t : List Char) : List Char :=
  '(' :: (t ++ [')'])

/-- The tokens `ts`, moved, in parentheses, and `more` after them. The closing parenthesis ends at the byte `stop`. -/
inductive Token.Parenthesized (ts : List Token) (stop : Nat) (more : List Token) : List Token → Prop
  | intro {opening closing : Token} {us : List Token} (hopening : opening.kind = .mark ∧ opening.text = "(")
      (hclosing : closing.kind = .mark ∧ closing.text = ")") (hstop : closing.stop = stop)
      (h : Moved (closing :: more) ts us) : Parenthesized ts stop more (opening :: us)

/-! ## Tokens -/

section

variable {mode : LexMode} {position : Nat} {t rest : List Char} {ts us : List Token}

/-- No mark of two characters starts with a parenthesis. -/
theorem Token.Kind.stops_parenthesis {c : Char} (hc : c = '(' ∨ c = ')') (rest : List Char) :
    Token.Kind.mark.Stops [c] rest := by
  have hmarks : ∀ m ∈ doubleMarks, m.head?.any (fun d => d != '(' && d != ')') = true := by decide
  refine ⟨?_, .inr fun d hd hmem => ?_⟩
  · rcases hc with rfl | rfl
    · decide
    · decide
  · rcases hc with rfl | rfl
    · cases hmarks _ hmem
    · cases hmarks _ hmem

/-- A text before a space ends there. -/
theorem Text.bounds_space (s : List Char) : Bounds (' ' :: s) := by
  rintro c ⟨⟩
  exact .inl rfl

/-- Parentheses take two bytes. -/
theorem Text.byteLength_parenthesized (t : List Char) : byteLength (parenthesized t) = byteLength t + 2 := by
  rw [parenthesized, byteLength_cons, byteLength_append]
  show 1 + (byteLength t + 1) = byteLength t + 2
  omega

/-- The tokens of a text in parentheses and of what follows. -/
theorem Tokenizes.parenthesized (ht : tokenize mode t = .ok ts)
    (hrest : Tokenizes mode (position + Text.byteLength (Text.parenthesized t)) rest us) :
    ∃ tokens, Tokenizes mode position (Text.parenthesized t ++ rest) tokens ∧
      Token.Parenthesized ts (position + Text.byteLength (Text.parenthesized t)) us tokens := by
  have hstop : position + Text.byteLength (Text.parenthesized t) = position + 1 + Text.byteLength t + 1 := by
    rw [Text.byteLength_parenthesized]
    omega
  have htext : Text.parenthesized t ++ rest = '(' :: (t ++ ')' :: rest) := by
    rw [Text.parenthesized, List.cons_append, List.append_assoc]
    rfl
  have hbounds : Text.Bounds (')' :: rest) := by
    rintro c ⟨⟩
    exact .inr rfl
  rw [hstop] at hrest ⊢
  have hinner : Tokenizes mode (position + 1) t (ts.map (Token.later (position + 1))) :=
    tokenizes_iff.mpr ⟨ts, ht, rfl⟩
  obtain ⟨closing, hkind, htext', -, hstop', hclosing⟩ :=
    hrest.exists_cons .mark [')'] (.inr ⟨')', by decide, rfl⟩) (Token.Kind.stops_parenthesis (.inr rfl) rest)
  obtain ⟨opening, hkind', htext'', -, -, hopening⟩ := (hinner.append hbounds hclosing).exists_cons .mark ['(']
    (.inr ⟨'(', by decide, rfl⟩) (Token.Kind.stops_parenthesis (.inl rfl) _)
  have hopen : String.ofList ['('] = "(" := by decide
  have hclose : String.ofList [')'] = ")" := by decide
  have hmoved := (Token.moved_map_later (position + 1) ts).append_tail (closing :: us)
  rw [htext]
  exact ⟨_, hopening, .intro ⟨hkind', htext''.trans hopen⟩ ⟨hkind, htext'.trans hclose⟩ hstop' hmoved⟩

end

/-! ## What is read -/

namespace Parser

variable {ts more : List Token} {stop : Nat} {e : Expr} {c : Cursor}

/-- An expression in parentheses is read up to the closing parenthesis. -/
theorem reads_base_parenthesized (hne : ts ≠ []) (htokens : Expr.ofTokens ts = .ok e)
    (h : Token.Parenthesized ts stop more c.rest) :
    ∃ t next, c.peek? = some t ∧ Reads (base t c.skip) e next ∧ next.rest = more ∧ next.before = some stop := by
  obtain ⟨before, tokens, limit⟩ := c
  replace h : Token.Parenthesized ts stop more tokens := h
  cases h with
  | @intro opening closing us hopening hclosing hstop hmoved =>
  subst hstop
  have htail : Token.Closing (closing :: more) := by
    rintro t ⟨⟩
    exact hclosing
  have hmoved' : Token.Moved (closing :: more) ts (Cursor.mk (some opening.stop) us limit).rest := hmoved
  obtain ⟨⟨before', rest, limit'⟩, hlevel, rfl⟩ := Expr.reads_of_ofTokens htail hne htokens hmoved'
  have hmark : closing.isMark ")" = true := by
    rw [Token.isMark, hclosing.1, hclosing.2]
    rfl
  refine ⟨opening, ⟨some closing.stop, more, limit'⟩, rfl, ?_, rfl, rfl⟩
  rw [reads_base, hopening.1]
  exact (if_pos hopening.2).mpr ⟨e, _, hlevel, (), reads_mark.mpr ⟨closing, rfl, hmark, rfl⟩, rfl⟩

/-- An expression in parentheses is read as one without operators. -/
theorem reads_primary_parenthesized (hne : ts ≠ []) (htokens : Expr.ofTokens ts = .ok e)
    (h : Token.Parenthesized ts stop more c.rest) (hmore : ∀ t ∈ more.head?, t.kind ≠ .dotted) :
    ∃ next, Reads (primary c) e next ∧ next.rest = more := by
  obtain ⟨t, next, ht, hbase, rfl, -⟩ := reads_base_parenthesized hne htokens h
  exact ⟨next, reads_primary.mpr ⟨t, ht, e, next, hbase, reads_methods_of_kind_ne hmore e⟩, rfl⟩

/-- What is in parentheses starts with the opening one. -/
theorem exists_peek_parenthesized (h : Token.Parenthesized ts stop more c.rest) :
    ∃ t, c.peek? = some t ∧ t.kind = .mark ∧ t.text = "(" := by
  obtain ⟨before, tokens, limit⟩ := c
  replace h : Token.Parenthesized ts stop more tokens := h
  cases h with
  | intro hopening _ _ _ => exact ⟨_, rfl, hopening⟩

/-- No negation starts with a parenthesis. -/
theorem reads_unary_of_primary {next : Cursor} (h : Token.Parenthesized ts stop more c.rest)
    (hread : Reads (primary c) e next) : Reads (unary c) e next := by
  obtain ⟨t, ht, hkind, -⟩ := exists_peek_parenthesized h
  have hnot : ¬c.peek?.any (·.isWord "not") = true := by
    rw [ht, Option.any_some, Token.isWord, hkind]
    exact Bool.false_ne_true
  exact reads_unary.mpr ((if_neg hnot).mpr hread)

/-- What is in parentheses starts an argument. -/
theorem startsArgument_parenthesized (h : Token.Parenthesized ts stop more c.rest) : startsArgument c = true := by
  obtain ⟨t, ht, hkind, htext⟩ := exists_peek_parenthesized h
  simp only [startsArgument, ht, hkind, htext]
  decide

/-- An expression in parentheses is read as an operand. -/
theorem reads_unary_parenthesized (hne : ts ≠ []) (htokens : Expr.ofTokens ts = .ok e)
    (h : Token.Parenthesized ts stop more c.rest) (hmore : ∀ t ∈ more.head?, t.kind ≠ .dotted) :
    ∃ next, Reads (unary c) e next ∧ next.rest = more := by
  obtain ⟨next, hprimary, hnext⟩ := reads_primary_parenthesized hne htokens h hmore
  exact ⟨next, reads_unary_of_primary h hprimary, hnext⟩

/-- No operator follows the last token. -/
theorem not_follows_of_rest_eq_nil (h : c.rest = []) (l : Expr.Level) : ¬Follows l c := by
  have hclosing : Token.Closing c.rest := h ▸ Token.closing_nil
  rintro (hop | ⟨-, hmark⟩)
  · rw [operator?_of_closing hclosing] at hop
    cases hop
  · rw [atMark_of_closing hclosing (by decide)] at hmark
    cases hmark

end Parser

/-! ## Texts -/

namespace Expr

open ConditionLang.Parser

variable {mode : LexMode} {t t₁ t₂ : List Char} {ts ts₁ ts₂ : List Token} {e e₁ e₂ : Expr}

/-- What is read from the start of the tokens of a text up to their end is what the text spells. -/
theorem parse_of_reads {next : Cursor} (htokens : Tokenizes mode 0 t ts)
    (hread : Reads (level .disjunction (.start ts)) e next) (hnext : next.rest = []) : parse mode t = .ok e := by
  have hne : ts ≠ [] := by
    rintro rfl
    exact absurd hread.fewer (Nat.not_lt_zero _)
  refine parse_eq_ok_iff.mpr ⟨ts, htokens, (ofTokens_eq_ok_iff hne).mpr ⟨next, hread, ?_⟩⟩
  rw [Cursor.peek?, hnext]
  rfl

theorem tokenizes_nil (position : Nat) : Tokenizes mode position [] [] := by
  rw [Tokenizes, lexemes]
  rfl

/-- A space in front only moves the tokens. -/
theorem tokenizes_space {position : Nat} (h : Tokenizes mode (position + 1) t ts) : Tokenizes mode position (' ' :: t) ts :=
  (tokenizes_blanks_iff (b := [' ']) (by decide)).mpr h

/-- The tokens of a text, at least one, spell the expression. -/
structure Spells (mode : LexMode) (t : List Char) (ts : List Token) (e : Expr) : Prop where
  tokens : tokenize mode t = .ok ts
  nonempty : ts ≠ []
  value : ofTokens ts = .ok e

/-- A text that is parsed, and has tokens, spells its expression. -/
theorem exists_spells (h : parse mode t = .ok e) (hne : tokenize mode t ≠ .ok []) : ∃ ts, Spells mode t ts e := by
  obtain ⟨ts, htokens, hvalue⟩ := parse_eq_ok_iff.mp h
  refine ⟨ts, htokens, ?_, hvalue⟩
  rintro rfl
  exact hne htokens

/-- A text in parentheses has its tokens between the two marks. -/
theorem Spells.exists_tokenizes (h : Spells mode t ts e) (position : Nat) :
    ∃ tokens stop, Tokenizes mode position (Text.parenthesized t) tokens ∧ Token.Parenthesized ts stop [] tokens := by
  obtain ⟨tokens, htokens, hparenthesized⟩ := Tokenizes.parenthesized h.tokens (tokenizes_nil _)
  rw [List.append_nil] at htokens
  exact ⟨tokens, _, htokens, hparenthesized⟩

/-- A text in parentheses is parsed to the same expression. -/
theorem Spells.parse_parenthesized (h : Spells mode t ts e) : parse mode (Text.parenthesized t) = .ok e := by
  obtain ⟨tokens, stop, htokens, hparenthesized⟩ := h.exists_tokenizes 0
  obtain ⟨next, hunary, hnext⟩ :=
    reads_unary_parenthesized (c := .start tokens) h.nonempty h.value hparenthesized
      fun _ ht => nomatch ht
  exact parse_of_reads htokens (reads_disjunction_of_unary hunary (not_follows_of_rest_eq_nil hnext)) hnext

/-- The word `not` before a text in parentheses negates its expression. -/
theorem Spells.parse_negation (h : Spells mode t ts e) :
    parse mode ("not ".toList ++ Text.parenthesized t) = .ok (.negation e) := by
  obtain ⟨tokens, stop, htokens, hparenthesized⟩ := h.exists_tokenizes 4
  have hshaped : Token.isNameShaped ['n', 'o', 't'] = true := by decide
  obtain ⟨u, hkind, htext, -, -, hu⟩ :=
    (tokenizes_space htokens).exists_cons .name ['n', 'o', 't'] hshaped ((Text.bounds_space _).stops nofun)
  obtain ⟨next, hunary, hnext⟩ :=
    reads_unary_parenthesized (c := (Cursor.start (u :: tokens)).skip) h.nonempty h.value hparenthesized
      fun _ ht => nomatch ht
  have hnot : u.isWord "not" = true := by
    rw [Token.isWord, hkind, htext]
    decide
  have hnegation : Reads (unary (.start (u :: tokens))) (.negation e) next :=
    reads_unary.mpr ((if_pos hnot).mpr ⟨e, hunary, rfl⟩)
  exact parse_of_reads hu (reads_disjunction_of_unary hnegation (not_follows_of_rest_eq_nil hnext)) hnext

/-- The tokens of a text in parentheses and of what follows it. -/
theorem Spells.exists_tokenizes_append (h : Spells mode t ts e) {rest : List Char} {more : List Token}
    (hrest : Tokenizes mode (Text.byteLength (Text.parenthesized t)) rest more) :
    ∃ tokens, Tokenizes mode 0 (Text.parenthesized t ++ rest) tokens ∧
      Token.Parenthesized ts (Text.byteLength (Text.parenthesized t)) more tokens := by
  rw [← Nat.zero_add (Text.byteLength (Text.parenthesized t))] at hrest ⊢
  exact Tokenizes.parenthesized h.tokens hrest

/-- Two texts in parentheses with an operator between them. -/
theorem Spells.parse_operator (h₁ : Spells mode t₁ ts₁ e₁) (h₂ : Spells mode t₂ ts₂ e₂) (op : Operator) :
    parse mode (Text.parenthesized t₁ ++ ' ' :: (op.symbol.toList ++ ' ' :: Text.parenthesized t₂)) =
      .ok (.binary op e₁ e₂) := by
  have hspell : (Snippet.operator op).kind.spell (Snippet.operator op).body = op.symbol.toList := by
    cases op <;> rfl
  have hadmits : (Snippet.operator op).kind.Admits (Snippet.operator op).body :=
    (Snippet.fits_operator op Snippet.loose_nil trivial).1
  have hdot : (Snippet.operator op).body ≠ ['.'] := by
    cases op <;> decide
  obtain ⟨tokens₂, stop₂, htokens₂, hparenthesized₂⟩ :=
    h₂.exists_tokenizes (Text.byteLength (Text.parenthesized t₁) + 1 + Text.byteLength op.symbol.toList + 1)
  rw [← hspell] at htokens₂ ⊢
  obtain ⟨u, hkind, htext, -, -, hu⟩ :=
    (tokenizes_space htokens₂).exists_cons _ _ hadmits ((Text.bounds_space _).stops fun _ => hdot)
  obtain ⟨tokens, htokens, hparenthesized⟩ := h₁.exists_tokenizes_append (tokenizes_space hu)
  have hspells : u.spells op = true := by
    have hcongr := Token.spells_congr (t := ⟨(Snippet.operator op).kind, String.ofList (Snippet.operator op).body, 0, 0⟩)
      hkind htext
    rw [hcongr]
    cases op <;> rfl
  have hdotted : ∀ t ∈ (u :: tokens₂).head?, t.kind ≠ .dotted := by
    rintro _ ⟨⟩
    exact Token.kind_ne_dotted_of_spells hspells
  obtain ⟨⟨before, rest, limit⟩, hleft, rfl⟩ :=
    reads_unary_parenthesized (c := .start tokens) h₁.nonempty h₁.value hparenthesized hdotted
  obtain ⟨next, hright, hnext⟩ :=
    reads_unary_parenthesized (c := ⟨some u.stop, tokens₂, limit⟩) h₂.nonempty h₂.value hparenthesized₂
      fun _ ht => nomatch ht
  exact parse_of_reads htokens
    (reads_disjunction_of_operator hleft rfl hspells hright (not_follows_of_rest_eq_nil hnext)) hnext

/-- A text in parentheses bound to a name. -/
theorem Spells.parse_binding (h : Spells mode t ts e) {x : String} (hx : Token.isNameShaped x.toList = true) :
    parse mode (Text.parenthesized t ++ (" >> ".toList ++ x.toList)) = .ok (.binding e [x]) := by
  have hend : Tokenizes mode (Text.byteLength (Text.parenthesized t) + 4 + Text.byteLength x.toList) [] [] := tokenizes_nil _
  obtain ⟨u, hkind, htext, -, -, hu⟩ :=
    hend.exists_cons .name x.toList hx (Text.bounds_nil.stops nofun)
  obtain ⟨v, hkind', htext', -, -, hv⟩ := (tokenizes_space hu).exists_cons .mark ['>', '>'] (.inl (by decide))
    ((Text.bounds_space _).stops (by decide))
  obtain ⟨tokens, htokens, hparenthesized⟩ := h.exists_tokenizes_append (tokenizes_space hv)
  have hname : u.text = x := by
    rw [htext, String.ofList_toList]
  have hmark : v.isMark ">>" = true := by
    rw [Token.isMark, hkind', htext']
    decide
  have hdotted : ∀ t ∈ [v, u].head?, t.kind ≠ .dotted := by
    rintro _ ⟨⟩
    rw [hkind']
    decide
  obtain ⟨⟨before, rest, limit⟩, hvalue, rfl⟩ :=
    reads_unary_parenthesized (c := .start tokens) h.nonempty h.value hparenthesized hdotted
  have hnames : Reads (boundNames ⟨some v.stop, [u], limit⟩) [x] ⟨some u.stop, [], limit⟩ :=
    reads_boundNames.mpr ⟨x, _, reads_boundName.mpr ⟨u, rfl, hkind, hname.symm, rfl⟩, rfl, rfl⟩
  have htext' : " >> ".toList ++ x.toList = ' ' :: (['>', '>'] ++ ' ' :: (x.toList ++ [])) := by
    rw [List.append_nil]
    rfl
  rw [htext']
  exact parse_of_reads htokens
    (reads_disjunction_of_binding hvalue hmark hnames (not_follows_of_rest_eq_nil rfl)) rfl

/-- A call of a method on a text in parentheses with another one as its argument. -/
theorem Spells.parse_method (h₁ : Spells mode t₁ ts₁ e₁) (h₂ : Spells mode t₂ ts₂ e₂) {name : String}
    (hname : Token.isNameShaped name.toList = true) :
    parse mode (Text.parenthesized t₁ ++ '.' :: (name.toList ++ ' ' :: Text.parenthesized t₂)) =
      .ok (.method e₁ name [e₂]) := by
  obtain ⟨tokens₂, stop₂, htokens₂, hparenthesized₂⟩ :=
    h₂.exists_tokenizes (Text.byteLength (Text.parenthesized t₁) + (1 + Text.byteLength name.toList) + 1)
  obtain ⟨u, hkind, htext, hstart, -, hu⟩ := (tokenizes_space htokens₂).exists_cons .dotted name.toList hname
    ((Text.bounds_space _).stops nofun)
  obtain ⟨tokens, htokens, hparenthesized⟩ := h₁.exists_tokenizes_append hu
  obtain ⟨t, ⟨before, rest, limit⟩, ht, hbase, rfl, rfl⟩ :=
    reads_base_parenthesized (c := .start tokens) h₁.nonempty h₁.value hparenthesized
  obtain ⟨⟨before', rest', limit'⟩, hargument, rfl⟩ :=
    reads_primary_parenthesized (c := ⟨some u.stop, tokens₂, limit⟩) h₂.nonempty h₂.value hparenthesized₂
      fun _ ht => nomatch ht
  have hend : Reads (arguments ⟨before', [], limit'⟩) [] ⟨before', [], limit'⟩ := by
    rw [reads_arguments, startsArgument_of_closing Token.closing_nil]
    exact ⟨rfl, rfl⟩
  have harguments : Reads (arguments ⟨some u.stop, tokens₂, limit⟩) [e₂] ⟨before', [], limit'⟩ :=
    reads_arguments.mpr ((if_pos (startsArgument_parenthesized hparenthesized₂)).mpr ⟨e₂, _, hargument, [], hend, rfl⟩)
  have hjoined : (Cursor.mk (some (Text.byteLength (Text.parenthesized t₁))) (u :: tokens₂) limit).isAdjacent = true := by
    rw [isAdjacent_iff rfl, hstart]
  have hmember : Reads (methods e₁ ⟨some (Text.byteLength (Text.parenthesized t₁)), u :: tokens₂, limit⟩)
      (.method e₁ name [e₂]) ⟨before', [], limit'⟩ := by
    refine reads_methods.mpr ((if_pos ⟨hkind, hjoined⟩).mpr ⟨[e₂], _, harguments, ?_⟩)
    rw [htext, String.ofList_toList]
    exact reads_methods_of_kind_ne (c := ⟨before', [], limit'⟩) (fun _ ht => nomatch ht) _
  have hprimary : Reads (primary (.start tokens)) (.method e₁ name [e₂]) ⟨before', [], limit'⟩ :=
    reads_primary.mpr ⟨t, ht, e₁, _, hbase, hmember⟩
  have hunary := reads_unary_of_primary hparenthesized hprimary
  exact parse_of_reads htokens (reads_disjunction_of_unary hunary (not_follows_of_rest_eq_nil rfl)) rfl

/-- Texts with tokens that spell expressions, put into parentheses, spell the first expression by itself, what an operator
makes of both, the negation of the first, the first bound to a name, and the call of a method on the first with the second as
its argument, whatever the name is. -/
theorem parentheses_compose (mode : LexMode) {t₁ t₂ : List Char} {e₁ e₂ : Expr} (h₁ : parse mode t₁ = .ok e₁)
    (h₂ : parse mode t₂ = .ok e₂) (hne₁ : tokenize mode t₁ ≠ .ok []) (hne₂ : tokenize mode t₂ ≠ .ok []) :
    parse mode (Text.parenthesized t₁) = .ok e₁ ∧
      (∀ op : Operator, parse mode (Text.parenthesized t₁ ++ ' ' :: (op.symbol.toList ++ ' ' :: Text.parenthesized t₂)) =
        .ok (.binary op e₁ e₂)) ∧
      parse mode ("not ".toList ++ Text.parenthesized t₁) = .ok (.negation e₁) ∧
      (∀ x : String, Token.isNameShaped x.toList = true →
        parse mode (Text.parenthesized t₁ ++ (" >> ".toList ++ x.toList)) = .ok (.binding e₁ [x])) ∧
      ∀ name : String, Token.isNameShaped name.toList = true →
        parse mode (Text.parenthesized t₁ ++ '.' :: (name.toList ++ ' ' :: Text.parenthesized t₂)) =
          .ok (.method e₁ name [e₂]) := by
  obtain ⟨ts₁, hspells₁⟩ := exists_spells h₁ hne₁
  obtain ⟨ts₂, hspells₂⟩ := exists_spells h₂ hne₂
  exact ⟨hspells₁.parse_parenthesized, hspells₁.parse_operator hspells₂, hspells₁.parse_negation,
    fun _ => hspells₁.parse_binding, fun _ => hspells₁.parse_method hspells₂⟩

/-- The texts `a or b` and `c` in parentheses, as operands, as a value that is bound, and as a target with its argument. -/
theorem parentheses_compose_of_disjunction :
    let t₁ := "a or b".toList
    let t₂ := "c".toList
    let e₁ := Expr.binary .or (.reference ⟨"a", []⟩) (.reference ⟨"b", []⟩)
    let e₂ := Expr.reference ⟨"c", []⟩
    parse .strict t₁ = .ok e₁ ∧ parse .strict t₂ = .ok e₂ ∧ tokenize .strict t₁ ≠ .ok [] ∧ tokenize .strict t₂ ≠ .ok [] ∧
      parse .strict "(a or b) and (c)".toList = .ok (.binary .and e₁ e₂) ∧
      parse .strict "(a or b) >> and".toList = .ok (.binding e₁ ["and"]) ∧
      parse .strict "(a or b).random (c)".toList = .ok (.method e₁ "random" [e₂]) := by
  have h₁ : parse .strict "a or b".toList = .ok (.binary .or (.reference ⟨"a", []⟩) (.reference ⟨"b", []⟩)) := by cbv
  have h₂ : parse .strict "c".toList = .ok (.reference ⟨"c", []⟩) := by cbv
  have htokens₁ : tokenize .strict "a or b".toList =
      .ok [⟨.name, "a", 0, 1⟩, ⟨.name, "or", 2, 4⟩, ⟨.name, "b", 5, 6⟩] := by cbv
  have htokens₂ : tokenize .strict "c".toList = .ok [⟨.name, "c", 0, 1⟩] := by cbv
  have hne₁ : tokenize .strict "a or b".toList ≠ .ok [] := by
    rw [htokens₁]
    exact fun h => List.cons_ne_nil _ _ (Except.ok.inj h)
  have hne₂ : tokenize .strict "c".toList ≠ .ok [] := by
    rw [htokens₂]
    exact fun h => List.cons_ne_nil _ _ (Except.ok.inj h)
  obtain ⟨-, hoperator, -, hbinding, hmethod⟩ := parentheses_compose .strict h₁ h₂ hne₁ hne₂
  exact ⟨h₁, h₂, hne₁, hne₂, hoperator .and, hbinding "and" (by decide), hmethod "random" (by decide)⟩

end Expr

end ConditionLang
