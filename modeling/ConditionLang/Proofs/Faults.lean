import ConditionLang.Proofs.Coverage
import ConditionLang.Proofs.Numerals
import ConditionLang.Proofs.Provenance

/-!
# Where syntax errors stand

An error that names a token or a character stands where the text spells it, and an error that names nothing stands where the
last token ends (`parse_error_place`). A lexer error stands at a lexeme that the mode refuses. For the parser, every function
that is given tokens that satisfy `S` and end at some byte either leaves such tokens or fails at one of them, or at that byte
(`Parser.Points`); it never fails at a number, because every text of a number is read as one.
-/

namespace ConditionLang

/-- The error names a token that satisfies `S` and stands at its start, or it names none and stands at the byte `limit`. -/
def SyntaxError.PointsAt (S : Token → Prop) (limit : Nat) (e : SyntaxError) : Prop :=
  match e.cause with
  | .unexpectedToken found | .missingMark _ found | .notAVariableName found | .notAnIndexKey found | .mixedTable found =>
    ∃ t, S t ∧ found = t.text ∧ e.position = t.start
  | .endOfCondition _ => e.position = limit
  | .unclosedQuote _ | .strayCharacter _ | .invalidNumber _ => False

/-- All tokens that are left satisfy `S`, and the last one ends at the byte `limit`. -/
structure Cursor.Within (S : Token → Prop) (limit : Nat) (c : Cursor) : Prop where
  all : c.All S
  limit_eq : c.limit = limit

variable {S : Token → Prop} {limit : Nat} {c : Cursor} {t : Token}

namespace Cursor.Within

/-- Past a token, the tokens ahead are among those before. -/
theorem skip (h : c.Within S limit) : c.skip.Within S limit := by
  refine ⟨h.all.skip, ?_⟩
  obtain ⟨before, rest, limit'⟩ := c
  cases rest with
  | nil => exact h.limit_eq
  | cons t rest => exact h.limit_eq

theorem skipComma (h : c.Within S limit) : (Parser.skipComma c).Within S limit := by
  unfold Parser.skipComma
  split
  · exact h.skip
  · exact h

end Cursor.Within

namespace Parser

/-- A parsing function leaves tokens that satisfy `S` and end at the byte `limit`, or it fails at one such token or at that byte. -/
def Points (S : Token → Prop) (limit : Nat) {n : Nat} {α : Type} (r : Except Failure (Parsed n α)) : Prop :=
  match r with
  | .ok p => p.next.Within S limit
  | .error f => f.error.PointsAt S limit

section

variable {m n : Nat} {α β : Type}

/-- Failures in sequence point at tokens if those of each part do. -/
theorem Points.bind {r : Except Failure (Parsed m α)} {k : Parsed m α → Except Failure (Parsed n β)} (h : Points S limit r)
    (hk : ∀ p : Parsed m α, p.next.Within S limit → Points S limit (k p)) : Points S limit (r >>= k) := by
  cases r with
  | ok p => exact hk p h
  | error f => exact h

/-- A failure at the end points at the next token or at the end of the last. -/
theorem points_atEnd {wanted : Wanted} (hc : c.Within S limit) :
    Points S limit (.error (.atEnd wanted c) : Except Failure (Parsed n α)) :=
  hc.limit_eq

/-- A token that is read as a number is no fault. -/
theorem points_number_bind {k : Float → Except Failure (Parsed n α)} (h : ∃ x, Number.read? t.text.toList = some x)
    (hk : ∀ x, Points S limit (k x)) : Points S limit (number t c >>= k) := by
  obtain ⟨x, hx⟩ := h
  unfold number
  rw [hx]
  exact hk x

end

/-! ## Marks, names and steps -/

theorem points_mark (hc : c.Within S limit) (m : String) : Points S limit (mark m c) := by
  unfold mark
  split
  · rename_i t ht
    split
    · exact hc.skip
    · exact ⟨t, hc.all.peek ht, rfl, rfl⟩
  · exact points_atEnd hc

theorem points_boundName (hc : c.Within S limit) : Points S limit (boundName c) := by
  unfold boundName
  split
  · rename_i t ht
    split
    · exact hc.skip
    · exact ⟨t, hc.all.peek ht, rfl, rfl⟩
  · exact points_atEnd hc

theorem points_boundNames (c : Cursor) (hc : c.Within S limit) : Points S limit (boundNames c) := by
  rw [boundNames]
  refine (points_boundName hc).bind fun first hfirst => ?_
  split
  · have hfewer := first.fewer
    have hskip := first.next.size_skip_le
    exact (points_boundNames first.next.skip hfirst.skip).bind fun more hmore => hmore
  · exact hfirst
termination_by c.size

theorem points_indexKey (hc : c.Within S limit) : Points S limit (indexKey c) := by
  unfold indexKey
  split
  · rename_i t ht
    split
    · exact hc.skip
    · exact ⟨t, hc.all.peek ht, rfl, rfl⟩
  · exact points_atEnd hc

/-- The failures of a path point at tokens. -/
theorem points_path (c : Cursor) (hc : c.Within S limit) : Points S limit (path c) := by
  rw [path]
  split
  · rename_i t ht
    have hskip := Cursor.size_skip ht
    split
    · refine (points_indexKey hc.skip).bind fun key hkey => (points_mark hkey "]").bind fun close hclose => ?_
      have hkeyFewer := key.fewer
      have hcloseFewer := close.fewer
      exact (points_path close.next hclose).bind fun more hmore => hmore
    · split
      · exact (points_path c.skip hc.skip).bind fun more hmore => hmore
      · exact hc
  · exact hc
termination_by c.size

/-! ## Expressions -/

mutual

/-- The failures of an expression of a level point at tokens. -/
theorem points_level (hS : ∀ t, S t → t.Shaped) (l : Expr.Level) (c : Cursor) (hc : c.Within S limit) :
    Points S limit (level l c) := by
  rw [level]
  refine (points_operand hS l c hc).bind fun left hleft => ?_
  have hfewer := left.fewer
  exact (points_chain hS l left.value left.next hleft).bind fun whole hwhole => hwhole
termination_by (c.size, 2 * l.rank + 3)

theorem points_operand (hS : ∀ t, S t → t.Shaped) (l : Expr.Level) (c : Cursor) (hc : c.Within S limit) :
    Points S limit (operand l c) := by
  rw [operand_eq]
  split
  · rename_i m h
    have := Expr.Level.rank_tighter h
    exact points_level hS m c hc
  · exact points_unary hS c hc
termination_by (c.size, 2 * l.rank + 2)

/-- The failures of a chain of operators point at tokens. -/
theorem points_chain (hS : ∀ t, S t → t.Shaped) (l : Expr.Level) (left : Expr) (c : Cursor) (hc : c.Within S limit) :
    Points S limit (chain l left c) := by
  rw [chain]
  split
  · rename_i hmark
    have hskip := Cursor.size_skip_of_atMark hmark.2
    refine (points_boundNames c.skip hc.skip).bind fun names hnames => ?_
    have hfewer := names.fewer
    exact (points_chain hS l (.binding left names.value) names.next hnames).bind fun whole hwhole => hwhole
  · split
    · exact hc
    · rename_i op hop
      have hskip := size_skip_of_operator hop
      refine (points_operand hS l c.skip hc.skip).bind fun right hright => ?_
      have hfewer := right.fewer
      split
      · exact (points_chain hS l (.binary op left right.value) right.next hright).bind fun whole hwhole => hwhole
      · exact hright
termination_by (c.size, 0)

theorem points_unary (hS : ∀ t, S t → t.Shaped) (c : Cursor) (hc : c.Within S limit) : Points S limit (unary c) := by
  rw [unary]
  split
  · rename_i t ht
    have hskip := Cursor.size_skip ht
    split
    · exact (points_unary hS c.skip hc.skip).bind fun operand hoperand => hoperand
    · exact points_primary hS c hc
  · exact points_primary hS c hc
termination_by (c.size, 1)

theorem points_primary (hS : ∀ t, S t → t.Shaped) (c : Cursor) (hc : c.Within S limit) : Points S limit (primary c) := by
  rw [primary]
  split
  · exact points_atEnd hc
  · rename_i t ht
    have hskip := Cursor.size_skip ht
    refine (points_base hS t c.skip (hc.all.peek ht) hc.skip).bind fun first hfirst => ?_
    have hfewer := first.fewer
    exact (points_methods hS first.value first.next hfirst).bind fun whole hwhole => hwhole
termination_by (c.size, 0)

/-- The failures of what a token starts point at tokens. -/
theorem points_base (hS : ∀ t, S t → t.Shaped) (t : Token) (c : Cursor) (ht : S t) (hc : c.Within S limit) :
    Points S limit (base t c) := by
  have hreads : ∀ u, S u → u.kind = .number → ∃ x, Number.read? u.text.toList = some x := by
    intro u hu hkind
    have hshaped := hS u hu
    rw [Token.Shaped, hkind] at hshaped
    obtain ⟨x, hx, -⟩ := Number.exists_read?_of_isNumeral hshaped
    exact ⟨x, hx⟩
  rw [base]
  split
  · rename_i hkind
    split
    · rename_i last hlast
      obtain ⟨hlast, hkind'⟩ := all_of_rangeEnd hc.all hlast
      refine points_number_bind (hreads t ht hkind) fun low => ?_
      exact points_number_bind (hreads last hlast hkind') fun high => hc.skip.skip
    · exact points_number_bind (hreads t ht hkind) fun x => hc
  · exact hc
  · split
    · exact hc
    · split
      · exact hc
      · split
        · exact ⟨t, ht, rfl, rfl⟩
        · exact (points_path c hc).bind fun steps hsteps => hsteps
  · exact (points_arguments hS c hc).bind fun args hargs => hargs
  · split
    · refine (points_level hS .disjunction c hc).bind fun inner hinner => ?_
      exact (points_mark hinner ")").bind fun close hclose => hclose
    · split
      · exact points_table hS (.items []) c hc
      · exact ⟨t, ht, rfl, rfl⟩
termination_by (c.size, 20)

/-- The failures of calls on a target point at tokens. -/
theorem points_methods (hS : ∀ t, S t → t.Shaped) (target : Expr) (c : Cursor) (hc : c.Within S limit) :
    Points S limit (methods target c) := by
  rw [methods]
  split
  · rename_i t ht
    have hskip := Cursor.size_skip ht
    split
    · refine (points_arguments hS c.skip hc.skip).bind fun args hargs => ?_
      have hfewer := args.fewer
      exact (points_methods hS (.method target t.text args.value) args.next hargs).bind fun whole hwhole => hwhole
    · exact hc
  · exact hc
termination_by (c.size, 0)

theorem points_arguments (hS : ∀ t, S t → t.Shaped) (c : Cursor) (hc : c.Within S limit) :
    Points S limit (arguments c) := by
  rw [arguments]
  split
  · refine (points_primary hS c hc).bind fun first hfirst => ?_
    have hfewer := first.fewer
    exact (points_arguments hS first.next hfirst).bind fun more hmore => hmore
  · exact hc
termination_by (c.size, 1)

/-- The failures between braces point at tokens. -/
theorem points_table (hS : ∀ t, S t → t.Shaped) (entries : Entries) (c : Cursor) (hc : c.Within S limit) :
    Points S limit (table entries c) := by
  rw [table]
  split
  · exact points_atEnd hc
  · rename_i t ht
    have hskip := Cursor.size_skip ht
    split
    · exact hc.skip
    · split
      · rename_i key hkey
        split
        · have hskip' := size_skip_skip_of_pairKey hkey
          refine (points_level hS .disjunction c.skip.skip hc.skip.skip).bind fun value hvalue => ?_
          have hfewer := value.fewer
          have hcomma := size_skipComma value.next
          exact (points_table hS _ (skipComma value.next) hvalue.skipComma).bind fun whole hwhole => hwhole
        · exact ⟨t, hc.all.peek ht, rfl, rfl⟩
      · split
        · refine (points_level hS .disjunction c hc).bind fun item hitem => ?_
          have hfewer := item.fewer
          have hcomma := size_skipComma item.next
          exact (points_table hS _ (skipComma item.next) hitem.skipComma).bind fun whole hwhole => hwhole
        · exact ⟨t, hc.all.peek ht, rfl, rfl⟩
termination_by (c.size, 19)

end

end Parser

/-! ## Errors of texts -/

/-- The byte stands between two characters of the text or at one of its ends, and the text goes on with `rest` there. -/
def Text.RestAt (text : List Char) (position : Nat) (rest : List Char) : Prop :=
  ∃ before, text = before ++ rest ∧ byteLength before = position

/-- A position with a rest is within the text. -/
theorem Text.RestAt.le_byteLength {text rest : List Char} {position : Nat} (h : RestAt text position rest) :
    position ≤ byteLength text := by
  obtain ⟨before, rfl, rfl⟩ := h
  rw [byteLength_append]
  exact Nat.le_add_right _ _

/-- A slice ends at a boundary between characters. -/
theorem Text.Slice.restAt_stop {text part : List Char} {start stop : Nat} (h : Slice text start stop part) :
    ∃ rest, RestAt text stop rest := by
  obtain ⟨before, after, htext, -, hstop⟩ := h
  exact ⟨after, before ++ part, htext, hstop⟩

/-- A text goes on with the spelling of a lexeme at the byte of the lexeme. -/
theorem restAt_of_mem_lexemes {text : List Char} {item : Nat × Lexeme} (h : item ∈ lexemes 0 text) :
    ∃ after, Text.RestAt text item.1 (item.2.spelling ++ after) := by
  obtain ⟨before, after, htext, hstart⟩ := (cut_lexemes 0 text).exists_of_mem h
  refine ⟨after, before, by rw [htext, List.append_assoc], ?_⟩
  rw [hstart, Nat.zero_add]

/-- The spelling of a token starts with its text, or with a quotation mark or a dot and its text. -/
theorem Token.prefix_spelling_append (t : Token) (after : List Char) :
    t.text.toList <+: t.spelling ++ after ∨ '"' :: t.text.toList <+: t.spelling ++ after ∨
      '.' :: t.text.toList <+: t.spelling ++ after := by
  obtain ⟨kind, text, start, stop⟩ := t
  cases kind with
  | number | name | mark => exact .inl (List.prefix_append _ _)
  | quoted => exact .inr (.inl ((List.prefix_append _ _).trans (List.prefix_append _ _)))
  | dotted => exact .inr (.inr (List.prefix_append _ _))

/-- Where a token starts, the text goes on with the text of the token, maybe after a quotation mark or a dot. -/
theorem exists_rest_of_mem_tokens {mode : LexMode} {text : List Char} {tokens : List Token}
    (h : tokenize mode text = .ok tokens) (ht : t ∈ tokens) :
    ∃ rest, Text.RestAt text t.start rest ∧
      (t.text.toList <+: rest ∨ '"' :: t.text.toList <+: rest ∨ '.' :: t.text.toList <+: rest) := by
  obtain ⟨after, hrest⟩ := restAt_of_mem_lexemes ((mem_tokensOf_iff h).mp ht).1
  exact ⟨_, hrest, t.prefix_spelling_append after⟩

/-- Why a lexeme is refused if it makes no token. -/
def Lexeme.refusal? : Lexeme → Option SyntaxError.Cause
  | .token _ _ => none
  | .unclosed body => some (.unclosedQuote (String.ofList ('"' :: body)))
  | .stray c => some (.strayCharacter c)

/-- A refused lexeme is named as it is spelled. -/
theorem Lexeme.found?_of_refusal {l : Lexeme} {cause : SyntaxError.Cause} (h : l.refusal? = some cause) :
    cause.found? = some (String.ofList l.spelling) := by
  cases l with
  | token kind body => cases h
  | unclosed body =>
    cases h
    rfl
  | stray c =>
    cases h
    rfl

/-- The mode refuses lexemes because of one of them. -/
theorem exists_refusal_of_tokensOf {mode : LexMode} {items : List (Nat × Lexeme)} {e : SyntaxError}
    (h : tokensOf mode items = .error e) : ∃ item ∈ items, item.2.refusal? = some e.cause ∧ e.position = item.1 := by
  induction items with
  | nil => cases h
  | cons item items ih =>
    have hrest : tokensOf mode items = .error e →
        ∃ item' ∈ item :: items, item'.2.refusal? = some e.cause ∧ e.position = item'.1 := by
      intro h
      obtain ⟨item', hitem', hrefusal⟩ := ih h
      exact ⟨item', List.mem_cons_of_mem _ hitem', hrefusal⟩
    obtain ⟨start, l⟩ := item
    cases l with
    | token kind body =>
      rw [tokensOf] at h
      cases htokens : tokensOf mode items with
      | ok tokens =>
        rw [htokens] at h
        cases h
      | error e' =>
        rw [htokens] at h
        cases h
        exact hrest htokens
    | unclosed body =>
      cases h
      exact ⟨_, List.mem_cons_self, rfl, rfl⟩
    | stray c =>
      cases mode with
      | lenient => exact hrest h
      | strict =>
        cases h
        exact ⟨_, List.mem_cons_self, rfl, rfl⟩

/-- What an error that points at a token or at the end names, and where it stands. -/
theorem SyntaxError.PointsAt.found? {e : SyntaxError} (h : e.PointsAt S limit) :
    match e.cause.found? with
    | some found => ∃ t, S t ∧ found = t.text ∧ e.position = t.start
    | none => e.position = limit := by
  obtain ⟨cause, position⟩ := e
  cases cause with
  | unexpectedToken _ | missingMark _ _ | notAVariableName _ | notAnIndexKey _ | mixedTable _ | endOfCondition _ => exact h
  | unclosedQuote _ | strayCharacter _ | invalidNumber _ => exact h.elim

/-- A text in front of another one gives the first character. -/
theorem Text.head?_toList_append {s t : String} {c : Char} (h : s.toList.head? = some c) :
    (s ++ t).toList.head? = some c := by
  rw [String.toList_append, List.head?_append, h]
  rfl

/-- Only the message about a number starts with its first letter. -/
theorem SyntaxError.Cause.head?_message {cause : Cause} (h : ∀ found, cause ≠ .invalidNumber found) :
    ∃ c, cause.message.toList.head? = some c ∧ c ≠ 'i' := by
  cases cause with
  | unclosedQuote _ =>
    have hhead : "unterminated string literal".toList.head? = some 'u' := rfl
    exact ⟨'u', hhead, by decide⟩
  | strayCharacter _ | unexpectedToken _ | endOfCondition _ => exact ⟨'u', Text.head?_toList_append rfl, by decide⟩
  | notAVariableName _ | notAnIndexKey _ => exact ⟨'e', Text.head?_toList_append rfl, by decide⟩
  | missingMark wanted found =>
    have hexpected : ("expected " ++ Text.quoted wanted).toList.head? = some 'e' := Text.head?_toList_append rfl
    exact ⟨'e', Text.head?_toList_append (Text.head?_toList_append hexpected), by decide⟩
  | mixedTable _ =>
    have hhead : "table mixes array elements and key = value pairs".toList.head? = some 't' := rfl
    exact ⟨'t', hhead, by decide⟩
  | invalidNumber found => exact absurd rfl (h found)

/-- Only the message about an invalid number starts with these words. -/
theorem SyntaxError.Cause.not_prefix_message {cause : Cause} (h : ∀ found, cause ≠ .invalidNumber found) :
    ¬"invalid number".toList <+: cause.message.toList := by
  rintro ⟨more, hmessage⟩
  obtain ⟨c, hhead, hc⟩ := head?_message h
  rw [← hmessage] at hhead
  exact hc (Option.some.inj hhead).symm

namespace Expr

variable {mode : LexMode} {text : List Char} {tokens : List Token} {e : SyntaxError}

/-- A text is not read because it has no tokens or because its tokens spell nothing. -/
theorem parse_eq_error_iff :
    parse mode text = .error e ↔
      tokenize mode text = .error e ∨ ∃ tokens, tokenize mode text = .ok tokens ∧ ofTokens tokens = .error e := by
  rw [parse]
  cases tokenize mode text with
  | error e' =>
    constructor
    · rintro ⟨⟩
      exact .inl rfl
    · rintro (h | ⟨_, h, -⟩)
      · cases h
        rfl
      · cases h
  | ok tokens =>
    constructor
    · exact fun h => .inr ⟨tokens, rfl, h⟩
    · rintro (h | ⟨_, ⟨⟩, h⟩)
      · cases h
      · exact h

/-- Tokens that spell nothing fail at one of them or at the end of the last. -/
theorem pointsAt_of_ofTokens (hshaped : ∀ t ∈ tokens, t.Shaped) (h : ofTokens tokens = .error e) :
    ∃ last, tokens.getLast? = some last ∧ e.PointsAt (· ∈ tokens) last.stop := by
  unfold ofTokens at h
  split at h
  · cases h
  · rename_i hne
    have hlast := List.getLast?_eq_some_getLast (mt List.isEmpty_iff.mpr hne)
    refine ⟨_, hlast, ?_⟩
    have hstart : (Cursor.start tokens).Within (· ∈ tokens) (tokens.getLast _).stop :=
      ⟨fun t ht => ht, by rw [Cursor.start, hlast]; rfl⟩
    have hpoints := Parser.points_level hshaped .disjunction (.start tokens) hstart
    split at h
    · rename_i hread
      rw [hread] at hpoints
      cases h
      exact hpoints
    · rename_i whole hread
      rw [hread] at hpoints
      split at h
      · cases h
      · rename_i t ht
        cases h
        exact ⟨t, hpoints.all.peek ht, rfl, rfl⟩

/-- A text is not read for a lexeme that the mode refuses, or else at a token or at the end of the last one. -/
theorem error_of_parse (h : parse mode text = .error e) :
    (∃ item ∈ lexemes 0 text, item.2.refusal? = some e.cause ∧ e.position = item.1) ∨
      ∃ tokens last, tokenize mode text = .ok tokens ∧ tokens.getLast? = some last ∧ e.PointsAt (· ∈ tokens) last.stop := by
  refine (parse_eq_error_iff.mp h).imp exists_refusal_of_tokensOf ?_
  rintro ⟨tokens, htokens, h⟩
  obtain ⟨last, hlast, hpoints⟩ := pointsAt_of_ofTokens (shaped_of_tokenize htokens) h
  exact ⟨tokens, last, htokens, hlast, hpoints⟩

/-- The cause of an error of a text is never a number that does not read. -/
theorem ne_invalidNumber_of_parse (h : parse mode text = .error e) (found : String) : e.cause ≠ .invalidNumber found := by
  intro hcause
  rcases error_of_parse h with ⟨⟨start, l⟩, -, hrefusal, -⟩ | ⟨tokens, last, -, -, hpoints⟩
  · rw [hcause] at hrefusal
    cases l <;> cases hrefusal
  · unfold SyntaxError.PointsAt at hpoints
    rw [hcause] at hpoints
    exact hpoints

/-- An error of a text stands between two characters of it or at one of its ends. If it names a text, the condition goes on
with this text there, or with a quotation mark or a dot and this text. If it names none, the last token ends there. No message
says that a number does not read. -/
theorem parse_error_place (h : parse mode text = .error e) :
    e.position ≤ Text.byteLength text ∧
    (∃ rest, Text.RestAt text e.position rest ∧
      match e.cause.found? with
      | some found => found.toList <+: rest ∨ '"' :: found.toList <+: rest ∨ '.' :: found.toList <+: rest
      | none => ∃ tokens last, tokenize mode text = .ok tokens ∧ tokens.getLast? = some last ∧ e.position = last.stop) ∧
    ¬"invalid number".toList <+: e.message.toList := by
  have hplace : ∃ rest, Text.RestAt text e.position rest ∧
      match e.cause.found? with
      | some found => found.toList <+: rest ∨ '"' :: found.toList <+: rest ∨ '.' :: found.toList <+: rest
      | none => ∃ tokens last, tokenize mode text = .ok tokens ∧ tokens.getLast? = some last ∧ e.position = last.stop := by
    rcases error_of_parse h with ⟨item, hitem, hrefusal, hposition⟩ | ⟨tokens, last, htokens, hlast, hpoints⟩
    · obtain ⟨after, hrest⟩ := restAt_of_mem_lexemes hitem
      refine ⟨_, hposition ▸ hrest, ?_⟩
      rw [Lexeme.found?_of_refusal hrefusal]
      refine .inl ?_
      rw [String.toList_ofList]
      exact List.prefix_append _ _
    · have hpointed := hpoints.found?
      cases hfound : e.cause.found? with
      | some found =>
        rw [hfound] at hpointed
        obtain ⟨t, ht, rfl, hposition⟩ := hpointed
        rw [hposition]
        exact exists_rest_of_mem_tokens htokens ht
      | none =>
        rw [hfound] at hpointed
        obtain ⟨rest, hrest⟩ := (slice_of_mem_tokens htokens (List.mem_of_getLast? hlast)).2.restAt_stop
        exact ⟨rest, hpointed ▸ hrest, tokens, last, htokens, hlast, hpointed⟩
  obtain ⟨rest, hrest, hnamed⟩ := hplace
  exact ⟨hrest.le_byteLength, ⟨rest, hrest, hnamed⟩, e.cause.not_prefix_message (ne_invalidNumber_of_parse h)⟩

theorem parse_error_place_of_open_table :
    let text := "é \x7ba \"ü\" é".toList
    let e : SyntaxError := ⟨.endOfCondition .closingBrace, 10⟩
    parse .lenient text = .error e ∧ e.position ≤ Text.byteLength text ∧
      (∃ rest, Text.RestAt text e.position rest ∧
        match e.cause.found? with
        | some found => found.toList <+: rest ∨ '"' :: found.toList <+: rest ∨ '.' :: found.toList <+: rest
        | none => ∃ tokens last, tokenize .lenient text = .ok tokens ∧ tokens.getLast? = some last ∧ e.position = last.stop) ∧
      ¬"invalid number".toList <+: e.message.toList := by
  have h : parse .lenient "é \x7ba \"ü\" é".toList = .error ⟨.endOfCondition .closingBrace, 10⟩ := by cbv
  exact ⟨h, parse_error_place h⟩

end Expr

end ConditionLang
