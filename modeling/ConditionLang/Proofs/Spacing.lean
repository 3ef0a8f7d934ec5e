import ConditionLang.Proofs.Boundaries

/-!
# Blanks between tokens

How many blanks stand between the pieces of a condition and which blanks they are does not matter, and neither do blanks
before and after all of it; only whether two tokens touch does (`parse_of_respaced`). A piece is cut into the same tokens
wherever it starts, and tokens of different pieces never touch, so the tokens of both texts are the same up to their places.
-/

namespace ConditionLang

namespace Text

/-- A text without blanks outside of quotations: each quotation mark in it opens or closes a quotation. -/
inductive Solid : List Char → Prop
  | nil : Solid []
  | char {c : Char} {s : List Char} (hblank : isBlank c = false) (hquote : c ≠ '"') (h : Solid s) : Solid (c :: s)
  | quoted {body s : List Char} (hbody : '"' ∉ body) (h : Solid s) : Solid ('"' :: (body ++ '"' :: s))

/-- The second text consists of the pieces of the first. Between two pieces stand blanks, at least one in each of the texts,
and after the last any number of them. -/
inductive SamePieces : List Char → List Char → Prop
  | last {w b b' : List Char} (hw : Solid w) (hb : b.all isBlank = true) (hb' : b'.all isBlank = true) :
      SamePieces (w ++ b) (w ++ b')
  | gap {w b b' s s' : List Char} (hw : Solid w) (hb : b.all isBlank = true) (hne : b ≠ []) (hb' : b'.all isBlank = true)
      (hne' : b' ≠ []) (h : SamePieces s s') : SamePieces (w ++ (b ++ s)) (w ++ (b' ++ s'))

/-- The second text is the first with other blanks between its pieces, before them and after them. -/
def Respaced (t t' : List Char) : Prop :=
  ∃ b b' s s', b.all isBlank = true ∧ b'.all isBlank = true ∧ SamePieces s s' ∧ t = b ++ s ∧ t' = b' ++ s'

/-- A text before blanks ends there. -/
theorem bounds_of_blank {b : List Char} (hb : b.all isBlank = true) : Bounds b :=
  fun c hc => .inl (List.all_eq_true.mp hb c (List.mem_of_mem_head? hc))

/-- A text before some blanks ends there, whatever comes after them. -/
theorem bounds_append_of_blank {b : List Char} (hb : b.all isBlank = true) (hne : b ≠ []) (s : List Char) :
    Bounds (b ++ s) := by
  cases b with
  | nil => exact absurd rfl hne
  | cons c b => exact fun d hd => bounds_of_blank hb d hd

/-- A text that is not empty has bytes. -/
theorem byteLength_pos {b : List Char} (hne : b ≠ []) : 0 < byteLength b := by
  cases b with
  | nil => exact absurd rfl hne
  | cons c b => exact Nat.add_pos_left c.utf8Size_pos _

/-- A text without blanks has none behind its first character either. -/
theorem Solid.of_cons {c : Char} {s : List Char} (h : Solid (c :: s)) (hquote : c ≠ '"') : Solid s := by
  cases h with
  | char _ _ h => exact h
  | quoted _ _ => exact absurd rfl hquote

/-- What follows characters of a solid text that are no quotation marks is solid. -/
theorem Solid.of_append {front rest : List Char} (h : Solid (front ++ rest)) (hfront : '"' ∉ front) : Solid rest := by
  induction front with
  | nil => exact h
  | cons c front ih =>
    have hc : c ≠ '"' := fun heq => hfront (heq ▸ List.mem_cons_self)
    exact ih (h.of_cons hc) fun hmem => hfront (List.mem_cons_of_mem c hmem)

end Text

/-- Tokens but quotations are spelled with the characters of names and of marks. -/
theorem Token.Kind.Admits.mem_spell {kind : Kind} {body : List Char} (h : kind.Admits body) (hkind : kind ≠ .quoted) {c : Char}
    (hc : c ∈ kind.spell body) : isNamePart c = true ∨ c ∈ singleMarks ∨ c = '!' := by
  have hnamed : isNameShaped body = true → c ∈ body → isNamePart c = true := by
    intro hbody hmem
    obtain ⟨_, _, -, -, hall⟩ := Lexeme.isNameStart_of_isNameShaped hbody
    exact List.all_eq_true.mp hall _ hmem
  cases kind with
  | number =>
    rcases Lexeme.IsNumeral.isDigit_or_eq h hc with hdigit | rfl
    · exact .inl (by rw [isNamePart_eq, hdigit, Bool.or_true])
    · exact .inr (.inl (by decide))
  | quoted => exact absurd rfl hkind
  | name => exact .inl (hnamed h hc)
  | dotted =>
    rcases List.mem_cons.mp hc with rfl | hc
    · exact .inr (.inl (by decide))
    · exact .inl (hnamed h hc)
  | mark =>
    have hdouble : doubleMarks.all (·.all fun d => singleMarks.contains d || d == '!') = true := by decide
    rcases h with hmem | ⟨d, hd, rfl⟩
    · have hmark := List.all_eq_true.mp (List.all_eq_true.mp hdouble body hmem) c hc
      rw [Bool.or_eq_true, List.contains_iff_mem, beq_iff_eq] at hmark
      exact .inr hmark
    · exact .inr (.inl (List.mem_singleton.mp hc ▸ hd))

/-- Only a quotation has a quotation mark in its spelling. -/
theorem Lexeme.not_mem_spelling_first {c : Char} (hquote : c ≠ '"') (s : List Char) : '"' ∉ (first c s).spelling := by
  obtain ⟨tail, rest, hspelling, -⟩ := exists_spelling_first_eq_cons c s
  cases hfirst : first c s with
  | token kind body =>
    rw [hfirst] at hspelling
    have hkind : kind ≠ .quoted := by
      rintro rfl
      exact hquote (List.cons.inj hspelling).1.symm
    exact fun hmem => absurd ((admits_of_first hfirst).mem_spell hkind hmem) (by decide)
  | unclosed body =>
    rw [hfirst] at hspelling
    exact absurd (List.cons.inj hspelling).1.symm hquote
  | stray d =>
    rw [hfirst] at hspelling
    intro hmem
    exact hquote ((List.cons.inj hspelling).1.symm.trans (List.mem_singleton.mp hmem).symm)

/-- The first lexeme of a solid text is closed, and what follows it is solid. -/
theorem Text.Solid.first {c : Char} {s : List Char} (h : Solid (c :: s)) :
    (∀ body, Lexeme.first c s ≠ .unclosed body) ∧ Solid (s.drop ((Lexeme.first c s).spelling.length - 1)) := by
  by_cases hquote : c = '"'
  · subst hquote
    cases h with
    | char _ hquote _ => exact absurd rfl hquote
    | @quoted body s hbody h =>
      rw [Lexeme.first_quote hbody]
      refine ⟨nofun, ?_⟩
      have htext : body ++ '"' :: s = body ++ ['"'] ++ s := List.append_cons body '"' s
      show Solid ((body ++ '"' :: s).drop (body ++ ['"']).length)
      rwa [htext, List.drop_left]
  · obtain ⟨tail, rest, hspelling, rfl⟩ := Lexeme.exists_spelling_first_eq_cons c s
    constructor
    · intro body hunclosed
      rw [hunclosed] at hspelling
      exact hquote (List.cons.inj hspelling).1.symm
    · have hnone := Lexeme.not_mem_spelling_first hquote (tail ++ rest)
      rw [hspelling] at hnone
      rw [hspelling, List.length_cons, Nat.add_sub_cancel, List.drop_left]
      exact (h.of_cons hquote).of_append fun hmem => hnone (List.mem_cons_of_mem c hmem)

/-- All quotations in a solid text are closed. -/
theorem Text.Solid.closed {s : List Char} (h : Solid s) (position : Nat) : Lexeme.AllClosed (lexemes position s) := by
  fun_induction lexemes position s with
  | case1 => exact fun _ _ hmem => absurd hmem List.not_mem_nil
  | case2 position c s hblank ih =>
    refine ih (h.of_cons ?_)
    rintro rfl
    cases hblank
  | case3 position c s hblank l ih =>
    obtain ⟨hfirst, hrest⟩ := h.first
    intro start body hmem
    rcases List.mem_cons.mp hmem with heq | hmem
    · exact hfirst body (Prod.mk.inj heq).2.symm
    · exact ih hrest start body hmem

/-! ## Tokens of respaced texts -/

section

variable {mode : LexMode} {position : Nat} {s s' : List Char} {ts us : List Token}

/-- Blanks have no tokens. -/
theorem tokenizes_blank_iff {b : List Char} (hb : b.all Text.isBlank = true) : Tokenizes mode position b ts ↔ ts = [] := by
  have h : Tokenizes mode position (b ++ []) ts ↔ _ := tokenizes_blanks_iff hb
  rw [List.append_nil] at h
  rw [h, Tokenizes, lexemes]
  exact ⟨fun heq => (Except.ok.inj heq).symm, fun heq => heq ▸ rfl⟩

/-- A text at another place. -/
theorem Tokenizes.exists_moved (h : Tokenizes mode position s ts) (position' : Nat) :
    ∃ us, Tokenizes mode position' s us ∧ Token.Moved [] ts us := by
  obtain ⟨tokens, htokens, rfl⟩ := tokenizes_iff.mp h
  exact ⟨_, tokenizes_iff.mpr ⟨tokens, htokens, rfl⟩, Token.moved_later position position' tokens⟩

/-- Tokens of a piece and tokens of what follows it after some blanks do not touch. -/
theorem Tokenizes.stop_lt_start {b : List Char} (hne : b ≠ []) (h : Tokenizes mode position s ts)
    (h' : Tokenizes mode (position + Text.byteLength s + Text.byteLength b) s' us) :
    ∀ t ∈ ts, ∀ u ∈ us, t.stop < u.start := by
  intro t ht u hu
  have hstop := (cut_lexemes position s).stop_le h t ht
  have hstart := (cut_lexemes _ s').le_start h' u hu
  have hpos := Text.byteLength_pos hne
  omega

/-- The same pieces have the same tokens, at other places. -/
theorem exists_tokenizes_of_samePieces (h : Text.SamePieces s s') (hts : Tokenizes mode position s ts) (position' : Nat) :
    ∃ us, Tokenizes mode position' s' us ∧ Token.Moved [] ts us := by
  induction h generalizing position position' ts with
  | @last w b b' hw hb hb' =>
    obtain ⟨front, back, hfront, hback, rfl⟩ :=
      (tokenizes_append_iff (Text.bounds_of_blank hb) (hw.closed position)).mp hts
    obtain ⟨front', hfront', hmoved⟩ := hfront.exists_moved position'
    cases (tokenizes_blank_iff hb).mp hback
    refine ⟨front', ?_, by rwa [List.append_nil]⟩
    have h := hfront'.append (Text.bounds_of_blank hb') ((tokenizes_blank_iff hb').mpr rfl)
    rwa [List.append_nil] at h
  | @gap w b b' s s' hw hb hne hb' hne' h ih =>
    obtain ⟨front, back, hfront, hback, rfl⟩ :=
      (tokenizes_append_iff (Text.bounds_append_of_blank hb hne s) (hw.closed position)).mp hts
    rw [tokenizes_blanks_iff hb] at hback
    obtain ⟨front', hfront', hmoved⟩ := hfront.exists_moved position'
    obtain ⟨back', hback', hmoved'⟩ := ih hback (position' + Text.byteLength w + Text.byteLength b')
    refine ⟨front' ++ back', ?_, hmoved.append hmoved' (hfront.stop_lt_start hne hback) (hfront'.stop_lt_start hne' hback')⟩
    exact hfront'.append (Text.bounds_append_of_blank hb' hne' s') ((tokenizes_blanks_iff hb').mpr hback')

end

/-! ## Lists of tokens -/

namespace Token

/-- Whether each token of a list but the last touches the next one. -/
def joints (tokens : List Token) : List Bool :=
  tokens.zipWith (fun t u => t.stop == u.start) tokens.tail

/-- Tokens with the same kinds, texts and joints are moved copies of each other. -/
theorem moved_of_joints {ts us : List Token} (hkinds : us.map kind = ts.map kind) (htexts : us.map text = ts.map text)
    (hjoints : joints us = joints ts) : Moved [] ts us := by
  induction ts generalizing us with
  | nil =>
    cases List.map_eq_nil_iff.mp hkinds
    exact .nil
  | cons t ts ih =>
    cases us with
    | nil => cases hkinds
    | cons u us =>
      obtain ⟨hkind, hkinds⟩ := List.cons.inj hkinds
      obtain ⟨htext, htexts⟩ := List.cons.inj htexts
      cases ts with
      | nil =>
        cases List.map_eq_nil_iff.mp hkinds
        exact .cons hkind htext (fun t' ht' => nomatch ht') .nil
      | cons t' ts =>
        cases us with
        | nil => cases hkinds
        | cons u' us =>
          obtain ⟨hjoint, hjoints⟩ : (u.stop == u'.start) = (t.stop == t'.start) ∧ joints (u' :: us) = joints (t' :: ts) :=
            List.cons.inj hjoints
          refine .cons hkind htext ?_ (ih hkinds htexts hjoints)
          rintro _ ⟨⟩ _ ⟨⟩
          rw [← beq_iff_eq (a := t.stop), ← beq_iff_eq (a := u.stop), hjoint]

end Token

/-- Two texts with the same pieces and other blanks between them, before them and after them spell the same expression in
each mode. Two lists of tokens of the same kinds and texts of which the same touch spell the same expression or fail with the
same message at tokens of the same text. -/
theorem Expr.parse_of_respaced :
    (∀ mode t t' e, Text.Respaced t t' → parse mode t = .ok e → parse mode t' = .ok e) ∧
    ∀ ts us : List Token, us.map Token.kind = ts.map Token.kind → us.map Token.text = ts.map Token.text →
      Token.joints us = Token.joints ts →
        (∃ e, ofTokens ts = .ok e ∧ ofTokens us = .ok e) ∨
          ∃ err err', ofTokens ts = .error err ∧ ofTokens us = .error err' ∧ err'.message = err.message ∧
            err'.cause.found? = err.cause.found? := by
  constructor
  · rintro mode t t' e ⟨b, b', s, s', hb, hb', hpieces, rfl, rfl⟩ hparse
    obtain ⟨ts, htokens, hts⟩ := parse_eq_ok_iff.mp hparse
    replace htokens : Tokenizes mode 0 (b ++ s) ts := htokens
    rw [tokenizes_blanks_iff hb] at htokens
    obtain ⟨us, hus, hmoved⟩ := exists_tokenizes_of_samePieces hpieces htokens (0 + Text.byteLength b')
    refine parse_eq_ok_iff.mpr ⟨us, (tokenizes_blanks_iff hb').mpr hus, ?_⟩
    rcases ofTokens_of_moved hmoved with ⟨e', hts', hus'⟩ | ⟨err, _, hts', -⟩
    · cases hts.symm.trans hts'
      exact hus'
    · cases hts.symm.trans hts'
  · intro ts us hkinds htexts hjoints
    rcases ofTokens_of_moved (Token.moved_of_joints hkinds htexts hjoints) with hok | ⟨err, err', hts, hus, hcause⟩
    · exact .inl hok
    · exact .inr ⟨err, err', hts, hus, congrArg SyntaxError.Cause.message hcause, congrArg SyntaxError.Cause.found? hcause⟩

/-- The same comparison with other blanks around its parts, and the same failing tokens at other places. -/
theorem Expr.parse_of_respaced_of_comparison :
    let t := "x == \"a b\"".toList
    let t' := "\tx  ==\n\"a b\" ".toList
    let e := Expr.binary .eq (.reference ⟨"x", []⟩) (.text "a b")
    let ts : List Token := [⟨.number, "1", 0, 1⟩, ⟨.mark, "..", 1, 3⟩]
    let us : List Token := [⟨.number, "1", 7, 8⟩, ⟨.mark, "..", 8, 10⟩]
    Text.Respaced t t' ∧ parse .strict t = .ok e ∧ parse .strict t' = .ok e ∧
      Token.joints us = Token.joints ts ∧
        ((∃ e, ofTokens ts = .ok e ∧ ofTokens us = .ok e) ∨
          ∃ err err', ofTokens ts = .error err ∧ ofTokens us = .error err' ∧ err'.message = err.message ∧
            err'.cause.found? = err.cause.found?) := by
  have hx : Text.Solid ['x'] := .char (by decide) (by decide) .nil
  have heq : Text.Solid ['=', '='] := .char (by decide) (by decide) (.char (by decide) (by decide) .nil)
  have hquoted : Text.Solid ('"' :: (['a', ' ', 'b'] ++ '"' :: [])) := .quoted (by decide) .nil
  have hpieces : Text.SamePieces "x == \"a b\"".toList "x  ==\n\"a b\" ".toList := by
    have hlast := @Text.SamePieces.last _ [] [' '] hquoted (by decide) (by decide)
    have hrest := @Text.SamePieces.gap _ [' '] ['\n'] _ _ heq (by decide) (by decide) (by decide) (by decide) hlast
    exact @Text.SamePieces.gap _ [' '] [' ', ' '] _ _ hx (by decide) (by decide) (by decide) (by decide) hrest
  have hrespaced : Text.Respaced "x == \"a b\"".toList "\tx  ==\n\"a b\" ".toList :=
    ⟨[], ['\t'], _, _, rfl, by decide, hpieces, rfl, rfl⟩
  have hparse : parse .strict "x == \"a b\"".toList = .ok (.binary .eq (.reference ⟨"x", []⟩) (.text "a b")) := by cbv
  exact ⟨hrespaced, hparse, parse_of_respaced.1 .strict _ _ _ hrespaced hparse, rfl, parse_of_respaced.2 _ _ rfl rfl rfl⟩

end ConditionLang
