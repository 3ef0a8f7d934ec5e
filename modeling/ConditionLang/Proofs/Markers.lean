import ConditionLang.Proofs.Comments
import ConditionLang.Proofs.Loading

/-!
# The word that makes a line an alternative

Whether a line is an alternative is seen from the characters behind its marker, before any of them is cut into tokens. The
tokens agree: a line that reads is an alternative if and only if its first token is the word `or`, and what it spells are the
tokens behind that word (`marker_agrees_with_tokens`). Where the characters show the word, a blank or the end of the text
follows it, and there a name ends for the lexer as well. Where they do not show it, as in `or(x)`, its token may still come
first, but no expression starts with that token, so the line does not read.
-/

namespace ConditionLang

/-! ## The first token of an expression -/

namespace Parser

variable {c next : Cursor} {e : Expr}

/-- An expression of any level starts with one that has no operators outside of parentheses. -/
theorem exists_reads_unary {l : Expr.Level} {e : Expr} {next : Cursor} (h : Reads (level l c) e next) :
    ∃ e' d, Reads (unary c) e' d := by
  obtain ⟨left, d, hleft, -⟩ := reads_level.mp h
  rw [operand_eq] at hleft
  split at hleft
  · rename_i m hm
    have := Expr.Level.rank_tighter hm
    exact exists_reads_unary hleft
  · exact ⟨left, d, hleft⟩
termination_by l.rank

/-- The only word among those that join conditions at which an expression starts is `not`. -/
theorem text_of_reads_unary (h : Reads (unary c) e next) {t : Token} (ht : c.peek? = some t) (hname : t.kind = .name) :
    t.text = "not" ∨ t.text ∉ Token.connectives := by
  rw [reads_unary, ht, Option.any_some] at h
  split at h
  · rename_i hnot
    rw [Token.isWord, Bool.and_eq_true, beq_iff_eq, beq_iff_eq] at hnot
    exact .inl hnot.2
  · obtain ⟨u, hu, e', d, hbase, -⟩ := reads_primary.mp h
    cases ht.symm.trans hu
    rw [reads_base, hname] at hbase
    dsimp only at hbase
    refine .inr ?_
    split at hbase
    · rename_i htrue
      rw [htrue]
      decide
    · split at hbase
      · rename_i hfalse
        rw [hfalse]
        decide
      · exact hbase.1

end Parser

open ConditionLang.Parser

variable {mode : LexMode} {ts us : List Token}

/-- No tokens with the word `or` in front spell an expression. -/
theorem Expr.any_isWord_or_of_ofTokens {e : Expr} (h : ofTokens ts = .ok e) : ts.head?.any (·.isWord "or") = false := by
  cases ts with
  | nil => rfl
  | cons t ts =>
    rw [List.head?_cons, Option.any_some, Bool.eq_false_iff]
    intro hor
    rw [Token.isWord, Bool.and_eq_true, beq_iff_eq, beq_iff_eq] at hor
    obtain ⟨next, hread, -⟩ := (ofTokens_eq_ok_iff (List.cons_ne_nil t ts)).mp h
    obtain ⟨e', d, hunary⟩ := exists_reads_unary hread
    rcases text_of_reads_unary hunary rfl hor.1 with htext | htext
    · exact absurd (hor.2.symm.trans htext) (by decide)
    · rw [hor.2] at htext
      exact htext (by decide)

/-! ## Tokens at other places -/

/-- Moved tokens are parsed to the same expression. -/
theorem Expr.ofTokens_eq_ok_of_moved {e : Expr} (h : Token.Moved [] ts us) (hts : ofTokens ts = .ok e) :
    ofTokens us = .ok e := by
  rcases ofTokens_of_moved h with ⟨e', hts', hus⟩ | ⟨err, err', hts', -⟩
  · rwa [← hts, hts']
  · cases hts.symm.trans hts'

namespace Token.Moved

/-- Moved tokens without their first ones are moved tokens. -/
theorem drop_head (h : Moved [] ts us) : Moved [] ts.tail us.tail := by
  cases h with
  | nil => exact .nil
  | cons _ _ _ rest => exact rest

/-- Moved tokens start with the same word. -/
theorem any_isWord_head? (h : Moved [] ts us) (w : String) :
    us.head?.any (·.isWord w) = ts.head?.any (·.isWord w) := by
  cases h with
  | nil => rfl
  | cons kind text _ _ => rw [List.head?_cons, List.head?_cons, Option.any_some, Option.any_some, isWord, kind, text, isWord]

end Token.Moved

/-- Blanks at the ends of a text move its tokens and change nothing else about them. -/
theorem exists_tokenizes_of_trim {position : Nat} {s : List Char} (h : Tokenizes mode position (Text.trim s) ts) :
    ∃ us, Tokenizes mode position s us ∧ Token.Moved [] ts us := by
  obtain ⟨front, back, hs, hfront, hback⟩ := Text.exists_eq_trim s
  obtain ⟨us, hus, hmoved⟩ := h.exists_moved (position + Text.byteLength front)
  have hends := hus.append (Text.bounds_of_blank hback) ((tokenizes_blank_iff hback).mpr rfl)
  rw [List.append_nil, ← tokenizes_blanks_iff hfront, ← hs] at hends
  exact ⟨us, hends, hmoved⟩

/-! ## The word in front -/

namespace ConditionLine

/-- The tokens behind the word that is split off a text are those of the text without the first, which is that word. -/
theorem exists_tokenizes_of_splitOr {position : Nat} {text : List Char} (h : Tokenizes mode position (splitOr text).2 ts)
    (position' : Nat) :
    ∃ us, Tokenizes mode position' text us ∧ Token.Moved [] ts (if (splitOr text).1 then us.tail else us) ∧
      ((splitOr text).1 = true → us.head?.any (·.isWord "or") = true) := by
  rcases splitOr_cases text with ⟨rest, rfl, hbounds, hsplit⟩ | hsplit
  · rw [hsplit] at h ⊢
    have hshaped : Token.isNameShaped ['o', 'r'] = true := by decide
    obtain ⟨us, hus, hmoved⟩ :=
      h.exists_moved (position' + Text.byteLength ['o', 'r'] + Text.byteLength (rest.takeWhile Text.isBlank))
    rw [← tokenizes_blanks_iff List.all_takeWhile, Text.trimStart, List.takeWhile_append_dropWhile] at hus
    obtain ⟨t, hkind, htext, -, -, htokens⟩ := hus.exists_cons .name ['o', 'r'] hshaped (hbounds.stops fun h => absurd h (by decide))
    refine ⟨t :: us, htokens, hmoved, fun _ => ?_⟩
    rw [List.head?_cons, Option.any_some, Token.isWord, hkind, htext]
    decide
  · rw [hsplit] at h ⊢
    obtain ⟨us, hus, hmoved⟩ := h.exists_moved position'
    exact ⟨us, hus, hmoved, fun h => absurd h Bool.false_ne_true⟩

variable {line : Nat} {raw : List Char} {l : ConditionLine}

/-- The condition text of a line with a marker is what stands between the marker and the comment, without blanks at its ends. -/
theorem body?_eq_some_iff {body : List Char} :
    body? raw = some body ↔ ∃ rest, Text.trimStart raw = '>' :: rest ∧ body = Text.trim (stripComment false rest) := by
  unfold body?
  split
  · rename_i rest hraw
    constructor
    · rintro ⟨⟩
      exact ⟨rest, hraw, rfl⟩
    · rintro ⟨_, hraw', rfl⟩
      cases hraw.symm.trans hraw'
      rfl
  · rename_i hnone
    exact iff_of_false nofun fun ⟨rest, hraw, _⟩ => hnone rest hraw

/-- A line is an alternative if and only if the first token of the text between its marker and its comment is the word `or`.
Its expression is what these tokens spell, without that word if it comes first. -/
theorem marker_agrees_with_tokens (h : parse? mode line raw = .ok (some l)) :
    ∃ rest tokens, Text.trimStart raw = '>' :: rest ∧ tokenize mode (stripComment false rest) = .ok tokens ∧
      (l.isOr = true ↔ tokens.head?.any (·.isWord "or") = true) ∧
      Expr.ofTokens (if l.isOr then tokens.tail else tokens) = .ok l.expr := by
  obtain ⟨body, hbody, hparse, hor, -⟩ := parse?_eq_some_iff.mp h
  obtain ⟨rest, hraw, rfl⟩ := body?_eq_some_iff.mp hbody
  obtain ⟨ts, hts, hspell⟩ := Expr.parse_eq_ok_iff.mp hparse
  replace hts : Tokenizes mode 0 _ ts := hts
  obtain ⟨us, hus, hsplit, hword⟩ := exists_tokenizes_of_splitOr hts 0
  obtain ⟨tokens, htokens, hmoved⟩ := exists_tokenizes_of_trim hus
  rw [← hor] at hsplit hword
  rw [← hmoved.any_isWord_head?] at hword
  refine ⟨rest, tokens, hraw, htokens, ?_⟩
  have hexpr : Expr.ofTokens (if l.isOr then tokens.tail else tokens) = .ok l.expr := by
    refine Expr.ofTokens_eq_ok_of_moved ?_ (Expr.ofTokens_eq_ok_of_moved hsplit hspell)
    cases l.isOr with
    | true => exact hmoved.drop_head
    | false => exact hmoved
  refine ⟨⟨hword, fun hfirst => ?_⟩, hexpr⟩
  -- An expression that is not behind the word does not start with it.
  by_contra hplain
  rw [if_neg hplain] at hexpr
  rw [Expr.any_isWord_or_of_ofTokens hexpr] at hfirst
  cases hfirst

/-- Blanks of other kinds stand after the word `or` too, as in this line with a comment. -/
theorem marker_agrees_with_tokens_of_alternative :
    let raw := " >\tor\u00a0x == \"#\" # note".toList
    let l : ConditionLine := ⟨.binary .eq (.reference ⟨"x", []⟩) (.text "#"), true, 3⟩
    parse? .strict 3 raw = .ok (some l) ∧
      ∃ rest tokens, Text.trimStart raw = '>' :: rest ∧ tokenize .strict (stripComment false rest) = .ok tokens ∧
        (l.isOr = true ↔ tokens.head?.any (·.isWord "or") = true) ∧
        Expr.ofTokens (if l.isOr then tokens.tail else tokens) = .ok l.expr := by
  have hbody : body? " >\tor\u00a0x == \"#\" # note".toList = some "or\u00a0x == \"#\"".toList := by decide
  have hparse : Expr.parse .strict "x == \"#\"".toList = .ok (.binary .eq (.reference ⟨"x", []⟩) (.text "#")) := by cbv
  have hline : parse? .strict 3 " >\tor\u00a0x == \"#\" # note".toList =
      .ok (some ⟨.binary .eq (.reference ⟨"x", []⟩) (.text "#"), true, 3⟩) :=
    parse?_eq_some_iff.mpr ⟨_, hbody, hparse, rfl, rfl⟩
  exact ⟨hline, marker_agrees_with_tokens hline⟩

end ConditionLine

end ConditionLang
