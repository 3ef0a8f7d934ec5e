import ConditionLang.Proofs.Faults
import ConditionLang.Proofs.Spacing

/-!
# Comments and quotations

A comment starts at the first `#` outside of quotation marks, as a count of the marks before it has it. The lexer has the same
notion of being inside a quotation: every `#` that is left on a line stands in a quotation of the text that is cut into tokens,
closed or not, and cutting off a comment does not change a line (`comments_agree_with_quotations`). A text in which every `#`
stands behind an odd number of quotation marks stays one when a lexeme is cut off its front, because only an open quotation
has an odd number of marks in its spelling, and that takes all the rest.
-/

namespace ConditionLang

namespace Text

/-- Every `#` of the text stands behind an odd number of quotation marks. -/
def HashesQuoted (text : List Char) : Prop :=
  ∀ before after, text = before ++ '#' :: after → Odd (before.count '"')

namespace HashesQuoted

variable {front rest : List Char}

/-- After a front with an even number of quotation marks, the rest has its hashes quoted too. -/
theorem of_append (h : HashesQuoted (front ++ rest)) (hfront : Even (front.count '"')) : HashesQuoted rest := by
  rintro before after rfl
  have hodd := h (front ++ before) after (List.append_assoc _ _ _).symm
  rw [List.count_append] at hodd
  exact (Nat.odd_add'.mp hodd).mpr hfront

/-- A front of a text with quoted hashes has quoted hashes. -/
theorem left (h : HashesQuoted (front ++ rest)) : HashesQuoted front := by
  rintro before after rfl
  exact h before (after ++ rest) (List.append_assoc _ _ _)

/-- A text with quoted hashes does not start with one. -/
theorem head_ne {c : Char} (h : HashesQuoted (c :: rest)) : c ≠ '#' := by
  rintro rfl
  exact absurd (h [] rest rfl) (by decide)

end HashesQuoted

/-- No quotation marks are an even number of them. -/
theorem even_count_of_not_mem {s : List Char} (h : '"' ∉ s) : Even (s.count '"') := by
  simp [List.count_eq_zero.mpr h]

/-- A text is what is left of it without its blanks at either end, between these blanks. -/
theorem exists_eq_trim (s : List Char) :
    ∃ front back, s = front ++ (trim s ++ back) ∧ front.all isBlank = true ∧ back.all isBlank = true := by
  refine ⟨s.takeWhile isBlank, ((trimStart s).reverse.takeWhile isBlank).reverse, ?_, List.all_takeWhile, ?_⟩
  · rw [trim, trimEnd, ← List.reverse_append, List.takeWhile_append_dropWhile, List.reverse_reverse, trimStart,
      List.takeWhile_append_dropWhile]
  · rw [List.all_reverse]
    exact List.all_takeWhile

end Text

/-! ## Lexemes with a hash -/

/-- The lexeme is a quotation, closed or not. -/
def Lexeme.IsQuotation : Lexeme → Prop
  | .token kind _ => kind = .quoted
  | .unclosed _ => True
  | .stray _ => False

namespace Lexeme

/-- An open quotation takes the rest of the text. -/
theorem eq_of_first_unclosed {c : Char} {s body : List Char} (h : first c s = .unclosed body) : body = s := by
  unfold first at h
  split at h
  · cases h
  · split at h
    · dsimp only at h
      split at h
      · cases h
      · rename_i hlength
        cases h
        exact (List.takeWhile_sublist _).eq_of_length_le (Nat.not_lt.mp hlength)
    · split at h
      · cases h
      · split at h
        · cases h
        · split at h
          · cases h
          · split at h <;> cases h

/-- No lexeme but an open quotation opens or closes one. -/
theorem even_count_spelling_first {c : Char} {s : List Char} (hclosed : ∀ body, first c s ≠ .unclosed body) :
    Even ((first c s).spelling.count '"') := by
  cases hfirst : first c s with
  | token kind body =>
    have hadmits := admits_of_first hfirst
    by_cases hkind : kind = .quoted
    · subst hkind
      have hbody : body.count '"' = 0 := List.count_eq_zero.mpr hadmits
      have hcount : (Lexeme.token .quoted body).spelling.count '"' = 2 := by
        simp [spelling, Token.Kind.spell, hbody]
      simp [hcount]
    · refine Text.even_count_of_not_mem fun hmem => ?_
      exact absurd (hadmits.mem_spell hkind hmem) (by decide)
  | unclosed body => exact absurd hfirst (hclosed body)
  | stray d =>
    obtain ⟨-, hd, -⟩ := startsNone_of_first hfirst
    exact Text.even_count_of_not_mem fun hmem => hd (List.mem_singleton.mp hmem).symm

/-- A `#` behind the first character of a text that starts with none belongs to a quotation. -/
theorem isQuotation_first {c : Char} {s : List Char} (hc : c ≠ '#') (hhash : '#' ∈ (first c s).spelling) :
    (first c s).IsQuotation := by
  obtain ⟨tail, rest, hspelling, -⟩ := exists_spelling_first_eq_cons c s
  cases hfirst : first c s with
  | token kind body =>
    rw [hfirst] at hhash
    by_contra hkind
    exact absurd ((admits_of_first hfirst).mem_spell hkind hhash) (by decide)
  | unclosed body => trivial
  | stray d =>
    rw [hfirst] at hhash hspelling
    have hd : c = d := (List.cons.inj hspelling).1.symm
    exact hc (hd.trans (List.mem_singleton.mp hhash).symm)

end Lexeme

/-- Lexemes with a `#` are quotations if the text has every `#` behind an odd number of quotation marks. -/
theorem isQuotation_of_mem_lexemes {position : Nat} {text : List Char} (h : Text.HashesQuoted text) {item : Nat × Lexeme}
    (hitem : item ∈ lexemes position text) (hhash : '#' ∈ item.2.spelling) : item.2.IsQuotation := by
  fun_induction lexemes position text with
  | case1 => exact absurd hitem List.not_mem_nil
  | case2 position c s hblank ih =>
    have hquote : '"' ∉ [c] := by
      intro hmem
      obtain rfl := List.mem_singleton.mp hmem
      exact absurd hblank (by decide)
    exact ih (@Text.HashesQuoted.of_append [c] s h (Text.even_count_of_not_mem hquote)) hitem
  | case3 position c s hblank l ih =>
    rcases List.mem_cons.mp hitem with rfl | hitem
    · exact Lexeme.isQuotation_first h.head_ne hhash
    obtain ⟨rest, htext, hdrop⟩ := Lexeme.exists_drop_spelling_first c s
    have hrest : s.drop (l.spelling.length - 1) = rest := by simpa using hdrop []
    by_cases hclosed : ∀ body, Lexeme.first c s ≠ .unclosed body
    · rw [hrest] at ih hitem
      rw [htext] at h
      exact ih (h.of_append (Lexeme.even_count_spelling_first hclosed)) hitem
    · -- Behind an open quotation stands nothing.
      obtain ⟨body, hfirst⟩ := not_forall_not.mp hclosed
      have hlength : l.spelling.length - 1 = s.length := by
        rw [show l = .unclosed body from hfirst, Lexeme.eq_of_first_unclosed hfirst]
        rfl
      rw [hlength, List.drop_length, lexemes] at hitem
      exact absurd hitem List.not_mem_nil

/-! ## Lines -/

namespace ConditionLine

/-- A quotation mark changes the parity of the marks so far. -/
theorem toNat_toggle (quoted : Bool) (c : Char) (s : List Char) :
    ((if c = '"' then !quoted else quoted).toNat + s.count '"') % 2 = (quoted.toNat + (c :: s).count '"') % 2 := by
  by_cases hc : c = '"'
  · rw [if_pos hc, hc, List.count_cons_self]
    cases quoted with
    | false =>
      rw [Bool.not_false, Bool.toNat_true, Bool.toNat_false]
      omega
    | true =>
      rw [Bool.not_true, Bool.toNat_true, Bool.toNat_false]
      omega
  · rw [if_neg hc, List.count_cons_of_ne hc]

/-- A `#` that is left stands behind an odd number of quotation marks, the one before the text counted if it is open. -/
theorem odd_of_stripComment {quoted : Bool} {s before after : List Char}
    (h : stripComment quoted s = before ++ '#' :: after) : Odd (quoted.toNat + before.count '"') := by
  induction s generalizing quoted before with
  | nil => exact absurd h.symm (List.append_ne_nil_of_right_ne_nil _ (List.cons_ne_nil _ _))
  | cons c s ih =>
    rw [stripComment] at h
    split at h
    · exact absurd h.symm (List.append_ne_nil_of_right_ne_nil _ (List.cons_ne_nil _ _))
    · rename_i hopen
      cases before with
      | nil =>
        have hquoted : quoted = true := by
          by_contra hquoted
          exact hopen ⟨(List.cons.inj h).1, hquoted⟩
        rw [hquoted]
        decide
      | cons d before =>
        obtain ⟨rfl, hrest⟩ := List.cons.inj h
        have hodd := ih hrest
        rwa [Nat.odd_iff, toNat_toggle, ← Nat.odd_iff] at hodd

/-- What is left of a line before its comment has every hash in a quotation. -/
theorem hashesQuoted_stripComment (s : List Char) : Text.HashesQuoted (stripComment false s) := by
  intro before after h
  have hodd := odd_of_stripComment h
  rwa [Bool.toNat_false, Nat.zero_add] at hodd

/-- Behind quotations that are all closed, a `#` and what follows it are cut off. -/
theorem stripComment_append_hash {quoted : Bool} {s : List Char} (h : Even (quoted.toNat + s.count '"')) (comment : List Char) :
    stripComment quoted (s ++ '#' :: comment) = stripComment quoted s := by
  induction s generalizing quoted with
  | nil =>
    cases quoted with
    | false => rfl
    | true => exact absurd h (by decide)
  | cons c s ih =>
    rw [List.cons_append, stripComment, stripComment]
    split
    · rfl
    · rw [Nat.even_iff, ← toNat_toggle, ← Nat.even_iff] at h
      rw [ih h]

/-- The quotation marks behind the marker of a line are those behind its first `>`. -/
theorem dropWhile_of_trimStart {s rest : List Char} (h : Text.trimStart s = '>' :: rest) :
    s.dropWhile (· != '>') = '>' :: rest := by
  have hblanks : (s.takeWhile Text.isBlank).all (· != '>') = true := by
    refine List.all_eq_true.mpr fun c hc => bne_iff_ne.mpr ?_
    rintro rfl
    exact absurd (List.all_eq_true.mp List.all_takeWhile _ hc) (by decide)
  have hsplit : s = s.takeWhile Text.isBlank ++ '>' :: rest := by
    rw [← h, Text.trimStart, List.takeWhile_append_dropWhile]
  have hdrop := @Lexeme.dropWhile_append_of_stops (· != '>') _ ('>' :: rest) hblanks (by rintro _ ⟨⟩; rfl)
  rwa [← hsplit] at hdrop

/-- A line without marker stays one with a `#` behind it, and behind closed quotations the `#` starts a comment. -/
theorem body?_append_hash {s : List Char}
    (h : (Text.trimStart s).head? ≠ some '>' ∨ Even ((s.dropWhile (· != '>')).count '"')) (comment : List Char) :
    body? (s ++ '#' :: comment) = body? s := by
  have htrim : Text.trimStart (s ++ '#' :: comment) = Text.trimStart s ++ '#' :: comment := by
    have hhash : Text.trimStart ('#' :: comment) = '#' :: comment := rfl
    rw [Text.trimStart, List.dropWhile_append, ← Text.trimStart, ← Text.trimStart, hhash]
    split
    · rename_i hnil
      rw [List.isEmpty_iff.mp hnil, List.nil_append]
    · rfl
  rw [body?, body?, htrim]
  cases hs : Text.trimStart s with
  | nil => rfl
  | cons c rest =>
    rw [List.cons_append]
    by_cases hc : c = '>'
    · subst hc
      have heven : Even (false.toNat + rest.count '"') := by
        rcases h with hnone | heven
        · exact absurd (hs ▸ rfl) hnone
        · rw [dropWhile_of_trimStart hs, List.count_cons_of_ne (by decide)] at heven
          rwa [Bool.toNat_false, Nat.zero_add]
      exact congrArg (fun text => some (Text.trim text)) (stripComment_append_hash heven comment)
    · split
      · rename_i heq
        exact absurd (List.cons.inj heq).1 hc
      · split
        · rename_i heq
          exact absurd (List.cons.inj heq).1 hc
        · rfl

/-- Either the word `or` ends before the rest of a text and is split off, or the text is left as it is. -/
theorem splitOr_cases (text : List Char) :
    (∃ rest, text = 'o' :: 'r' :: rest ∧ Text.Bounds rest ∧ splitOr text = (true, Text.trimStart rest)) ∨
      splitOr text = (false, text) := by
  unfold splitOr
  split
  · rename_i rest
    split
    · rename_i hblank
      exact .inl ⟨rest, rfl, fun c hc => .inl ((Option.all_eq_true _ _).mp hblank c hc), rfl⟩
    · exact .inr rfl
  · exact .inr rfl

/-- Only the word `or` and the blanks after it are taken off the front of a condition text. -/
theorem exists_eq_splitOr (s : List Char) :
    ∃ front, s = front ++ (splitOr s).2 ∧ ∀ c ∈ front, c = 'o' ∨ c = 'r' ∨ Text.isBlank c = true := by
  rcases splitOr_cases s with ⟨rest, rfl, -, hsplit⟩ | hsplit
  · rw [hsplit]
    refine ⟨'o' :: 'r' :: rest.takeWhile Text.isBlank, ?_, ?_⟩
    · rw [Text.trimStart, List.cons_append, List.cons_append, List.takeWhile_append_dropWhile]
    · exact List.forall_mem_cons.mpr ⟨.inl rfl, List.forall_mem_cons.mpr ⟨.inr (.inl rfl), fun c hc =>
        .inr (.inr (List.all_eq_true.mp List.all_takeWhile c hc))⟩⟩
  · rw [hsplit]
    exact ⟨[], rfl, List.forall_mem_nil _⟩

/-- The text that is cut into tokens is what is left of a line after the marker, without blanks at its ends and the word `or`. -/
theorem exists_of_body? {raw body : List Char} (h : body? raw = some body) :
    ∃ rest front back, Text.trimStart raw = '>' :: rest ∧ stripComment false rest = front ++ ((splitOr body).2 ++ back) ∧
      (∀ c ∈ front, c = 'o' ∨ c = 'r' ∨ Text.isBlank c = true) ∧ ∀ c ∈ back, Text.isBlank c = true := by
  unfold body? at h
  split at h
  · rename_i rest hraw
    cases h
    obtain ⟨blanks, back, htrim, hblanks, hback⟩ := Text.exists_eq_trim (stripComment false rest)
    obtain ⟨front, hor, hfront⟩ := exists_eq_splitOr (Text.trim (stripComment false rest))
    refine ⟨rest, blanks ++ front, back, hraw, ?_, ?_, List.all_eq_true.mp hback⟩
    · rw [List.append_assoc, ← List.append_assoc front, ← hor]
      exact htrim
    · exact List.forall_mem_append.mpr ⟨fun c hc => .inr (.inr (List.all_eq_true.mp hblanks c hc)), hfront⟩
  · cases h

/-- A line is not read for its condition text. -/
theorem parse?_eq_error_iff {mode : LexMode} {line : Nat} {raw : List Char} {e : SyntaxError} :
    parse? mode line raw = .error e ↔ ∃ body, body? raw = some body ∧ Expr.parse mode (splitOr body).2 = .error e := by
  unfold parse?
  cases body? raw with
  | none => exact iff_of_false nofun fun ⟨_, h, _⟩ => nomatch h
  | some body =>
    dsimp only
    cases hparse : Expr.parse mode (splitOr body).2 with
    | error e' =>
      constructor
      · intro h
        cases h
        exact ⟨body, rfl, hparse⟩
      · rintro ⟨_, ⟨⟩, h⟩
        cases hparse.symm.trans h
        rfl
    | ok expr =>
      refine iff_of_false (fun h => nomatch h) ?_
      rintro ⟨_, ⟨⟩, h⟩
      cases hparse.symm.trans h

/-- The condition text of a line has every hash in a quotation. -/
theorem hashesQuoted_of_body? {raw body : List Char} (h : body? raw = some body) : Text.HashesQuoted (splitOr body).2 := by
  obtain ⟨rest, front, back, -, hstripped, hfront, -⟩ := exists_of_body? h
  have hquoted := hashesQuoted_stripComment rest
  rw [hstripped] at hquoted
  have hquote : '"' ∉ front := by
    intro hmem
    exact absurd (hfront _ hmem) (by decide)
  exact (hquoted.of_append (Text.even_count_of_not_mem hquote)).left

/-- Behind the marker of a line without open quotations, or on a line without marker, a `#` and what follows it change nothing.
Every `#` that is left on a line when its comment is cut off stands in the text that is cut into tokens, and there in a
quotation, closed or not. So the strict mode never refuses a line for a `#`. -/
theorem comments_agree_with_quotations :
    (∀ mode line s comment,
      (Text.trimStart s).head? ≠ some '>' ∨ Even ((s.dropWhile (· != '>')).count '"') →
        parse? mode line (s ++ '#' :: comment) = parse? mode line s) ∧
    (∀ raw body, body? raw = some body →
      ∃ rest front back, Text.trimStart raw = '>' :: rest ∧
        stripComment false rest = front ++ ((splitOr body).2 ++ back) ∧ '#' ∉ front ∧ '#' ∉ back ∧
        ∀ position, Text.StandsAt (splitOr body).2 '#' position →
          ∃ item ∈ lexemes 0 (splitOr body).2, item.2.IsQuotation ∧
            ∃ offset, Text.StandsAt item.2.spelling '#' offset ∧ position = item.1 + offset) ∧
    ∀ line raw e, parse? .strict line raw = .error e → e.cause ≠ .strayCharacter '#' := by
  refine ⟨fun mode line s comment h => ?_, fun raw body hbody => ?_, fun line raw e h hcause => ?_⟩
  · rw [parse?, parse?, body?_append_hash h]
  · obtain ⟨rest, front, back, hraw, hstripped, hfront, hback⟩ := exists_of_body? hbody
    refine ⟨rest, front, back, hraw, hstripped, fun hmem => absurd (hfront _ hmem) (by decide),
      fun hmem => absurd (hback _ hmem) (by decide), fun position hposition => ?_⟩
    rcases (cut_lexemes 0 _).exists_of_standsAt hposition with hblank | ⟨item, hitem, offset, hoffset, hplace⟩
    · cases hblank
    · rw [Nat.zero_add] at hplace
      exact ⟨item, hitem, isQuotation_of_mem_lexemes (hashesQuoted_of_body? hbody) hitem hoffset.mem, offset, hoffset, hplace⟩
  · obtain ⟨body, hbody, hparse⟩ := parse?_eq_error_iff.mp h
    rcases Expr.error_of_parse hparse with ⟨⟨start, l⟩, hitem, hrefusal, -⟩ | ⟨tokens, last, -, -, hpoints⟩
    · rw [hcause] at hrefusal
      cases l with
      | token kind text => cases hrefusal
      | unclosed text => cases hrefusal
      | stray c =>
        cases hrefusal
        exact isQuotation_of_mem_lexemes (hashesQuoted_of_body? hbody) hitem List.mem_cons_self
    · rw [SyntaxError.PointsAt, hcause] at hpoints
      exact hpoints

theorem comments_agree_with_quotations_of_open_quotation :
    let s := " > t == \"#1\" ".toList
    let raw := "> or é! \"# b".toList
    let body := "or é! \"# b".toList
    let e : SyntaxError := ⟨.strayCharacter 'é', 0⟩
    ((Text.trimStart s).head? ≠ some '>' ∨ Even ((s.dropWhile (· != '>')).count '"')) ∧
      parse? .strict 3 (s ++ '#' :: " \"note".toList) = parse? .strict 3 s ∧
      body? raw = some body ∧
      (∃ rest front back, Text.trimStart raw = '>' :: rest ∧
        stripComment false rest = front ++ ((splitOr body).2 ++ back) ∧ '#' ∉ front ∧ '#' ∉ back ∧
        ∀ position, Text.StandsAt (splitOr body).2 '#' position →
          ∃ item ∈ lexemes 0 (splitOr body).2, item.2.IsQuotation ∧
            ∃ offset, Text.StandsAt item.2.spelling '#' offset ∧ position = item.1 + offset) ∧
      parse? .strict 1 raw = .error e ∧ e.cause ≠ .strayCharacter '#' := by
  have hclosed : (Text.trimStart " > t == \"#1\" ".toList).head? ≠ some '>' ∨
      Even ((" > t == \"#1\" ".toList.dropWhile (· != '>')).count '"') := .inr (by decide)
  have hbody : body? "> or é! \"# b".toList = some "or é! \"# b".toList := by decide
  have htokens : tokenize .strict "é! \"# b".toList = .error ⟨.strayCharacter 'é', 0⟩ := by cbv
  have herror : parse? .strict 1 "> or é! \"# b".toList = .error ⟨.strayCharacter 'é', 0⟩ :=
    parse?_eq_error_iff.mpr ⟨_, hbody, Expr.parse_eq_error_iff.mpr (.inl htokens)⟩
  exact ⟨hclosed, comments_agree_with_quotations.1 .strict 3 _ _ hclosed, hbody,
    comments_agree_with_quotations.2.1 _ _ hbody, herror, comments_agree_with_quotations.2.2 1 _ _ herror⟩

end ConditionLine

end ConditionLang
