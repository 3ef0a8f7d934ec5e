import ConditionLang.Proofs.Modes

/-!
# What tokens cover

Tokens hold the whole of a text but for what separates them (`tokenize_covers`): each token takes up the bytes that its spelling
stands at, no two tokens overlap, and a character in no token is a blank or, in lenient mode, one that starts no token. A text
is cut into blanks and lexemes, so a character that is no blank stands in the spelling of a lexeme (`Cut.exists_of_standsAt`),
and a lexeme that makes no token is a single character.
-/

namespace ConditionLang

namespace Text

/-- Both bytes stand between two characters of the text or at one of its ends, and the text between them is the part. -/
def Slice (text : List Char) (start stop : Nat) (part : List Char) : Prop :=
  ∃ before after, text = before ++ part ++ after ∧ byteLength before = start ∧ byteLength (before ++ part) = stop

/-- A slice ends within the text. -/
theorem Slice.stop_le {text part : List Char} {start stop : Nat} (h : Slice text start stop part) :
    stop ≤ byteLength text := by
  obtain ⟨before, after, rfl, -, rfl⟩ := h
  rw [byteLength_append (before ++ part)]
  exact Nat.le_add_right _ _

/-- A character of two texts one after the other belongs to one of them. -/
theorem StandsAt.of_append {s t : List Char} {c : Char} {position : Nat} (h : StandsAt (s ++ t) c position) :
    StandsAt s c position ∨ ∃ offset, StandsAt t c offset ∧ position = byteLength s + offset := by
  obtain ⟨before, after, htext, rfl⟩ := h
  rcases List.append_eq_append_iff.mp htext with ⟨middle, rfl, hmiddle⟩ | ⟨middle, rfl, hmiddle⟩
  · exact .inr ⟨byteLength middle, ⟨middle, after, hmiddle, rfl⟩, by simp⟩
  · cases middle with
    | nil => exact .inr ⟨0, ⟨[], after, hmiddle.symm, rfl⟩, by simp⟩
    | cons d middle =>
      obtain ⟨rfl, -⟩ := List.cons.inj hmiddle
      exact .inl ⟨before, middle, rfl, rfl⟩

/-- A character stands before the end of a text. -/
theorem StandsAt.lt_byteLength {text : List Char} {c : Char} {position : Nat} (h : StandsAt text c position) :
    position < byteLength text := by
  obtain ⟨before, after, rfl, rfl⟩ := h
  have hpos := c.utf8Size_pos
  simp only [byteLength_append, byteLength_cons]
  omega

/-- What stands in a text is one of its characters. -/
theorem StandsAt.mem {text : List Char} {c : Char} {position : Nat} (h : StandsAt text c position) : c ∈ text := by
  obtain ⟨before, after, rfl, -⟩ := h
  simp

end Text

/-! ## Lexemes -/

/-- No token starts with the character. -/
def Token.StartsNone (c : Char) : Prop :=
  isNamePart c = false ∧ c ≠ '"' ∧ c ∉ singleMarks

/-- A character that is read as a stray one starts no token. -/
theorem Lexeme.startsNone_of_first {c d : Char} {s : List Char} (h : first c s = .stray d) : Token.StartsNone d := by
  unfold first at h
  split at h
  · cases h
  · split at h
    · dsimp only at h
      split at h <;> cases h
    · rename_i hquote
      split at h
      · cases h
      · rename_i hdigit
        split at h
        · cases h
        · split at h
          · cases h
          · rename_i hstart
            split at h
            · cases h
            · rename_i hmark
              cases h
              refine ⟨?_, hquote, fun hmem => hmark (List.contains_iff_mem.mpr hmem)⟩
              rw [Token.isNamePart_eq, Bool.eq_false_iff.mpr hstart, Bool.eq_false_iff.mpr hdigit, Bool.or_false]

/-- A character of a cut text is a blank, or it stands in the spelling of a lexeme. -/
theorem Cut.exists_of_standsAt {position offset : Nat} {text : List Char} {items : List (Nat × Lexeme)} {c : Char}
    (h : Cut position text items) (hc : Text.StandsAt text c offset) :
    Text.isBlank c = true ∨
      ∃ item ∈ items, ∃ offset', Text.StandsAt item.2.spelling c offset' ∧ position + offset = item.1 + offset' := by
  induction h generalizing offset with
  | nil position => exact absurd hc.lt_byteLength (Nat.not_lt_zero _)
  | @blank position d s items hblank _ ih =>
    rcases @Text.StandsAt.of_append [d] s c offset hc with hc | ⟨rest, hrest, rfl⟩
    · exact .inl (List.mem_singleton.mp hc.mem ▸ hblank)
    · rw [← Nat.add_assoc]
      exact ih hrest
  | @lexeme position l s items _ ih =>
    rcases hc.of_append with hc | ⟨rest, hrest, rfl⟩
    · exact .inr ⟨_, List.mem_cons_self, offset, hc, rfl⟩
    · rw [← Nat.add_assoc]
      refine (ih hrest).imp id ?_
      rintro ⟨item, hitem, h⟩
      exact ⟨item, List.mem_cons_of_mem _ hitem, h⟩

/-! ## Tokens -/

section

variable {mode : LexMode} {text : List Char} {tokens : List Token}

/-- No token of a text is empty. -/
theorem byteLength_spelling_pos (h : tokenize mode text = .ok tokens) {t : Token} (ht : t ∈ tokens) :
    0 < Text.byteLength t.spelling := by
  obtain ⟨c, s, -, hfirst⟩ := exists_first_of_mem_lexemes ((mem_tokensOf_iff h).mp ht).1
  obtain ⟨tail, -, hspelling, -⟩ := Lexeme.exists_spelling_first_eq_cons c s
  rw [hfirst] at hspelling
  replace hspelling : t.spelling = c :: tail := hspelling
  rw [hspelling, Text.byteLength_cons]
  exact Nat.add_pos_left c.utf8Size_pos _

/-- A token takes up some bytes of the text, and its spelling stands there. -/
theorem slice_of_mem_tokens (h : tokenize mode text = .ok tokens) {t : Token} (ht : t ∈ tokens) :
    t.start < t.stop ∧ Text.Slice text t.start t.stop t.spelling := by
  obtain ⟨before, after, htext, hstart, hstop⟩ := (cut_lexemes 0 text).exists_of_mem_tokens h ht
  rw [Nat.zero_add] at hstart hstop
  have hpos := byteLength_spelling_pos h ht
  refine ⟨?_, before, after, htext, hstart.symm, hstop.symm⟩
  rw [hstart, hstop, Text.byteLength_append]
  omega

/-- No token starts before the one before it has ended. -/
theorem pairwise_tokens (h : tokenize mode text = .ok tokens) : tokens.Pairwise fun t u => t.stop ≤ u.start := by
  obtain ⟨-, rfl⟩ := tokensOf_eq_ok_iff.mp h
  refine (cut_lexemes 0 text).pairwise.filterMap _ fun item item' hle t ht u hu => ?_
  obtain ⟨hl, -, hstop⟩ := Lexeme.token?_eq_some_iff.mp ht
  obtain ⟨-, hstart, -⟩ := Lexeme.token?_eq_some_iff.mp hu
  rw [hl] at hle
  rw [hstop, hstart]
  exact hle

/-- A character of a text stands in a token, is a blank, or starts no token and is skipped. -/
theorem covers_or_startsNone (h : tokenize mode text = .ok tokens) {c : Char} {position : Nat}
    (hc : Text.StandsAt text c position) :
    (∃ t ∈ tokens, t.Covers position) ∨ Text.isBlank c = true ∨ mode = .lenient ∧ Token.StartsNone c := by
  obtain ⟨hpasses, rfl⟩ := tokensOf_eq_ok_iff.mp h
  rcases (cut_lexemes 0 text).exists_of_standsAt hc with hblank | ⟨⟨start, l⟩, hitem, offset, hoffset, hposition⟩
  · exact .inr (.inl hblank)
  rw [Nat.zero_add] at hposition
  have hpass := hpasses _ hitem
  cases l with
  | token kind body =>
    refine .inl ⟨_, List.mem_filterMap.mpr ⟨_, hitem, rfl⟩, ?_⟩
    rw [hposition]
    exact ⟨Nat.le_add_right _ _, Nat.add_lt_add_left hoffset.lt_byteLength _⟩
  | unclosed body => exact hpass.elim
  | stray d =>
    obtain ⟨e, s, -, hfirst⟩ := exists_first_of_mem_lexemes hitem
    have hd := Lexeme.startsNone_of_first hfirst
    exact .inr (.inr ⟨hpass, List.mem_singleton.mp hoffset.mem ▸ hd⟩)

end

/-- The tokens of a text stand in it one after another, none of them empty and none of them reaching into the next, and each
takes up the bytes that its spelling takes up there. Every other character is a blank, or in lenient mode one that starts no
token: no letter or digit, no underscore, no quotation mark and no mark of one character. -/
theorem tokenize_covers {mode : LexMode} {text : List Char} {tokens : List Token} (h : tokenize mode text = .ok tokens) :
    (∀ t ∈ tokens, t.start < t.stop ∧ t.stop ≤ Text.byteLength text ∧ Text.Slice text t.start t.stop t.spelling) ∧
    (tokens.Pairwise fun t u => t.start < u.start ∧ t.stop ≤ u.start) ∧
    ∀ c position, Text.StandsAt text c position → (∀ t ∈ tokens, ¬t.Covers position) →
      Text.isBlank c = true ∨
        mode = .lenient ∧ Token.isNamePart c = false ∧ c ≠ '"' ∧ c ∉ Token.singleMarks := by
  refine ⟨fun t ht => ?_, ?_, fun c position hc hnone => ?_⟩
  · obtain ⟨hlt, hslice⟩ := slice_of_mem_tokens h ht
    exact ⟨hlt, hslice.stop_le, hslice⟩
  · refine (pairwise_tokens h).imp_of_mem fun {t u} ht _ hle => ?_
    exact ⟨Nat.lt_of_lt_of_le (slice_of_mem_tokens h ht).1 hle, hle⟩
  · rcases covers_or_startsNone h hc with ⟨t, ht, hcovers⟩ | hother
    · exact absurd hcovers (hnone t ht)
    · exact hother

/-- In the text `é "ü"!.x` characters of two bytes stand between the tokens and in one of them. -/
theorem tokenize_covers_of_quoted :
    let text := "é \"ü\"!.x".toList
    let tokens : List Token := [⟨.quoted, "ü", 3, 7⟩, ⟨.dotted, "x", 8, 10⟩]
    tokenize .lenient text = .ok tokens ∧
      (∀ t ∈ tokens, t.start < t.stop ∧ t.stop ≤ Text.byteLength text ∧ Text.Slice text t.start t.stop t.spelling) ∧
      (tokens.Pairwise fun t u => t.start < u.start ∧ t.stop ≤ u.start) ∧
      ∀ c position, Text.StandsAt text c position → (∀ t ∈ tokens, ¬t.Covers position) →
        Text.isBlank c = true ∨
          LexMode.lenient = .lenient ∧ Token.isNamePart c = false ∧ c ≠ '"' ∧ c ∉ Token.singleMarks := by
  have hlexemes : lexemes 0 "é \"ü\"!.x".toList =
      [(0, .stray 'é'), (3, .token .quoted ['ü']), (7, .stray '!'), (8, .token .dotted ['x'])] := by decide +kernel
  have htokens : tokenize .lenient "é \"ü\"!.x".toList = .ok [⟨.quoted, "ü", 3, 7⟩, ⟨.dotted, "x", 8, 10⟩] := by
    rw [tokenize, hlexemes]
    rfl
  exact ⟨htokens, tokenize_covers htokens⟩

end ConditionLang
