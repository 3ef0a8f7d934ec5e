import ConditionLang.Proofs.Tokens

/-!
# Texts and their lexemes

`Cut position text items` says that a text that starts at a byte consists of the spellings of lexemes, in their order and each
at its byte, and of blanks between them. The lexemes of every text are such a cut (`cut_lexemes`), so statements about where
tokens stand are proved by induction on the cut and need not look at how a lexeme is found.
-/

namespace ConditionLang

namespace Lexeme

/-- A number goes on from the digit it starts with, and it stops somewhere in the text. -/
theorem exists_numeral_eq_cons {c : Char} (h : c.isDigit = true) (s : List Char) :
    ∃ tail rest, numeral (c :: s) = c :: tail ∧ s = tail ++ rest := by
  have hwhole : (c :: s).takeWhile Char.isDigit = c :: s.takeWhile Char.isDigit := List.takeWhile_cons_of_pos h
  have hsplit : s = s.takeWhile Char.isDigit ++ s.dropWhile Char.isDigit := List.takeWhile_append_dropWhile.symm
  have hdrop : (c :: s).drop ((c :: s).takeWhile Char.isDigit).length = s.dropWhile Char.isDigit := by
    have hleft : (s.takeWhile Char.isDigit ++ s.dropWhile Char.isDigit).drop (s.takeWhile Char.isDigit).length =
        s.dropWhile Char.isDigit := List.drop_left
    rw [← hsplit] at hleft
    rw [hwhole, List.length_cons, List.drop_succ_cons, hleft]
  simp only [numeral, hdrop]
  split
  · rename_i rest hdot
    split
    · exact ⟨_, _, hwhole, hsplit⟩
    · refine ⟨s.takeWhile Char.isDigit ++ '.' :: rest.takeWhile Char.isDigit, rest.dropWhile Char.isDigit, ?_, ?_⟩
      · rw [hwhole, List.cons_append]
      · rw [List.append_assoc, List.cons_append, List.takeWhile_append_dropWhile, ← hdot]
        exact hsplit
  · exact ⟨_, _, hwhole, hsplit⟩

/-- The first lexeme of a text takes up the first character and some of those after it. -/
theorem exists_spelling_first_eq_cons (c : Char) (s : List Char) :
    ∃ tail rest, (first c s).spelling = c :: tail ∧ s = tail ++ rest := by
  unfold first
  split
  · exact ⟨s.take 1, s.drop 1, rfl, (List.take_append_drop 1 s).symm⟩
  · split
    · rename_i hquote
      subst hquote
      dsimp only
      split
      · rename_i hlength
        have hclose : s.dropWhile (· != '"') ≠ [] := by
          intro hnil
          have hall := List.takeWhile_append_dropWhile (p := (· != '"')) (l := s)
          rw [hnil, List.append_nil] at hall
          rw [hall] at hlength
          exact Nat.lt_irrefl _ hlength
        obtain ⟨d, rest, hrest⟩ := List.exists_cons_of_ne_nil hclose
        have hd : d = '"' := by
          have hstop := List.head_dropWhile_not (· != '"') hclose
          simpa [hrest] using hstop
        refine ⟨s.takeWhile (· != '"') ++ ['"'], rest, rfl, ?_⟩
        rw [hd] at hrest
        rw [List.append_assoc, List.singleton_append, ← hrest, List.takeWhile_append_dropWhile]
      · exact ⟨_, _, rfl, List.takeWhile_append_dropWhile.symm⟩
    · split
      · rename_i hdigit
        exact exists_numeral_eq_cons hdigit s
      · split
        · rename_i hdot
          exact ⟨_, _, congrArg (· :: _) hdot.1.symm, List.takeWhile_append_dropWhile.symm⟩
        · split
          · rename_i hstart
            exact ⟨_, _, List.takeWhile_cons_of_pos (Token.isNamePart_of_isNameStart hstart),
              List.takeWhile_append_dropWhile.symm⟩
          · split
            · exact ⟨[], s, rfl, rfl⟩
            · exact ⟨[], s, rfl, rfl⟩

/-- A text is the spelling of its first lexeme and what is left of it, whatever follows. -/
theorem exists_drop_spelling_first (c : Char) (s : List Char) :
    ∃ rest, c :: s = (first c s).spelling ++ rest ∧
      ∀ u, (s ++ u).drop ((first c s).spelling.length - 1) = rest ++ u := by
  obtain ⟨tail, rest, hspelling, hs⟩ := exists_spelling_first_eq_cons c s
  refine ⟨rest, by rw [hspelling, hs, List.cons_append], fun u => ?_⟩
  rw [hspelling, List.length_cons, Nat.add_sub_cancel, hs, List.append_assoc, List.drop_left]

end Lexeme

/-- A text from a byte on consists of blanks and of the spellings of lexemes, each at its byte. -/
inductive Cut : Nat → List Char → List (Nat × Lexeme) → Prop where
  | nil (position : Nat) : Cut position [] []
  | blank {position : Nat} {c : Char} {s : List Char} {items : List (Nat × Lexeme)} (hblank : Text.isBlank c = true)
      (hrest : Cut (position + c.utf8Size) s items) : Cut position (c :: s) items
  | lexeme {position : Nat} {l : Lexeme} {s : List Char} {items : List (Nat × Lexeme)}
      (hrest : Cut (position + Text.byteLength l.spelling) s items) :
      Cut position (l.spelling ++ s) ((position, l) :: items)

/-- The lexemes of a text cut it. -/
theorem cut_lexemes (position : Nat) (text : List Char) : Cut position text (lexemes position text) := by
  fun_induction lexemes position text with
  | case1 => exact .nil _
  | case2 _ _ _ hblank ih => exact .blank hblank ih
  | case3 position c s hblank l ih =>
    obtain ⟨rest, htext, hdrop⟩ := Lexeme.exists_drop_spelling_first c s
    have hrest : s.drop (l.spelling.length - 1) = rest := by simpa using hdrop []
    rw [hrest] at ih ⊢
    rw [htext]
    exact .lexeme ih

/-- A lexeme of a cut is spelled at its byte. -/
theorem Cut.exists_of_mem {position : Nat} {text : List Char} {items : List (Nat × Lexeme)} {item : Nat × Lexeme}
    (h : Cut position text items) (hitem : item ∈ items) :
    ∃ before after, text = before ++ item.2.spelling ++ after ∧ item.1 = position + Text.byteLength before := by
  induction h with
  | nil position => exact absurd hitem List.not_mem_nil
  | @blank position c s items _ _ ih =>
    obtain ⟨before, after, rfl, hstart⟩ := ih hitem
    exact ⟨c :: before, after, rfl, by rw [hstart, Text.byteLength_cons, Nat.add_assoc]⟩
  | @lexeme position l s items _ ih =>
    rcases List.mem_cons.mp hitem with rfl | hitem
    · exact ⟨[], s, rfl, rfl⟩
    · obtain ⟨before, after, rfl, hstart⟩ := ih hitem
      refine ⟨l.spelling ++ before, after, ?_, by rw [hstart, Text.byteLength_append, Nat.add_assoc]⟩
      simp only [List.append_assoc]

/-- No lexeme of a cut starts before the one before it has ended. -/
theorem Cut.pairwise {position : Nat} {text : List Char} {items : List (Nat × Lexeme)} (h : Cut position text items) :
    items.Pairwise fun item item' => item.1 + Text.byteLength item.2.spelling ≤ item'.1 := by
  induction h with
  | nil position => exact .nil
  | blank _ _ ih => exact ih
  | lexeme hrest ih =>
    refine .cons (fun item' hitem' => ?_) ih
    obtain ⟨before, _, -, hstart⟩ := hrest.exists_of_mem hitem'
    rw [hstart]
    exact Nat.le_add_right _ _

section

variable {mode : LexMode} {position : Nat} {text : List Char} {items : List (Nat × Lexeme)} {tokens : List Token}

/-- A token of a cut is spelled at its byte, up to where it stops. -/
theorem Cut.exists_of_mem_tokens (h : Cut position text items) (htokens : tokensOf mode items = .ok tokens) {t : Token}
    (ht : t ∈ tokens) :
    ∃ before after, text = before ++ t.spelling ++ after ∧ t.start = position + Text.byteLength before ∧
      t.stop = position + Text.byteLength (before ++ t.spelling) := by
  obtain ⟨hitem, hstop⟩ := (mem_tokensOf_iff htokens).mp ht
  obtain ⟨before, after, htext, hstart⟩ := h.exists_of_mem hitem
  refine ⟨before, after, htext, hstart, ?_⟩
  rw [hstop, Text.byteLength_append, ← Nat.add_assoc, ← hstart]

/-- The tokens of a cut stand behind its start. -/
theorem Cut.le_start (h : Cut position text items) (htokens : tokensOf mode items = .ok tokens) :
    ∀ t ∈ tokens, position ≤ t.start := by
  intro t ht
  obtain ⟨before, _, -, hstart, -⟩ := h.exists_of_mem_tokens htokens ht
  rw [hstart]
  exact Nat.le_add_right _ _

/-- The tokens of a cut stand before its end. -/
theorem Cut.stop_le (h : Cut position text items) (htokens : tokensOf mode items = .ok tokens) :
    ∀ t ∈ tokens, t.stop ≤ position + Text.byteLength text := by
  intro t ht
  obtain ⟨before, after, rfl, -, hstop⟩ := h.exists_of_mem_tokens htokens ht
  rw [hstop, Text.byteLength_append (before ++ t.spelling), ← Nat.add_assoc]
  exact Nat.le_add_right _ _

end

end ConditionLang
