import ConditionLang.Proofs.Spacing

/-!
# Cutting joined spellings

Words, each a kind and a text of that kind, are spelled one after the other with blanks in between. Whatever the words and the
blanks are, the text is cut into these words again in both modes, and tokens are nothing but such words (`tokenize_joined`).
No word is cut short or goes on, because its spelling alone is a single lexeme and no lexeme goes on with a blank.
-/

namespace ConditionLang

/-- The kind and the text of a token. -/
def Token.word (t : Token) : Token.Kind × String :=
  (t.kind, t.text)

/-- The text consists of the spellings of the words in order. Blanks follow each word but the last, which they may follow. -/
inductive Text.Joined : List (Token.Kind × String) → List Char → Prop
  | nil : Joined [] []
  | cons {kind : Token.Kind} {body : String} {words : List (Token.Kind × String)} {b s : List Char}
      (hb : b.all isBlank = true) (hne : words ≠ [] → b ≠ []) (h : Joined words s) :
      Joined ((kind, body) :: words) (kind.spell body.toList ++ (b ++ s))

/-- What follows a word in a text of joined words does not go on with it. -/
theorem Text.Joined.bounds {words : List (Token.Kind × String)} {b s : List Char} (hb : b.all isBlank = true)
    (hne : words ≠ [] → b ≠ []) (h : Joined words s) : Bounds (b ++ s) := by
  cases h with
  | nil =>
    rw [List.append_nil]
    exact bounds_of_blank hb
  | cons _ _ _ => exact bounds_append_of_blank hb (hne (List.cons_ne_nil _ _)) _

/-- The spelling of a word alone is the word. -/
theorem tokenizes_spell {kind : Token.Kind} {body : List Char} (h : kind.Admits body) (mode : LexMode) (position : Nat) :
    Tokenizes mode position (kind.spell body)
      [⟨kind, String.ofList body, position, position + Text.byteLength (kind.spell body)⟩] := by
  by_cases hdot : kind = .mark ∧ body = ['.']
  · -- A single dot may stand before a blank or at the end, but not before a name or another dot.
    obtain ⟨rfl, rfl⟩ := hdot
    have hlexemes : lexemes position ['.'] = [(position, .token .mark ['.'])] := by
      rw [lexemes, if_neg (by decide)]
      show (position, Lexeme.token .mark ['.']) :: lexemes (position + 1) [] = _
      rw [lexemes]
    show tokensOf mode (lexemes position ['.']) = _
    rw [hlexemes]
    rfl
  · have hstops : kind.Stops body [] := Text.bounds_nil.stops fun hkind hbody => hdot ⟨hkind, hbody⟩
    have hlexemes := @Snippet.lexemes_spell_append ⟨false, kind, body⟩ [] h hstops position
    rw [List.append_nil] at hlexemes
    rw [Tokenizes, hlexemes, lexemes]
    rfl

/-- Well-formed words in a joined spelling are the words of its tokens. -/
theorem exists_tokenizes_of_joined {words : List (Token.Kind × String)} {text : List Char} (h : Text.Joined words text)
    (hwords : ∀ w ∈ words, w.1.Admits w.2.toList) (mode : LexMode) (position : Nat) :
    ∃ tokens, Tokenizes mode position text tokens ∧ tokens.map Token.word = words := by
  induction h generalizing position with
  | nil => exact ⟨[], (tokenizes_blank_iff rfl).mpr rfl, rfl⟩
  | @cons kind body words b s hb hne h ih =>
    obtain ⟨hword, hwords⟩ := List.forall_mem_cons.mp hwords
    have hfront := tokenizes_spell hword mode position
    obtain ⟨tokens, hrest, rfl⟩ := ih hwords (position + Text.byteLength (kind.spell body.toList) + Text.byteLength b)
    refine ⟨_, hfront.append (h.bounds hb hne) ((tokenizes_blanks_iff hb).mpr hrest), ?_⟩
    rw [List.singleton_append, List.map_cons, Token.word, String.ofList_toList]

/-- Words that have the shapes of their kinds, joined by blanks, are cut into the same words in each mode. The tokens of every
text are such words. -/
theorem tokenize_joined :
    (∀ mode words text, (∀ w ∈ words, w.1.Admits w.2.toList) → Text.Joined words text →
      ∃ tokens, tokenize mode text = .ok tokens ∧ tokens.map Token.word = words) ∧
    ∀ mode text tokens, tokenize mode text = .ok tokens → ∀ w ∈ tokens.map Token.word, w.1.Admits w.2.toList := by
  constructor
  · exact fun mode words text hwords htext => exists_tokenizes_of_joined htext hwords mode 0
  · intro mode text tokens h w hw
    obtain ⟨t, ht, rfl⟩ := List.mem_map.mp hw
    exact shaped_of_tokenize h t ht

/-- Numbers and dots next to each other are joined only where the next dot would go on with the number. -/
theorem tokenize_joined_of_dots :
    let words : List (Token.Kind × String) :=
      [(.number, "1"), (.mark, ".."), (.mark, "."), (.dotted, "a"), (.quoted, "# .")]
    let text := "1 .. .\t.a\n \"# .\"".toList
    (∀ w ∈ words, w.1.Admits w.2.toList) ∧ Text.Joined words text ∧
      (∃ tokens, tokenize .strict text = .ok tokens ∧ tokens.map Token.word = words) ∧
      ∃ tokens, tokenize .lenient text = .ok tokens ∧ ∀ w ∈ tokens.map Token.word, w.1.Admits w.2.toList := by
  intro words text
  have hadmits : ∀ w ∈ words, w.1.Admits w.2.toList := by
    simp only [words, List.forall_mem_cons]
    exact ⟨⟨['1'], [], by decide, by decide, by decide, rfl⟩, .inl (by decide), .inr ⟨'.', by decide, rfl⟩,
      (by decide : Token.isNameShaped "a".toList = true), (by decide : '"' ∉ "# .".toList), List.forall_mem_nil _⟩
  have hjoined : Text.Joined words text := by
    have hquoted := @Text.Joined.cons .quoted "# ." [] [] [] rfl (absurd rfl) .nil
    have hdotted := @Text.Joined.cons .dotted "a" _ ['\n', ' '] _ rfl (fun _ => by decide) hquoted
    have hdot := @Text.Joined.cons .mark "." _ ['\t'] _ rfl (fun _ => by decide) hdotted
    have hdots := @Text.Joined.cons .mark ".." _ [' '] _ rfl (fun _ => by decide) hdot
    exact @Text.Joined.cons .number "1" _ [' '] _ rfl (fun _ => by decide) hdots
  obtain ⟨tokens, htokens, -⟩ := tokenize_joined.1 .lenient words text hadmits hjoined
  exact ⟨hadmits, hjoined, tokenize_joined.1 .strict words text hadmits hjoined, tokens, htokens,
    tokenize_joined.2 .lenient text tokens htokens⟩

end ConditionLang
