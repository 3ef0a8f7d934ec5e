import ConditionLang.Token.Lexer

/-!
# The shapes of tokens

Whatever text is cut into tokens, the text of a token has the shape of its kind (`shaped_of_tokenize`).
-/

namespace ConditionLang

namespace Lexeme

/-- Digits, followed by a point and further digits if there are any. -/
def decimal (whole fraction : List Char) : List Char :=
  if fraction.isEmpty then whole else whole ++ '.' :: fraction

/-- A number as conditions write it: digits, and a fraction of at least one digit. -/
def IsNumeral (s : List Char) : Prop :=
  ∃ whole fraction, whole ≠ [] ∧ whole.all Char.isDigit = true ∧ fraction.all Char.isDigit = true ∧
    s = decimal whole fraction

end Lexeme

namespace Token

/-- A name goes on with what it may start with and with digits. -/
theorem isNamePart_eq (c : Char) : isNamePart c = (isNameStart c || c.isDigit) := by
  unfold isNamePart isNameStart Char.isAlphanum
  rw [Bool.or_assoc, Bool.or_comm c.isDigit, ← Bool.or_assoc]

/-- What a name starts with may go on with it. -/
theorem isNamePart_of_isNameStart {c : Char} (h : isNameStart c = true) : isNamePart c = true := by
  rw [isNamePart_eq, h, Bool.true_or]

/-- The texts that tokens of a kind have. -/
def Kind.Admits : Kind → List Char → Prop
  | .number, s => Lexeme.IsNumeral s
  | .quoted, s => '"' ∉ s
  | .name, s | .dotted, s => isNameShaped s = true
  | .mark, s => s ∈ doubleMarks ∨ ∃ c ∈ singleMarks, s = [c]

/-- How the token is spelled in a condition. -/
def spelling (t : Token) : List Char :=
  t.kind.spell t.text.toList

/-- The text of the token has the shape of its kind. -/
def Shaped (t : Token) : Prop :=
  t.kind.Admits t.text.toList

end Token

namespace Lexeme

/-- What stands before a character that does not satisfy `p` is taken as if nothing followed. -/
theorem takeWhile_append_of_head {p : Char → Bool} {u : List Char} (h : ∀ c ∈ u.head?, p c = false) (s : List Char) :
    (s ++ u).takeWhile p = s.takeWhile p := by
  induction s with
  | nil =>
    cases u with
    | nil => rfl
    | cons c u => exact List.takeWhile_cons_of_neg (by rw [h c rfl]; exact Bool.false_ne_true)
  | cons c s ih => rw [List.cons_append, List.takeWhile_cons, List.takeWhile_cons, ih]

/-- All characters at the front that satisfy `p` are taken, and none of the rest if its first character does not. -/
theorem takeWhile_append_of_stops {p : Char → Bool} {body rest : List Char} (hbody : body.all p = true)
    (hrest : ∀ c ∈ rest.head?, p c = false) : (body ++ rest).takeWhile p = body := by
  have hall := @List.takeWhile_append_of_pos _ p body [] (List.all_eq_true.mp hbody)
  rwa [takeWhile_append_of_head hrest, ← List.append_nil body]

/-- What stops the characters of a kind is what is left behind them. -/
theorem dropWhile_append_of_stops {p : Char → Bool} {body rest : List Char} (hbody : body.all p = true)
    (hrest : ∀ c ∈ rest.head?, p c = false) : (body ++ rest).dropWhile p = rest := by
  rw [List.dropWhile_append_of_pos (List.all_eq_true.mp hbody)]
  cases rest with
  | nil => rfl
  | cons c rest => exact List.dropWhile_cons_of_neg (by rw [hrest c rfl]; exact Bool.false_ne_true)

/-- A number holds digits and points only. -/
theorem IsNumeral.isDigit_or_eq {s : List Char} (h : IsNumeral s) {c : Char} (hc : c ∈ s) :
    c.isDigit = true ∨ c = '.' := by
  obtain ⟨whole, fraction, -, hwhole, hfraction, rfl⟩ := h
  rw [List.all_eq_true] at hwhole hfraction
  unfold decimal at hc
  split at hc
  · exact .inl (hwhole c hc)
  · rcases List.mem_append.mp hc with hc | hc
    · exact .inl (hwhole c hc)
    · exact (List.mem_cons.mp hc).elim .inr fun hc => .inl (hfraction c hc)

/-- A number starts with a digit. -/
theorem IsNumeral.exists_cons {s : List Char} (h : IsNumeral s) : ∃ c rest, s = c :: rest ∧ c.isDigit = true := by
  obtain ⟨whole, fraction, hne, hwhole, -, rfl⟩ := h
  cases whole with
  | nil => exact absurd rfl hne
  | cons c whole =>
    have hc := List.all_eq_true.mp hwhole c List.mem_cons_self
    unfold decimal
    split
    · exact ⟨c, whole, rfl, hc⟩
    · exact ⟨c, _, rfl, hc⟩

/-- A numeral is read where a digit comes first. -/
theorem isNumeral_numeral {c : Char} {s : List Char} (h : c.isDigit = true) : IsNumeral (numeral (c :: s)) := by
  have hwhole : (c :: s).takeWhile Char.isDigit ≠ [] := by
    rw [List.takeWhile_cons_of_pos h]
    exact List.cons_ne_nil _ _
  rw [numeral]
  split
  · rename_i rest _
    exact ⟨_, rest.takeWhile Char.isDigit, hwhole, List.all_takeWhile, List.all_takeWhile, rfl⟩
  · exact ⟨_, [], hwhole, List.all_takeWhile, rfl, rfl⟩

/-- The longest part at the front that may go on a name is a name if the text starts like one. -/
theorem isNameShaped_takeWhile {c : Char} {s : List Char} (h : Token.isNameStart c = true) :
    Token.isNameShaped ((c :: s).takeWhile Token.isNamePart) = true := by
  rw [List.takeWhile_cons_of_pos (Token.isNamePart_of_isNameStart h), Token.isNameShaped, h, List.all_takeWhile]
  rfl

/-- The text of the token that a text starts with has the shape of its kind. -/
theorem admits_of_first {c : Char} {s body : List Char} {kind : Token.Kind} (h : first c s = .token kind body) :
    kind.Admits body := by
  unfold first at h
  split at h
  · rename_i hdouble
    cases h
    exact .inl (List.contains_iff_mem.mp hdouble)
  · split at h
    · simp only at h
      split at h
      · cases h
        intro hmem
        have hne := List.all_eq_true.mp List.all_takeWhile _ hmem
        exact absurd hne (by decide)
      · cases h
    · split at h
      · rename_i hdigit
        cases h
        exact isNumeral_numeral hdigit
      · split at h
        · rename_i hdot
          cases h
          cases s with
          | nil => cases hdot.2
          | cons c' s => exact isNameShaped_takeWhile hdot.2
        · split at h
          · rename_i hstart
            cases h
            exact isNameShaped_takeWhile hstart
          · split at h
            · rename_i hsingle
              cases h
              exact .inr ⟨c, List.contains_iff_mem.mp hsingle, rfl⟩
            · cases h

end Lexeme

/-- Every lexeme of a text comes first in some text that does not start with a blank. -/
theorem exists_first_of_mem_lexemes {position : Nat} {text : List Char} {item : Nat × Lexeme}
    (h : item ∈ lexemes position text) : ∃ c s, Text.isBlank c = false ∧ Lexeme.first c s = item.2 := by
  fun_induction lexemes position text with
  | case1 => exact absurd h List.not_mem_nil
  | case2 _ _ _ _ ih => exact ih h
  | case3 position c s hblank l ih =>
    rcases List.mem_cons.mp h with rfl | hrest
    · exact ⟨c, s, Bool.eq_false_iff.mpr hblank, rfl⟩
    · exact ih hrest

/-- The lexemes of a text that are tokens have the shapes of their kinds. -/
theorem admits_of_mem_lexemes {position start : Nat} {text body : List Char} {kind : Token.Kind}
    (h : (start, .token kind body) ∈ lexemes position text) : kind.Admits body := by
  obtain ⟨c, s, -, hfirst⟩ := exists_first_of_mem_lexemes h
  exact Lexeme.admits_of_first hfirst

/-- A lexeme that is a token comes first among the tokens. -/
theorem exists_tokensOf_of_token {mode : LexMode} {start : Nat} {kind : Token.Kind} {body : List Char}
    {items : List (Nat × Lexeme)} {tokens : List Token}
    (h : tokensOf mode ((start, .token kind body) :: items) = .ok tokens) :
    ∃ rest, tokensOf mode items = .ok rest ∧
      tokens = ⟨kind, String.ofList body, start, start + Text.byteLength (kind.spell body)⟩ :: rest := by
  rw [tokensOf] at h
  cases hrest : tokensOf mode items with
  | error e =>
    rw [hrest] at h
    cases h
  | ok rest =>
    rw [hrest] at h
    exact ⟨rest, rfl, (Except.ok.inj h).symm⟩

/-- The token that a lexeme at a byte makes. -/
def Lexeme.token? (start : Nat) : Lexeme → Option Token
  | .token kind body => some ⟨kind, String.ofList body, start, start + Text.byteLength (kind.spell body)⟩
  | .unclosed _ | .stray _ => none

/-- The mode makes the lexeme a token or skips it. -/
def Lexeme.Passes (mode : LexMode) : Lexeme → Prop
  | .token _ _ => True
  | .unclosed _ => False
  | .stray _ => mode = .lenient

/-- In a text with tokens, every lexeme passes. -/
theorem passes_of_tokensOf {mode : LexMode} {items : List (Nat × Lexeme)} {tokens : List Token}
    (h : tokensOf mode items = .ok tokens) : ∀ item ∈ items, item.2.Passes mode := by
  induction items generalizing tokens with
  | nil => exact List.forall_mem_nil _
  | cons item items ih =>
    obtain ⟨start, l⟩ := item
    cases l with
    | token kind body =>
      obtain ⟨rest, hrest, -⟩ := exists_tokensOf_of_token h
      exact List.forall_mem_cons.mpr ⟨trivial, ih hrest⟩
    | unclosed body => cases h
    | stray c =>
      cases mode with
      | lenient => exact List.forall_mem_cons.mpr ⟨rfl, ih h⟩
      | strict => cases h

/-- If every lexeme passes, the tokens are those among the lexemes. -/
theorem tokensOf_of_passes {mode : LexMode} {items : List (Nat × Lexeme)} (h : ∀ item ∈ items, item.2.Passes mode) :
    tokensOf mode items = .ok (items.filterMap fun item => item.2.token? item.1) := by
  induction items with
  | nil => rfl
  | cons item items ih =>
    obtain ⟨hitem, hitems⟩ := List.forall_mem_cons.mp h
    obtain ⟨start, l⟩ := item
    cases l with
    | token kind body =>
      rw [tokensOf, ih hitems]
      rfl
    | unclosed body => exact hitem.elim
    | stray c =>
      cases hitem
      exact ih hitems

/-- Lexemes have tokens in a mode if all of them pass, and these are the tokens that they make. -/
theorem tokensOf_eq_ok_iff {mode : LexMode} {items : List (Nat × Lexeme)} {tokens : List Token} :
    tokensOf mode items = .ok tokens ↔
      (∀ item ∈ items, item.2.Passes mode) ∧ tokens = items.filterMap fun item => item.2.token? item.1 := by
  constructor
  · intro h
    have hpasses := passes_of_tokensOf h
    rw [tokensOf_of_passes hpasses] at h
    exact ⟨hpasses, (Except.ok.inj h).symm⟩
  · rintro ⟨hpasses, rfl⟩
    exact tokensOf_of_passes hpasses

/-- The token of a lexeme has its kind and its text, and reaches over its spelling. -/
theorem Lexeme.token?_eq_some_iff {l : Lexeme} {start : Nat} {t : Token} :
    l.token? start = some t ↔
      l = .token t.kind t.text.toList ∧ t.start = start ∧ t.stop = start + Text.byteLength t.spelling := by
  obtain ⟨kind', text, start', stop⟩ := t
  cases l with
  | token kind body =>
    constructor
    · intro h
      cases h
      rw [Token.spelling, String.toList_ofList]
      exact ⟨rfl, rfl, rfl⟩
    · rintro ⟨hl, rfl, hstop⟩
      cases hl
      rw [Lexeme.token?, String.ofList_toList]
      exact congrArg (fun stop => some (Token.mk kind' text start' stop)) hstop.symm
  | unclosed body => exact iff_of_false nofun fun h => nomatch h.1
  | stray c => exact iff_of_false nofun fun h => nomatch h.1

/-- The tokens of lexemes are those lexemes that have the kinds and texts of tokens, in their places. -/
theorem mem_tokensOf_iff {mode : LexMode} {items : List (Nat × Lexeme)} {tokens : List Token} {t : Token}
    (h : tokensOf mode items = .ok tokens) :
    t ∈ tokens ↔
      (t.start, .token t.kind t.text.toList) ∈ items ∧ t.stop = t.start + Text.byteLength t.spelling := by
  obtain ⟨-, rfl⟩ := tokensOf_eq_ok_iff.mp h
  simp only [List.mem_filterMap, Lexeme.token?_eq_some_iff]
  constructor
  · rintro ⟨⟨start, l⟩, hitem, rfl, rfl, hstop⟩
    exact ⟨hitem, hstop⟩
  · rintro ⟨hitem, hstop⟩
    exact ⟨_, hitem, rfl, rfl, hstop⟩

/-- The tokens of every text have the shapes of their kinds. -/
theorem shaped_of_tokenize {mode : LexMode} {text : List Char} {tokens : List Token}
    (h : tokenize mode text = .ok tokens) : ∀ t ∈ tokens, t.Shaped :=
  fun _ ht => admits_of_mem_lexemes ((mem_tokensOf_iff h).mp ht).1

end ConditionLang
