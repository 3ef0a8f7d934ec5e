import Mathlib.Data.Nat.Basic
import Mathlib.Order.Basic
import ConditionLang.Proofs.Cutting
import ConditionLang.Proofs.Lockstep
import ConditionLang.Proofs.Spelling

/-!
# Where lexemes end

No lexeme but an open quotation goes on with a blank or a closing parenthesis. So a text before one of them is cut as if
nothing followed it (`lexemes_append`), and its tokens come before those of what follows (`tokenizes_append_iff`). The tokens
of a text that starts at another byte are the same, moved (`tokenizes_iff`).
-/

namespace ConditionLang

/-- The text is empty or starts with a blank or a closing parenthesis. -/
def Text.Bounds (s : List Char) : Prop :=
  ∀ c ∈ s.head?, isBlank c = true ∨ c = ')'

theorem Text.bounds_nil : Bounds [] :=
  fun _ hc => nomatch hc

namespace Text.Bounds

variable {u : List Char} {c : Char}

/-- The character at a bound has no property that blanks and the closing parenthesis lack. -/
theorem eq_false (h : Bounds u) (hc : c ∈ u.head?) {p : Char → Bool} (hp : ∀ {c}, p c = true → isBlank c = false)
    (hclose : p ')' = false) : p c = false := by
  rcases h c hc with hblank | rfl
  · rw [Bool.eq_false_iff]
    exact fun hpc => Bool.false_ne_true ((hp hpc).symm.trans hblank)
  · exact hclose

theorem isDigit_eq_false (h : Bounds u) (hc : c ∈ u.head?) : c.isDigit = false :=
  h.eq_false hc Lexeme.isBlank_of_isDigit rfl

theorem isNameStart_eq_false (h : Bounds u) (hc : c ∈ u.head?) : Token.isNameStart c = false :=
  h.eq_false hc Lexeme.isBlank_of_isNameStart rfl

theorem isNamePart_eq_false (h : Bounds u) (hc : c ∈ u.head?) : Token.isNamePart c = false := by
  rw [Token.isNamePart_eq, h.isNameStart_eq_false hc, h.isDigit_eq_false hc, Bool.or_false]

theorem ne_dot (h : Bounds u) (hc : c ∈ u.head?) : c ≠ '.' := by
  rintro rfl
  rcases h '.' hc with hblank | hclose
  · cases hblank
  · cases hclose

/-- No mark of two characters ends with a blank or a closing parenthesis. -/
theorem append_not_mem_doubleMarks (h : Bounds u) (hc : c ∈ u.head?) (body : List Char) :
    body ++ [c] ∉ Token.doubleMarks := by
  have hmarks : ∀ m ∈ Token.doubleMarks, m.getLast?.any (fun c => !isBlank c && c != ')') = true := by decide
  intro hmem
  have hlast := hmarks _ hmem
  rw [List.getLast?_concat] at hlast
  rcases h c hc with hblank | rfl
  · simp [hblank] at hlast
  · cases hlast

/-- No mark of two characters reaches over a bound. -/
theorem not_isDouble (h : Bounds u) (d : Char) : Token.doubleMarks.contains (d :: u.take 1) = false := by
  rw [Bool.eq_false_iff, ne_eq, List.contains_iff_mem]
  cases u with
  | nil =>
    have hlengths : ∀ m ∈ Token.doubleMarks, m.length = 2 := by decide
    exact fun hmem => nomatch hlengths _ hmem
  | cons c u => exact h.append_not_mem_doubleMarks rfl [d]

/-- Before a boundary every token ends. -/
theorem stops (h : Bounds u) {kind : Token.Kind} {body : List Char} (hbody : kind = .mark → body ≠ ['.']) :
    kind.Stops body u := by
  cases kind with
  | number =>
    refine ⟨fun c => h.isDigit_eq_false, ?_⟩
    rintro s rfl
    exact absurd rfl (h.ne_dot rfl)
  | quoted => exact trivial
  | name | dotted => exact fun c => h.isNamePart_eq_false
  | mark => exact ⟨hbody rfl, .inr fun c hc => h.append_not_mem_doubleMarks hc body⟩

end Text.Bounds

namespace Lexeme

variable {u : List Char}

/-- A number ends before a boundary, also where it stands right before it. -/
theorem numeral_append_of_bounds (hu : Text.Bounds u) (s : List Char) : numeral (s ++ u) = numeral s := by
  have hdigits : ∀ s : List Char, (s ++ u).takeWhile Char.isDigit = s.takeWhile Char.isDigit :=
    takeWhile_append_of_head fun c => hu.isDigit_eq_false
  have hlength : (s.takeWhile Char.isDigit).length ≤ s.length := (List.takeWhile_sublist _).length_le
  simp only [numeral, hdigits, List.drop_append_of_le_length hlength]
  cases s.drop (s.takeWhile Char.isDigit).length with
  | nil =>
    cases u with
    | nil => rfl
    | cons c u =>
      rw [List.nil_append]
      split
      · rename_i heq
        exact absurd (List.cons.inj heq).1 (hu.ne_dot rfl)
      · rfl
  | cons c rest =>
    by_cases hc : c = '.'
    · subst hc
      simp only [List.cons_append, hdigits]
    · rw [List.cons_append]
      split
      · rename_i heq
        exact absurd (List.cons.inj heq).1 hc
      · split
        · rename_i heq
          exact absurd (List.cons.inj heq).1 hc
        · rfl

/-- The first lexeme of a text does not change with what follows a boundary. -/
theorem first_append_of_bounds (hu : Text.Bounds u) {c : Char} {s : List Char}
    (hclosed : ∀ body, first c s ≠ .unclosed body) : first c (s ++ u) = first c s := by
  have hdouble : Token.doubleMarks.contains (c :: (s ++ u).take 1) = Token.doubleMarks.contains (c :: s.take 1) := by
    cases s with
    | nil => rw [List.nil_append, hu.not_isDouble, Text.bounds_nil.not_isDouble]
    | cons d s => rfl
  have hstart : (s ++ u).head?.any Token.isNameStart = s.head?.any Token.isNameStart := by
    cases s with
    | nil =>
      cases u with
      | nil => rfl
      | cons d u => exact hu.isNameStart_eq_false rfl
    | cons d s => rfl
  have hname : ∀ s : List Char, (s ++ u).takeWhile Token.isNamePart = s.takeWhile Token.isNamePart :=
    takeWhile_append_of_head fun c => hu.isNamePart_eq_false
  have hword : (c :: (s ++ u)).takeWhile Token.isNamePart = (c :: s).takeWhile Token.isNamePart := hname (c :: s)
  have hnumeral : numeral (c :: (s ++ u)) = numeral (c :: s) := numeral_append_of_bounds hu (c :: s)
  unfold first at hclosed ⊢
  rw [hdouble, hstart, hname, hword, hnumeral]
  by_cases hmark : Token.doubleMarks.contains (c :: s.take 1) = true
  · rw [if_pos hmark, if_pos hmark]
    cases s with
    | nil => cases (Text.bounds_nil.not_isDouble c).symm.trans hmark
    | cons d s => rfl
  · rw [if_neg hmark] at hclosed
    rw [if_neg hmark, if_neg hmark]
    by_cases hquote : c = '"'
    · rw [if_pos hquote] at hclosed
      rw [if_pos hquote, if_pos hquote]
      have hlength : (s.takeWhile (· != '"')).length < s.length := by
        by_contra hopen
        exact hclosed _ (if_neg hopen)
      have hbody : (s ++ u).takeWhile (· != '"') = s.takeWhile (· != '"') := by
        rw [List.takeWhile_append, if_neg hlength.ne]
      have hlength' : (s.takeWhile (· != '"')).length < (s ++ u).length := by
        rw [List.length_append]
        exact Nat.lt_add_right _ hlength
      simp only [hbody, if_pos hlength, if_pos hlength']
    · rw [if_neg hquote, if_neg hquote]

end Lexeme

/-! ## Texts one after another -/

/-- All quotations among lexemes are closed. -/
def Lexeme.AllClosed (items : List (Nat × Lexeme)) : Prop :=
  ∀ start body, (start, Lexeme.unclosed body) ∉ items

variable {u : List Char}

/-- A text without an open quotation is cut before a boundary as if nothing followed it. -/
theorem lexemes_append (hu : Text.Bounds u) {position : Nat} {s : List Char}
    (hclosed : Lexeme.AllClosed (lexemes position s)) :
    lexemes position (s ++ u) = lexemes position s ++ lexemes (position + Text.byteLength s) u := by
  fun_induction lexemes position s with
  | case1 => rfl
  | case2 position c s hblank ih =>
    rw [List.cons_append, lexemes, if_pos hblank, ih hclosed, Text.byteLength_cons, Nat.add_assoc]
  | case3 position c s hblank l ih =>
    have hfirst : Lexeme.first c (s ++ u) = l :=
      Lexeme.first_append_of_bounds hu fun body hbody => hclosed position body (List.mem_cons.mpr (.inl (hbody ▸ rfl)))
    obtain ⟨rest, htext, hdrop⟩ := Lexeme.exists_drop_spelling_first c s
    have hrest : s.drop (l.spelling.length - 1) = rest := by simpa using hdrop []
    have hlength : Text.byteLength (c :: s) = Text.byteLength l.spelling + Text.byteLength rest := by
      rw [htext, Text.byteLength_append]
    rw [hrest] at ih hclosed ⊢
    rw [List.cons_append, lexemes, if_neg hblank]
    simp only [hfirst]
    rw [hdrop u, ih fun start body hmem => hclosed start body (List.mem_cons_of_mem _ hmem), hlength, Nat.add_assoc,
      List.cons_append]

/-- Blanks before a text do not show among its lexemes. -/
theorem lexemes_blanks {b : List Char} (hb : b.all Text.isBlank = true) (position : Nat) (s : List Char) :
    lexemes position (b ++ s) = lexemes (position + Text.byteLength b) s := by
  induction b generalizing position with
  | nil => rfl
  | cons c b ih =>
    obtain ⟨hc, hb⟩ := Bool.and_eq_true_iff.mp hb
    rw [List.cons_append, lexemes, if_pos hc, ih hb, Text.byteLength_cons, Nat.add_assoc]

/-- The lexemes of a text at a later byte. -/
theorem lexemes_add (position distance : Nat) (s : List Char) :
    lexemes (position + distance) s = (lexemes position s).map fun item => (item.1 + distance, item.2) := by
  fun_induction lexemes position s with
  | case1 => rw [lexemes, List.map_nil]
  | case2 position c s hblank ih => rw [lexemes, if_pos hblank, Nat.add_right_comm, ih]
  | case3 position c s hblank l ih =>
    rw [lexemes, if_neg hblank, List.map_cons, ← ih, Nat.add_right_comm position]

/-! ## Tokens of a text at a byte -/

/-- The tokens of two lists of lexemes. -/
theorem tokensOf_append (mode : LexMode) (items items' : List (Nat × Lexeme)) :
    tokensOf mode (items ++ items') = (do
      let tokens ← tokensOf mode items
      let tokens' ← tokensOf mode items'
      return tokens ++ tokens') := by
  induction items with
  | nil => cases h : tokensOf mode items' <;> rw [List.nil_append, h] <;> rfl
  | cons item items ih =>
    obtain ⟨start, l⟩ := item
    cases l with
    | token kind body =>
      rw [List.cons_append, tokensOf, ih, tokensOf]
      cases tokensOf mode items <;> cases tokensOf mode items' <;> rfl
    | unclosed body => rfl
    | stray c =>
      cases mode with
      | lenient => exact ih
      | strict => rfl

/-- The token that stands so much later. -/
def Token.later (distance : Nat) (t : Token) : Token :=
  ⟨t.kind, t.text, t.start + distance, t.stop + distance⟩

/-- The text has the tokens if it starts at the byte. -/
def Tokenizes (mode : LexMode) (position : Nat) (text : List Char) (tokens : List Token) : Prop :=
  tokensOf mode (lexemes position text) = .ok tokens

section

variable {mode : LexMode} {position : Nat} {s : List Char} {ts us : List Token}

/-- In a text with tokens, every text literal is closed. -/
theorem closed_of_tokensOf {items : List (Nat × Lexeme)} (h : tokensOf mode items = .ok ts) : Lexeme.AllClosed items :=
  fun _ _ hmem => passes_of_tokensOf h _ hmem

/-- The tokens of a text before a boundary are its own tokens and then those of what follows. -/
theorem tokenizes_append_iff (hu : Text.Bounds u) (hclosed : Lexeme.AllClosed (lexemes position s)) :
    Tokenizes mode position (s ++ u) ts ↔ ∃ front back, Tokenizes mode position s front ∧
      Tokenizes mode (position + Text.byteLength s) u back ∧ ts = front ++ back := by
  unfold Tokenizes
  rw [lexemes_append hu hclosed, tokensOf_append]
  cases tokensOf mode (lexemes position s) with
  | error e => exact iff_of_false nofun nofun
  | ok front =>
    cases tokensOf mode (lexemes (position + Text.byteLength s) u) with
    | error e => exact iff_of_false nofun nofun
    | ok back =>
      constructor
      · rintro ⟨⟩
        exact ⟨front, back, rfl, rfl, rfl⟩
      · rintro ⟨_, _, ⟨⟩, ⟨⟩, rfl⟩
        rfl

/-- The tokens of a text and those of what follows a bound make the tokens of both. -/
theorem Tokenizes.append (hu : Text.Bounds u) (h : Tokenizes mode position s ts)
    (hrest : Tokenizes mode (position + Text.byteLength s) u us) : Tokenizes mode position (s ++ u) (ts ++ us) :=
  (tokenizes_append_iff hu (closed_of_tokensOf h)).mpr ⟨ts, us, h, hrest, rfl⟩

/-- Blanks in front of a text only move its tokens. -/
theorem tokenizes_blanks_iff {b : List Char} (hb : b.all Text.isBlank = true) :
    Tokenizes mode position (b ++ s) ts ↔ Tokenizes mode (position + Text.byteLength b) s ts := by
  rw [Tokenizes, lexemes_blanks hb, Tokenizes]

/-- Lexemes that stand later in a text give the same tokens, as much later. -/
theorem tokensOf_later_iff {items : List (Nat × Lexeme)} (distance : Nat) :
    tokensOf mode (items.map fun item => (item.1 + distance, item.2)) = .ok us ↔
      ∃ ts, tokensOf mode items = .ok ts ∧ us = ts.map (Token.later distance) := by
  induction items generalizing us with
  | nil =>
    constructor
    · rintro ⟨⟩
      exact ⟨[], rfl, rfl⟩
    · rintro ⟨_, ⟨⟩, rfl⟩
      rfl
  | cons item items ih =>
    obtain ⟨start, l⟩ := item
    rw [List.map_cons]
    cases l with
    | token kind body =>
      constructor
      · intro h
        obtain ⟨rest, hrest, rfl⟩ := exists_tokensOf_of_token h
        obtain ⟨ts, hts, rfl⟩ := ih.mp hrest
        refine ⟨_, by rw [tokensOf, hts]; rfl, ?_⟩
        simp only [List.map_cons, Token.later, Nat.add_right_comm]
      · rintro ⟨ts, h, rfl⟩
        obtain ⟨rest, hrest, rfl⟩ := exists_tokensOf_of_token h
        rw [tokensOf, ih.mpr ⟨rest, hrest, rfl⟩]
        simp only [List.map_cons, Token.later, Nat.add_right_comm]
        rfl
    | unclosed body =>
      constructor
      · intro h
        cases h
      · rintro ⟨_, h, -⟩
        cases h
    | stray c =>
      cases mode with
      | lenient => exact ih
      | strict =>
        constructor
        · intro h
          cases h
        · rintro ⟨_, h, -⟩
          cases h

/-- The tokens of a text that starts later stand later. -/
theorem tokenizes_iff : Tokenizes mode position s us ↔
    ∃ ts, tokenize mode s = .ok ts ∧ us = ts.map (Token.later position) := by
  rw [Tokenizes, ← Nat.zero_add position, lexemes_add, tokensOf_later_iff, Nat.zero_add]
  rfl

/-- A token in front. -/
theorem Tokenizes.exists_cons (kind : Token.Kind) (body : List Char) {rest : List Char} (hadmits : kind.Admits body)
    (hstops : kind.Stops body rest) (h : Tokenizes mode (position + Text.byteLength (kind.spell body)) rest ts) :
    ∃ t : Token, t.kind = kind ∧ t.text = String.ofList body ∧ t.start = position ∧
      t.stop = position + Text.byteLength (kind.spell body) ∧
      Tokenizes mode position (kind.spell body ++ rest) (t :: ts) := by
  have hlexemes := @Snippet.lexemes_spell_append ⟨false, kind, body⟩ rest hadmits hstops position
  refine ⟨⟨kind, String.ofList body, position, _⟩, rfl, rfl, rfl, rfl, ?_⟩
  unfold Tokenizes at h ⊢
  rw [hlexemes, tokensOf, h]
  rfl

end

/-! ## Moved tokens -/

namespace Token

variable {ts us ts' us' tail : List Token}

/-- The same tokens at two distances are moved copies of each other. -/
theorem moved_later (distance distance' : Nat) (ts : List Token) :
    Moved [] (ts.map (later distance)) (ts.map (later distance')) := by
  induction ts with
  | nil => exact .nil
  | cons t ts ih =>
    refine .cons rfl rfl (fun t' ht' u' hu' => ?_) ih
    cases ts with
    | nil => cases ht'
    | cons v ts =>
      cases ht'
      cases hu'
      show t.stop + distance = v.start + distance ↔ t.stop + distance' = v.start + distance'
      rw [Nat.add_right_cancel_iff, Nat.add_right_cancel_iff]

/-- Tokens and the same tokens later are moved copies of each other. -/
theorem moved_map_later (distance : Nat) (ts : List Token) : Moved [] ts (ts.map (later distance)) := by
  have h := moved_later 0 distance ts
  rwa [show later 0 = id from rfl, List.map_id] at h

/-- Any tokens may follow in the second list. -/
theorem Moved.append_tail (h : Moved [] ts us) (tail : List Token) : Moved tail ts (us ++ tail) := by
  induction h with
  | nil => exact .nil
  | @cons t u ts us kind text joint rest ih =>
    refine .cons kind text (fun t' ht' u' hu' => joint t' ht' u' ?_) ih
    cases rest with
    | nil => cases ht'
    | cons _ _ _ _ => exact hu'

/-- Lists with a gap between them. -/
theorem Moved.append (h : Moved [] ts us) (h' : Moved tail ts' us') (hgap : ∀ t ∈ ts, ∀ t' ∈ ts', t.stop < t'.start)
    (hgap' : ∀ u ∈ us, ∀ u' ∈ us', u.stop < u'.start) : Moved tail (ts ++ ts') (us ++ us') := by
  induction h with
  | nil => exact h'
  | @cons t u ts us kind text joint rest ih =>
    refine .cons kind text (fun t' ht' u' hu' => ?_) ?_
    · cases rest with
      | nil =>
        have hne := (hgap t List.mem_cons_self t' (List.mem_of_mem_head? ht')).ne
        have hne' := (hgap' u List.mem_cons_self u' (List.mem_of_mem_head? hu')).ne
        exact iff_of_false hne hne'
      | cons _ _ _ _ => exact joint t' ht' u' hu'
    · exact ih (fun t ht => hgap t (List.mem_cons_of_mem _ ht)) fun u hu => hgap' u (List.mem_cons_of_mem _ hu)

end Token

end ConditionLang
