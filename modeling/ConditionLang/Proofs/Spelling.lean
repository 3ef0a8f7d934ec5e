import Mathlib
import ConditionLang.Proofs.Tokens

/-!
# Texts with given tokens

A list of snippets is written as a text, and the text is cut into the tokens of the snippets again (`tokenize_write`).
Snippets are separated by blanks unless they are joined, and `Fits` says that no snippet is read together with what follows
it.
-/

namespace ConditionLang

/-! ## Characters that tokens start with -/

namespace Token

/-- Names start with a letter from A to Z in either case, or with an underscore. -/
theorem toNat_of_isNameStart {c : Char} (h : isNameStart c = true) :
    65 ≤ c.toNat ∧ c.toNat ≤ 90 ∨ 97 ≤ c.toNat ∧ c.toNat ≤ 122 ∨ c.toNat = 95 := by
  have hcode : c.toNat = c.val.toNat := rfl
  simp only [isNameStart, Char.isAlpha, Char.isUpper, Char.isLower, Bool.or_eq_true, Bool.and_eq_true, decide_eq_true_eq,
    UInt32.le_iff_toNat_le, ge_iff_le, beq_iff_eq] at h
  rcases h with (⟨hlow, hhigh⟩ | ⟨hlow, hhigh⟩) | rfl
  · exact .inl ⟨hcode ▸ hlow, hcode ▸ hhigh⟩
  · exact .inr (.inl ⟨hcode ▸ hlow, hcode ▸ hhigh⟩)
  · exact .inr (.inr rfl)

/-- No name starts with a digit. -/
theorem isDigit_of_isNameStart {c : Char} (h : isNameStart c = true) : c.isDigit = false := by
  have hcode := toNat_of_isNameStart h
  rw [Bool.eq_false_iff, ne_eq, Char.isDigit_iff_toNat]
  have hnine : '9'.toNat = 57 := rfl
  omega

end Token

/-- The codes of blanks are at most 32 or at least 133. -/
theorem Text.toNat_of_isBlank {c : Char} (h : isBlank c = true) : c.toNat ≤ 32 ∨ 133 ≤ c.toNat := by
  simp only [isBlank, Bool.or_eq_true, Bool.and_eq_true, decide_eq_true_eq, beq_iff_eq] at h
  omega

/-- The text that follows a token of a kind does not go on with it. -/
def Token.Kind.Stops : Token.Kind → List Char → List Char → Prop
  | .number, _, rest => (∀ c ∈ rest.head?, c.isDigit = false) ∧ ∀ s, rest = '.' :: s → ∀ c ∈ s.head?, c.isDigit = false
  | .quoted, _, _ => True
  | .name, _, rest | .dotted, _, rest => ∀ c ∈ rest.head?, isNamePart c = false
  | .mark, body, rest => body ≠ ['.'] ∧ (body ∈ doubleMarks ∨ ∀ c ∈ rest.head?, body ++ [c] ∉ doubleMarks)

namespace Lexeme

/-- No mark of two characters starts with a digit, a quotation mark or the start of a name. -/
theorem not_isDouble {c : Char} {s : List Char} (h : c.isDigit = true ∨ c = '"' ∨ Token.isNameStart c = true) :
    Token.doubleMarks.contains (c :: s) = false := by
  rw [Bool.eq_false_iff, ne_eq, List.contains_iff_mem]
  intro hmem
  have hmarks : ∀ m ∈ Token.doubleMarks,
      m.head?.all (fun d => !d.isDigit && d != '"' && !Token.isNameStart d) = true := by decide
  have hc := hmarks _ hmem
  rw [List.head?_cons, Option.all_some, Bool.and_eq_true, Bool.and_eq_true, bne_iff_ne, Bool.not_eq_true',
    Bool.not_eq_true'] at hc
  rcases h with hdigit | hquote | hstart
  · rw [hdigit] at hc
    cases hc.1.1
  · exact hc.1.2 hquote
  · rw [hstart] at hc
    cases hc.2

/-- A number is cut off where its digits end, also before two dots. -/
theorem numeral_append {whole fraction rest : List Char} (hwhole : whole.all Char.isDigit = true)
    (hfraction : fraction.all Char.isDigit = true) (hstops : Token.Kind.number.Stops (decimal whole fraction) rest) :
    numeral (decimal whole fraction ++ rest) = decimal whole fraction := by
  unfold decimal
  split
  · rename_i hempty
    simp only [numeral, takeWhile_append_of_stops hwhole hstops.1, List.drop_left]
    cases rest with
    | nil => rfl
    | cons c rest =>
      split
      · rename_i s heq
        have hnone : s.takeWhile Char.isDigit = [] := by
          cases s with
          | nil => rfl
          | cons d s =>
            rw [List.takeWhile_cons_of_neg]
            rw [hstops.2 _ heq d rfl]
            exact Bool.false_ne_true
        simp only [hnone, List.isEmpty_nil, if_true]
      · rfl
  · rename_i hempty
    rw [List.append_assoc, List.cons_append]
    have hdot : ∀ c ∈ ('.' :: (fraction ++ rest)).head?, c.isDigit = false := by
      rintro c ⟨⟩
      rfl
    simp only [numeral, takeWhile_append_of_stops hwhole hdot, List.drop_left,
      takeWhile_append_of_stops hfraction hstops.1, hempty]
    rfl

theorem isBlank_of_isDigit {c : Char} (h : c.isDigit = true) : Text.isBlank c = false := by
  rw [Bool.eq_false_iff]
  intro hblank
  have hcode := Char.isDigit_iff_toNat.mp h
  have hzero : '0'.toNat = 48 := rfl
  have hnine : '9'.toNat = 57 := rfl
  have := Text.toNat_of_isBlank hblank
  omega

theorem isBlank_of_isNameStart {c : Char} (h : Token.isNameStart c = true) : Text.isBlank c = false := by
  rw [Bool.eq_false_iff]
  intro hblank
  have hcode := Token.toNat_of_isNameStart h
  have := Text.toNat_of_isBlank hblank
  omega

/-- A digit at the front starts a number. -/
theorem first_of_isDigit {c : Char} (h : c.isDigit = true) (s : List Char) :
    first c s = .token .number (numeral (c :: s)) := by
  have hquote : c ≠ '"' := by
    rintro rfl
    cases h
  rw [first, not_isDouble (.inl h), if_neg Bool.false_ne_true, if_neg hquote, if_pos h]

/-- The start of a name at the front starts a name. -/
theorem first_of_isNameStart {c : Char} (h : Token.isNameStart c = true) (s : List Char) :
    first c s = .token .name ((c :: s).takeWhile Token.isNamePart) := by
  have hquote : c ≠ '"' := by
    rintro rfl
    cases h
  have hdot : ¬(c = '.' ∧ s.head?.any Token.isNameStart = true) := by
    rintro ⟨rfl, -⟩
    cases h
  rw [first, not_isDouble (.inr (.inr h)), if_neg Bool.false_ne_true, if_neg hquote,
    if_neg (by rw [Token.isDigit_of_isNameStart h]; exact Bool.false_ne_true), if_neg hdot, if_pos h]

/-- A dot before the start of a name starts a name after a dot. -/
theorem first_dot {c : Char} (h : Token.isNameStart c = true) (s : List Char) :
    first '.' (c :: s) = .token .dotted ((c :: s).takeWhile Token.isNamePart) := by
  have hdouble : ¬Token.doubleMarks.contains ('.' :: (c :: s).take 1) = true := by
    rw [List.contains_iff_mem]
    intro hmem
    have hc : c = '.' := by
      simp [Token.doubleMarks] at hmem
      exact hmem
    rw [hc] at h
    cases h
  rw [first, if_neg hdouble, if_neg (by decide), if_neg (by decide), if_pos ⟨rfl, h⟩]

/-- A text in quotation marks at the front. -/
theorem first_quote {body : List Char} (h : '"' ∉ body) (rest : List Char) :
    first '"' (body ++ '"' :: rest) = .token .quoted body := by
  have hbody : (body ++ '"' :: rest).takeWhile (· != '"') = body := by
    refine takeWhile_append_of_stops (List.all_eq_true.mpr fun c hc => ?_) ?_
    · rw [bne_iff_ne]
      rintro rfl
      exact h hc
    · rintro c ⟨⟩
      rfl
  have hlength : body.length < (body ++ '"' :: rest).length := by
    rw [List.length_append, List.length_cons]
    omega
  rw [first, not_isDouble (.inr (.inl rfl)), if_neg Bool.false_ne_true, if_pos rfl]
  simp only [hbody, if_pos hlength]

/-- A name has a first character, and goes on with parts of names. -/
theorem isNameStart_of_isNameShaped {body : List Char} (h : Token.isNameShaped body = true) :
    ∃ c s, body = c :: s ∧ Token.isNameStart c = true ∧ body.all Token.isNamePart = true := by
  cases body with
  | nil => cases h
  | cons c s =>
    rw [Token.isNameShaped, Bool.and_eq_true] at h
    refine ⟨c, s, rfl, h.1, ?_⟩
    rw [List.all_cons, Token.isNamePart_of_isNameStart h.1, h.2]
    rfl

/-- A token that the rest of the text does not go on with is cut off the front. -/
theorem first_append {kind : Token.Kind} {body rest : List Char} (h : kind.Admits body) (hstops : kind.Stops body rest) :
    ∃ c s, kind.spell body = c :: s ∧ Text.isBlank c = false ∧ first c (s ++ rest) = .token kind body := by
  cases kind with
  | number =>
    obtain ⟨c, s, hcons, hc⟩ := Lexeme.IsNumeral.exists_cons h
    obtain ⟨whole, fraction, -, hwhole, hfraction, rfl⟩ := h
    have hnumeral := numeral_append hwhole hfraction hstops
    refine ⟨c, s, hcons, isBlank_of_isDigit hc, ?_⟩
    rw [hcons] at hnumeral ⊢
    rw [first_of_isDigit hc, ← List.cons_append, hnumeral]
  | quoted =>
    refine ⟨'"', body ++ ['"'], rfl, by decide, ?_⟩
    rw [List.append_assoc]
    exact first_quote h rest
  | name =>
    obtain ⟨c, s, rfl, hc, hall⟩ := isNameStart_of_isNameShaped h
    refine ⟨c, s, rfl, isBlank_of_isNameStart hc, ?_⟩
    rw [first_of_isNameStart hc, ← List.cons_append, takeWhile_append_of_stops hall hstops]
  | dotted =>
    obtain ⟨c, s, rfl, hc, hall⟩ := isNameStart_of_isNameShaped h
    refine ⟨'.', c :: s, rfl, by decide, ?_⟩
    rw [List.cons_append, first_dot hc, ← List.cons_append, takeWhile_append_of_stops hall hstops]
  | mark =>
    have hlengths : ∀ m ∈ Token.doubleMarks, m.length = 2 ∧ m.head?.all (!Text.isBlank ·) = true := by decide
    rcases h with hdouble | ⟨c, hc, rfl⟩
    · obtain ⟨hlength, hblank⟩ := hlengths body hdouble
      obtain ⟨a, b, rfl⟩ := List.length_eq_two.mp hlength
      refine ⟨a, [b], rfl, by simpa using hblank, ?_⟩
      rw [first, List.cons_append, List.take_succ_cons, List.take_zero, if_pos (List.contains_iff_mem.mpr hdouble)]
    · have hsingle : Token.singleMarks.all
          (fun d => d != '"' && !d.isDigit && !Token.isNameStart d && !Text.isBlank d) = true := by decide
      have hmark := List.all_eq_true.mp hsingle c hc
      simp only [Bool.and_eq_true, bne_iff_ne, Bool.not_eq_true'] at hmark
      obtain ⟨⟨⟨hquote, hdigit⟩, hname⟩, hblank⟩ := hmark
      -- The mark must not be read together with the next character as a mark of two.
      have hdouble : ¬Token.doubleMarks.contains (c :: rest.take 1) = true := by
        rw [List.contains_iff_mem]
        intro hmem
        obtain ⟨hlength, -⟩ := hlengths _ hmem
        cases rest with
        | nil => cases hlength
        | cons d rest =>
          rcases hstops.2 with hbody | hnext
          · cases (hlengths _ hbody).1
          · exact hnext d rfl hmem
      have hdot : ¬(c = '.' ∧ rest.head?.any Token.isNameStart = true) := fun h => hstops.1 (h.1 ▸ rfl)
      refine ⟨c, [], rfl, hblank, ?_⟩
      rw [List.nil_append, first, if_neg hdouble, if_neg hquote, hdigit, if_neg Bool.false_ne_true, if_neg hdot, hname,
        if_neg Bool.false_ne_true, if_pos (List.contains_iff_mem.mpr hc)]

end Lexeme

/-! ## Snippets -/

/-- A token to be written, joined to the one before it or after a blank. -/
structure Snippet where
  joined : Bool
  kind : Token.Kind
  body : List Char
  deriving Repr, DecidableEq, Inhabited

namespace Snippet

/-- How a snippet is written. -/
def chars (p : Snippet) : List Char :=
  if p.joined then p.kind.spell p.body else ' ' :: p.kind.spell p.body

/-- The text of snippets. -/
def write (snippets : List Snippet) : List Char :=
  snippets.flatMap chars

/-- The token of a snippet that is written after the byte `position`. -/
def token (position : Nat) (p : Snippet) : Token :=
  let start := if p.joined then position else position + 1
  ⟨p.kind, String.ofList p.body, start, start + Text.byteLength (p.kind.spell p.body)⟩

/-- The tokens of snippets that are written after the byte `position`. -/
def place (position : Nat) : List Snippet → List Token
  | [] => []
  | p :: snippets => p.token position :: place (p.token position).stop snippets

/-- Every snippet has a text of its kind, and what follows does not go on with it. -/
def Fits : List Snippet → Prop
  | [] => True
  | p :: snippets => p.kind.Admits p.body ∧ p.kind.Stops p.body (write snippets) ∧ Fits snippets

/-- The first lexeme of a text that starts with a token. -/
theorem lexemes_spell_append {p : Snippet} {rest : List Char} (h : p.kind.Admits p.body)
    (hstops : p.kind.Stops p.body rest) (position : Nat) :
    lexemes position (p.kind.spell p.body ++ rest) =
      (position, .token p.kind p.body) :: lexemes (position + Text.byteLength (p.kind.spell p.body)) rest := by
  obtain ⟨c, s, hspell, hblank, hfirst⟩ := Lexeme.first_append h hstops
  rw [hspell, List.cons_append, lexemes, hblank, if_neg Bool.false_ne_true, hfirst]
  simp only [Lexeme.spelling, hspell, List.length_cons, Nat.add_sub_cancel, List.drop_left]

/-- The text of snippets that fit is cut into their tokens. -/
theorem tokensOf_lexemes_write {snippets : List Snippet} (h : Fits snippets) (mode : LexMode) (position : Nat) :
    tokensOf mode (lexemes position (write snippets)) = .ok (place position snippets) := by
  induction snippets generalizing position with
  | nil =>
    rw [write, List.flatMap_nil, lexemes]
    rfl
  | cons p snippets ih =>
    obtain ⟨hadmits, hstops, hfits⟩ := h
    have hspell := lexemes_spell_append hadmits hstops
    rw [write, List.flatMap_cons, ← write, chars]
    cases hjoined : p.joined with
    | true =>
      rw [if_pos rfl, hspell, tokensOf, ih hfits, place, token, hjoined]
      rfl
    | false =>
      rw [if_neg Bool.false_ne_true, List.cons_append, lexemes, if_pos (by decide), hspell, tokensOf, ih hfits, place,
        token, hjoined]
      rfl

/-- The tokens of the text of snippets that fit. -/
theorem tokenize_write {snippets : List Snippet} (h : Fits snippets) (mode : LexMode) :
    tokenize mode (write snippets) = .ok (place 0 snippets) :=
  tokensOf_lexemes_write h mode 0

/-! ## Snippets that fit -/

/-- The text of the snippets is empty or starts with a blank. -/
def Loose (snippets : List Snippet) : Prop :=
  ∀ c ∈ (write snippets).head?, c = ' '

/-- The text of the snippets is empty or starts with a blank or a dot. -/
def Breaks (snippets : List Snippet) : Prop :=
  ∀ c ∈ (write snippets).head?, c = ' ' ∨ c = '.'

variable {p : Snippet} {snippets : List Snippet}

theorem loose_nil : Loose [] :=
  fun _ h => nomatch h

/-- A snippet that is not joined is written after a blank. -/
theorem loose_cons (h : p.joined = false) : Loose (p :: snippets) := by
  intro c hc
  rw [write, List.flatMap_cons, chars, h] at hc
  exact (Option.some.inj hc).symm

theorem Loose.breaks (h : Loose snippets) : Breaks snippets :=
  fun c hc => .inl (h c hc)

theorem breaks_dotted {joined : Bool} {body : List Char} : Breaks (⟨joined, .dotted, body⟩ :: snippets) := by
  intro c hc
  rw [write, List.flatMap_cons, chars] at hc
  cases joined with
  | true => exact .inr (Option.some.inj hc).symm
  | false => exact .inl (Option.some.inj hc).symm

/-- A numeral fits before what starts with a blank. -/
theorem fits_number {joined : Bool} {body : List Char} (h : Lexeme.IsNumeral body) (hloose : Loose snippets)
    (hfits : Fits snippets) : Fits (⟨joined, .number, body⟩ :: snippets) := by
  refine ⟨h, ⟨fun c hc => hloose c hc ▸ rfl, fun s hs => ?_⟩, hfits⟩
  have hdot := hloose '.' (by rw [hs]; rfl)
  exact absurd hdot (by decide)

/-- A number, two joined dots and a joined number. -/
theorem fits_range {joined : Bool} {low high : List Char} (hlow : Lexeme.IsNumeral low) (hhigh : Lexeme.IsNumeral high)
    (hloose : Loose snippets) (hfits : Fits snippets) :
    Fits (⟨joined, .number, low⟩ :: ⟨true, .mark, ['.', '.']⟩ :: ⟨true, .number, high⟩ :: snippets) := by
  refine ⟨hlow, ⟨?_, ?_⟩, ⟨.inl (by decide), ⟨by decide, .inl (by decide)⟩, fits_number hhigh hloose hfits⟩⟩
  · rintro c ⟨⟩
    rfl
  · rintro s ⟨⟩ c ⟨⟩
    rfl

/-- A text without quotation marks fits before anything. -/
theorem fits_quoted {joined : Bool} {body : List Char} (h : '"' ∉ body) (hfits : Fits snippets) :
    Fits (⟨joined, .quoted, body⟩ :: snippets) :=
  ⟨h, trivial, hfits⟩

/-- What breaks a name off does not start with a part of a name. -/
theorem isNamePart_of_breaks (h : Breaks snippets) : ∀ c ∈ (write snippets).head?, Token.isNamePart c = false := by
  intro c hc
  rcases h c hc with rfl | rfl
  · rfl
  · rfl

/-- A name fits before what breaks it off. -/
theorem fits_name {joined : Bool} {body : List Char} (h : Token.isNameShaped body = true) (hbreaks : Breaks snippets)
    (hfits : Fits snippets) : Fits (⟨joined, .name, body⟩ :: snippets) :=
  ⟨h, isNamePart_of_breaks hbreaks, hfits⟩

theorem fits_dotted {joined : Bool} {body : List Char} (h : Token.isNameShaped body = true) (hbreaks : Breaks snippets)
    (hfits : Fits snippets) : Fits (⟨joined, .dotted, body⟩ :: snippets) :=
  ⟨h, isNamePart_of_breaks hbreaks, hfits⟩

/-- The marks of one character, without the dot. -/
def plainMarks : List (List Char) :=
  (Token.singleMarks.erase '.').map fun c => [c]

/-- A mark of one character but the dot is no part of a longer mark if a blank or a dot follows. -/
theorem fits_mark {joined : Bool} {body : List Char} (h : body ∈ plainMarks) (hbreaks : Breaks snippets)
    (hfits : Fits snippets) : Fits (⟨joined, .mark, body⟩ :: snippets) := by
  obtain ⟨c, hc, hbody⟩ := List.mem_map.mp h
  have hnone : ∀ m ∈ plainMarks, m ≠ ['.'] ∧ m ++ [' '] ∉ Token.doubleMarks ∧ m ++ ['.'] ∉ Token.doubleMarks := by
    decide
  obtain ⟨hdot, hblank, hdots⟩ := hnone body h
  refine ⟨.inr ⟨c, List.mem_of_mem_erase hc, hbody.symm⟩, ⟨hdot, .inr fun d hd => ?_⟩, hfits⟩
  rcases hbreaks d hd with rfl | rfl
  · exact hblank
  · exact hdots

/-- A mark of two characters fits before anything. -/
theorem fits_doubleMark {joined : Bool} {body : List Char} (h : body ∈ Token.doubleMarks) (hfits : Fits snippets) :
    Fits (⟨joined, .mark, body⟩ :: snippets) := by
  refine ⟨.inl h, ⟨?_, .inl h⟩, hfits⟩
  rintro rfl
  exact absurd h (by decide)

end Snippet

end ConditionLang
