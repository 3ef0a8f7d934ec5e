import ConditionLang.Condition.Line
import ConditionLang.Proofs.Cutting
import ConditionLang.Proofs.Reading

/-!
# The two modes of the lexer

The strict mode accepts less than the lenient one and nothing differently: whatever text has strict tokens has the same
lenient ones, and a text with lenient tokens only is refused at its first stray character, outside of all tokens and behind
nothing but tokens and blanks (`tokenize_strict_of_lenient`). So every block that loads in strict mode loads in lenient mode to
the same lines.
-/

namespace ConditionLang

namespace Text

/-- The character stands at the byte of the text. -/
def StandsAt (text : List Char) (c : Char) (position : Nat) : Prop :=
  ∃ before after, text = before ++ c :: after ∧ byteLength before = position

/-- The byte of the text belongs to a blank. -/
def BlankAt (text : List Char) (byte : Nat) : Prop :=
  ∃ c start, StandsAt text c start ∧ isBlank c = true ∧ start ≤ byte ∧ byte < start + c.utf8Size

/-- What stands in a text stands further back behind another text. -/
theorem StandsAt.append {text : List Char} {c : Char} {position : Nat} (h : StandsAt text c position)
    (before : List Char) : StandsAt (before ++ text) c (byteLength before + position) := by
  obtain ⟨middle, after, rfl, rfl⟩ := h
  exact ⟨before ++ middle, after, (List.append_assoc _ _ _).symm, byteLength_append _ _⟩

/-- A blank in a text is one further back behind another text. -/
theorem BlankAt.append {text : List Char} {byte : Nat} (h : BlankAt text byte) (before : List Char) :
    BlankAt (before ++ text) (byteLength before + byte) := by
  obtain ⟨c, start, hc, hblank, hle, hlt⟩ := h
  exact ⟨c, _, hc.append before, hblank, by omega, by omega⟩

end Text

/-- The token takes up the byte. -/
def Token.Covers (t : Token) (byte : Nat) : Prop :=
  t.start ≤ byte ∧ byte < t.stop

/-! ## Lexemes -/

/-- What passes in strict mode passes in lenient mode. -/
theorem Lexeme.Passes.lenient {l : Lexeme} (h : l.Passes .strict) : l.Passes .lenient := by
  cases l with
  | token kind body => trivial
  | unclosed body => exact h
  | stray c => rfl

/-- What is strictly a list of tokens is leniently the same list. -/
theorem tokensOf_lenient_of_strict {items : List (Nat × Lexeme)} {tokens : List Token}
    (h : tokensOf .strict items = .ok tokens) : tokensOf .lenient items = .ok tokens := by
  obtain ⟨hpasses, htokens⟩ := tokensOf_eq_ok_iff.mp h
  exact tokensOf_eq_ok_iff.mpr ⟨fun item hitem => (hpasses item hitem).lenient, htokens⟩

/-- The lenient tokens of a text that stands at some byte of a condition are its strict ones, or the strict mode refuses a
character at the byte `offset` of the text: no token covers that byte, and each byte before it belongs to a token or a blank. -/
theorem Cut.strict_of_lenient {position : Nat} {text : List Char} {items : List (Nat × Lexeme)} {tokens : List Token}
    (hcut : Cut position text items) (h : tokensOf .lenient items = .ok tokens) :
    tokensOf .strict items = .ok tokens ∨
      ∃ c offset, tokensOf .strict items = .error ⟨.strayCharacter c, position + offset⟩ ∧ Text.StandsAt text c offset ∧
        (∀ t ∈ tokens, ¬t.Covers (position + offset)) ∧
        ∀ byte < offset, (∃ t ∈ tokens, t.Covers (position + byte)) ∨ Text.BlankAt text byte := by
  induction hcut generalizing tokens with
  | nil position => exact .inl h
  | @blank position c s items hblank hrest ih =>
    refine (ih h).imp id ?_
    rintro ⟨d, offset, hstrict, hd, hfree, hbefore⟩
    refine ⟨d, c.utf8Size + offset, by rw [hstrict, Nat.add_assoc], hd.append [c], by rwa [← Nat.add_assoc], ?_⟩
    intro byte hbyte
    by_cases hlt : byte < c.utf8Size
    · exact .inr ⟨c, 0, ⟨[], s, rfl, rfl⟩, hblank, Nat.zero_le _, by omega⟩
    · obtain ⟨rest, rfl⟩ := Nat.exists_eq_add_of_le (Nat.not_lt.mp hlt)
      rw [← Nat.add_assoc]
      exact (hbefore rest (by omega)).imp id fun hblank' => hblank'.append [c]
  | @lexeme position l s items hrest ih =>
    cases l with
    | token kind body =>
      obtain ⟨rest, hlenient, rfl⟩ := exists_tokensOf_of_token h
      have hlength : Text.byteLength (Lexeme.token kind body).spelling = Text.byteLength (kind.spell body) := rfl
      refine (ih hlenient).imp (fun hstrict => by rw [tokensOf, hstrict]; rfl) ?_
      rintro ⟨d, offset, hstrict, hd, hfree, hbefore⟩
      refine ⟨d, _, ?_, hd.append (kind.spell body), ?_, ?_⟩
      · rw [tokensOf, hstrict, Nat.add_assoc]
        rfl
      · intro t ht
        rcases List.mem_cons.mp ht with rfl | ht
        · rintro ⟨-, hlt⟩
          dsimp only at hlt
          omega
        · rw [← Nat.add_assoc]
          exact hfree t ht
      · intro byte hbyte
        by_cases hlt : byte < Text.byteLength (kind.spell body)
        · exact .inl ⟨_, List.mem_cons_self, Nat.le_add_right _ _, Nat.add_lt_add_left hlt _⟩
        · obtain ⟨more, rfl⟩ := Nat.exists_eq_add_of_le (Nat.not_lt.mp hlt)
          rw [← Nat.add_assoc]
          refine (hbefore more (by omega)).imp ?_ fun hblank' => hblank'.append _
          rintro ⟨t, ht, hcovers⟩
          exact ⟨t, List.mem_cons_of_mem _ ht, hcovers⟩
    | unclosed body => cases h
    | stray c =>
      -- The lenient mode goes on behind the character, so all tokens stand behind it.
      have hsize : Text.byteLength (Lexeme.stray c).spelling = c.utf8Size := rfl
      have hpos := c.utf8Size_pos
      refine .inr ⟨c, 0, rfl, ⟨[], s, rfl, rfl⟩, fun t ht hcovers => ?_, fun byte hbyte => absurd hbyte (Nat.not_lt_zero _)⟩
      have hle := hrest.le_start h t ht
      have hcovers := hcovers.1
      omega

/-! ## Conditions and blocks -/

/-- The strict tokens of a text are its lenient tokens. -/
theorem tokenize_lenient_of_strict {text : List Char} {tokens : List Token} (h : tokenize .strict text = .ok tokens) :
    tokenize .lenient text = .ok tokens :=
  tokensOf_lenient_of_strict h

/-- What is parsed in strict mode is parsed in lenient mode to the same expression. -/
theorem Expr.parse_lenient_of_strict {text : List Char} {e : Expr} (h : parse .strict text = .ok e) :
    parse .lenient text = .ok e := by
  obtain ⟨tokens, htokens, htree⟩ := parse_eq_ok_iff.mp h
  exact parse_eq_ok_iff.mpr ⟨tokens, tokenize_lenient_of_strict htokens, htree⟩

/-- A line that reads in strict mode reads in lenient mode as the same condition. -/
theorem ConditionLine.parse?_lenient_of_strict {line : Nat} {raw : List Char} {l : Option ConditionLine}
    (h : parse? .strict line raw = .ok l) : parse? .lenient line raw = .ok l := by
  unfold parse? at h ⊢
  split at h
  · exact h
  · rename_i body hbody
    cases hparse : Expr.parse .strict (splitOr body).2 with
    | error err =>
      simp only [hparse] at h
      cases h
    | ok e =>
      simp only [hparse] at h
      simp only [Expr.parse_lenient_of_strict hparse]
      exact h

/-- Lines that load in strict mode load in lenient mode to the same conditions. -/
theorem Block.loadLines_lenient_of_strict {n : Nat} {raws : List (List Char)} {lines : List ConditionLine}
    (h : loadLines .strict n raws = .ok lines) : loadLines .lenient n raws = .ok lines := by
  induction raws generalizing n lines with
  | nil => exact h
  | cons raw rest ih =>
    obtain ⟨condition, later, hparse, hclean, hrest, rfl⟩ := loadLines_cons_eq_ok_iff.mp h
    have hparse' := ConditionLine.parse?_lenient_of_strict hparse
    exact loadLines_cons_eq_ok_iff.mpr ⟨condition, later, hparse', hclean, ih hrest, rfl⟩

/-- The strict tokens of a text are its lenient tokens. A text with lenient tokens has the same strict ones, or the strict mode
refuses it for a character in no token, with only tokens and blanks before it. What loads in strict mode loads in lenient mode
to the same lines. -/
theorem tokenize_strict_of_lenient (text : List Char) :
    (∀ tokens, tokenize .strict text = .ok tokens → tokenize .lenient text = .ok tokens) ∧
    (∀ tokens, tokenize .lenient text = .ok tokens → tokenize .strict text = .ok tokens ∨
      ∃ c position, tokenize .strict text = .error ⟨.strayCharacter c, position⟩ ∧ Text.StandsAt text c position ∧
        (∀ t ∈ tokens, ¬t.Covers position) ∧
        ∀ byte < position, (∃ t ∈ tokens, t.Covers byte) ∨ Text.BlankAt text byte) ∧
    (∀ lines, Block.load .strict text = .ok lines → Block.load .lenient text = .ok lines) := by
  refine ⟨fun tokens => tokenize_lenient_of_strict, fun tokens h => ?_, fun lines => Block.loadLines_lenient_of_strict⟩
  have hcut := (cut_lexemes 0 text).strict_of_lenient h
  simp only [Nat.zero_add] at hcut
  exact hcut

end ConditionLang
