import Mathlib.Data.List.Basic
import ConditionLang.Proofs.Reading
import ConditionLang.Proofs.Walks

/-!
# The parser makes progress

Every step of the parser carries a proof that fewer tokens are left, so the parser cannot stand still or run past the end. A
walk carries no such proof. From every position of every list of tokens it nevertheless comes to an end, at the place and with
the result of the parser (`Walk.Follows`), if it has 21 units of fuel for each token and 21 more. So no chain of calls and
rounds of loops is longer than that. All rounds together are at most as many as the tokens, because each is paid for: a token
that is stepped over gives one unit of credit, and a round of a loop takes one.
-/

namespace ConditionLang

variable {tokens : List Token} {position : Nat} {c : Cursor} {t : Token}

/-! ## Places and positions -/

/-- The place is that of a position among the tokens or right behind the last one. -/
structure Cursor.IsAt (tokens : List Token) (position : Nat) (c : Cursor) : Prop where
  eq : c = .ofPosition tokens position
  le : position ≤ tokens.length

namespace Cursor

/-- The first place is that of the first token. -/
theorem isAt_start (tokens : List Token) : (start tokens).IsAt tokens 0 :=
  ⟨rfl, Nat.zero_le _⟩

/-- The tokens before a place and those ahead are all tokens. -/
theorem IsAt.size (h : c.IsAt tokens position) : position + c.size = tokens.length := by
  have hle := h.le
  rw [h.eq, Cursor.size, ofPosition, List.length_drop]
  omega

/-- Past a token, a place is that of the next position. -/
theorem IsAt.skip_of_lt (h : c.IsAt tokens position) (hlt : position < tokens.length) :
    c.skip.IsAt tokens (position + 1) := by
  refine ⟨?_, hlt⟩
  rw [h.eq, Cursor.skip, ofPosition, ofPosition, List.drop_eq_getElem_cons hlt, if_neg (Nat.succ_ne_zero _),
    Nat.add_sub_cancel, List.getElem?_eq_getElem hlt]
  rfl

/-- A token that is there is stepped over. -/
theorem IsAt.skip (h : c.IsAt tokens position) (ht : c.peek? = some t) : c.skip.IsAt tokens (position + 1) := by
  have hsize := h.size
  have hskip := size_skip ht
  exact h.skip_of_lt (by omega)

/-- Two tokens that are there are stepped over. -/
theorem IsAt.skip_skip (h : c.IsAt tokens position) (hskip : c.skip.skip.size + 2 = c.size) :
    c.skip.skip.IsAt tokens (position + 2) := by
  have hsize := h.size
  exact (h.skip_of_lt (by omega)).skip_of_lt (by omega)

end Cursor

/-- The loosest level has rank seven. -/
theorem Expr.Level.rank_le (l : Level) : l.rank ≤ 7 := by
  cases l <;> decide

/-! ## Walks that follow the parser -/

/-- How a parsing function ends: with a value or an error, at a place. -/
def Parser.ending {n : Nat} {α : Type} : Except Failure (Parsed n α) → Except SyntaxError α × Cursor
  | .ok p => (.ok p.value, p.next)
  | .error f => (.error f.error, f.place)

/-- Reads an expression after which nothing is left. -/
def Parser.whole (c : Cursor) : Except Failure (Parsed c.size Expr) := do
  let e ← level .disjunction c
  match e.next.peek? with
  | none => .ok e
  | some t => .error (.at t .unexpectedToken e.next)

/-- An expression is what is read as a whole from the first token on. -/
theorem Expr.ofTokens_eq_whole (h : ¬tokens.isEmpty) :
    ofTokens tokens = (Parser.ending (Parser.whole (.start tokens))).1 := by
  rw [ofTokens, if_neg h, Parser.whole]
  cases Parser.level .disjunction (.start tokens) with
  | error failure => rfl
  | ok e =>
    show (match e.next.peek? with
        | none => .ok e.value
        | some t => .error ⟨.unexpectedToken t.text, t.start⟩) =
      (Parser.ending (match e.next.peek? with
        | none => .ok e
        | some t => .error (.at t .unexpectedToken e.next))).1
    cases e.next.peek? with
    | none => rfl
    | some t => rfl

/-- The walk has ended as a parsing function does, at the place of a position that is not before `position` and not behind the
end. Each round on the way has stepped over a token, and to every round there is a token that was stepped over, or one unit of
the `credit` given for tokens before. A walk that has succeeded leaves the units `left` of it. -/
structure Walked.Follows (tokens : List Token) (position credit left : Nat) {n : Nat} {α : Type} (walked : Walked α)
    (r : Except Failure (Parsed n α)) : Prop where
  ending : Parser.ending r = (walked.result, .ofPosition tokens walked.position)
  forward : position ≤ walked.position
  within : walked.position ≤ tokens.length
  rounds : ∀ round ∈ walked.rounds, round.start < round.stop ∧ round.stop ≤ tokens.length
  count : walked.rounds.length + position ≤ credit + walked.position
  spare : ∀ a, walked.result = .ok a → walked.rounds.length + position + left ≤ credit + walked.position

namespace Walk

/-- A walk ends, and it ends as a parsing function does. -/
def Follows (tokens : List Token) (position credit left : Nat) {n : Nat} {α : Type} (r : Except Failure (Parsed n α))
    (w : Walk α) : Prop :=
  ∃ walked, w tokens position = some walked ∧ walked.Follows tokens position credit left r

section

variable {m n credit credit' mid left left' count : Nat} {α β γ : Type} {a : α} {w w' : Walk α} {f : α → Walk β}
  {r r' : Except Failure (Parsed n α)}

/-- A walk may follow with more credit, and with less of it left. -/
theorem Follows.mono (h : Follows tokens position credit left r w) (hcredit : credit ≤ credit') (hleft : left' ≤ left) :
    Follows tokens position credit' left' r w := by
  obtain ⟨walked, hw, h⟩ := h
  have hcount := h.count
  refine ⟨walked, hw, h.ending, h.forward, h.within, h.rounds, by omega, fun a ha => ?_⟩
  have hspare := h.spare a ha
  omega

theorem follows_pure {p : Parsed n α} (hp : p.next.IsAt tokens position) (hvalue : p.value = a) (hleft : left ≤ credit) :
    Follows tokens position credit left (.ok p) (pure a : Walk α) := by
  refine ⟨⟨.ok a, position, []⟩, rfl, ?_, Nat.le_refl _, hp.le, List.forall_mem_nil _, ?_, fun _ _ => ?_⟩
  · rw [Parser.ending, hp.eq, hvalue]
  · exact Nat.add_le_add_right (Nat.zero_le _) _
  · simp only [List.length_nil]
    omega

theorem follows_fail {g : Cursor → Failure} (hc : c.IsAt tokens position) (hplace : (g c).place = c) :
    Follows tokens position credit left (.error (g c) : Except Failure (Parsed n α)) (fail g : Walk α) := by
  refine ⟨_, rfl, ?_, Nat.le_refl _, hc.le, List.forall_mem_nil _, ?_, fun a ha => ?_⟩
  · rw [Parser.ending, hplace, hc.eq]
  · exact Nat.add_le_add_right (Nat.zero_le _) _
  · cases ha

/-- A walk ends where its first part fails. -/
theorem bind_of_error {e : SyntaxError} {position' : Nat} {rounds : List Round}
    (h : w tokens position = some ⟨.error e, position', rounds⟩) :
    (w >>= f) tokens position = some ⟨.error e, position', rounds⟩ := by
  simp only [Bind.bind, h]

/-- A walk goes on where its first part ends, and its rounds are those of both. -/
theorem bind_of_ok {position' : Nat} {rounds : List Round} {walked : Walked β}
    (h : w tokens position = some ⟨.ok a, position', rounds⟩) (hf : f a tokens position' = some walked) :
    (w >>= f) tokens position = some { walked with rounds := rounds ++ walked.rounds } := by
  simp only [Bind.bind, h, hf, Option.map_some]

/-- Walks with the same first part go on alike. -/
theorem bind_congr (h : w tokens position = w' tokens position) :
    (w >>= f) tokens position = (w' >>= f) tokens position := by
  simp only [Bind.bind, h]

/-- One walk after another follows one parsing function after another. -/
theorem Follows.bind {r : Except Failure (Parsed m α)} {k : Parsed m α → Except Failure (Parsed n β)}
    (h : Follows tokens position credit mid r w)
    (hk : ∀ (p : Parsed m α) (position' : Nat), p.next.IsAt tokens position' →
      Follows tokens position' mid left (k p) (f p.value)) :
    Follows tokens position credit left (r >>= k) (w >>= f) := by
  obtain ⟨⟨result, position₁, rounds₁⟩, hw, h⟩ := h
  cases r with
  | error failure =>
    obtain ⟨rfl, hplace⟩ := Prod.mk.inj h.ending
    refine ⟨_, bind_of_error hw, Prod.ext rfl hplace, h.forward, h.within, h.rounds, h.count, fun a ha => ?_⟩
    cases ha
  | ok p =>
    obtain ⟨rfl, hplace⟩ := Prod.mk.inj h.ending
    obtain ⟨walked, hf, h'⟩ := hk p position₁ ⟨hplace, h.within⟩
    have hspare := h.spare _ rfl
    have hforward := h.forward
    have hforward' := h'.forward
    have hcount' := h'.count
    simp only at hspare hforward
    refine ⟨_, bind_of_ok hw hf, h'.ending, by simp only; omega, h'.within, ?_, ?_, fun b hb => ?_⟩
    · intro round hround
      rcases List.mem_append.mp hround with hround | hround
      · exact h.rounds round hround
      · exact h'.rounds round hround
    · simp only [List.length_append]
      omega
    · have hspare' := h'.spare b hb
      simp only [List.length_append]
      omega

/-- The value that is handed on may be seen from an earlier place. -/
theorem Follows.weaken {r : Except Failure (Parsed m α)} {k : Parsed m α → Except Failure (Parsed n α)}
    (h : Follows tokens position credit left r w)
    (hk : ∀ p, ∃ q, k p = .ok q ∧ q.value = p.value ∧ q.next = p.next) :
    Follows tokens position credit left (r >>= k) w := by
  obtain ⟨walked, hw, h⟩ := h
  refine ⟨walked, hw, ?_, h.forward, h.within, h.rounds, h.count, h.spare⟩
  rw [← h.ending]
  cases r with
  | error failure => rfl
  | ok p =>
    obtain ⟨q, hq, hvalue, hnext⟩ := hk p
    show Parser.ending (k p) = _
    rw [hq, Parser.ending, Parser.ending, hvalue, hnext]

/-- A walk follows a choice if each branch follows its own. -/
theorem Follows.ite {p : Prop} [Decidable p] (h : p → Follows tokens position credit left r w)
    (h' : ¬p → Follows tokens position credit left r' w') :
    Follows tokens position credit left (if p then r else r') (if p then w else w') := by
  split
  · rename_i hp
    exact h hp
  · rename_i hp
    exact h' hp

theorem Follows.dite {p : Prop} [Decidable p] {r : p → Except Failure (Parsed n α)} {r' : ¬p → Except Failure (Parsed n α)}
    (h : ∀ hp, Follows tokens position credit left (r hp) w) (h' : ∀ hp, Follows tokens position credit left (r' hp) w') :
    Follows tokens position credit left (if hp : p then r hp else r' hp) (if p then w else w') := by
  split
  · rename_i hp
    exact h hp
  · rename_i hp
    exact h' hp

variable {r : Except Failure (Parsed n β)}

/-- A walk looks at the place of its position. -/
theorem follows_look_bind {g : Cursor → α} (hc : c.IsAt tokens position) (hlook : g c = a)
    (h : Follows tokens position credit left r (f a)) : Follows tokens position credit left r (look g >>= f) := by
  subst hlook
  obtain ⟨walked, hf, h⟩ := h
  rw [hc.eq] at hf
  exact ⟨_, bind_of_ok rfl hf, h⟩

/-- A walk knows its position. -/
theorem follows_here_bind {f : Nat → Walk β} (h : Follows tokens position credit left r (f position)) :
    Follows tokens position credit left r (here >>= f) := by
  obtain ⟨walked, hf, h⟩ := h
  exact ⟨_, bind_of_ok rfl hf, h⟩

/-- Every token that is stepped over adds to the credit. -/
theorem follows_advance_bind {f : Unit → Walk β} (h : Follows tokens (position + count) (credit + count) left r (f ())) :
    Follows tokens position credit left r (advance count >>= f) := by
  obtain ⟨walked, hf, h⟩ := h
  have hforward := h.forward
  have hcount := h.count
  refine ⟨_, bind_of_ok rfl hf, h.ending, by simp only; omega, h.within, h.rounds, ?_, fun b hb => ?_⟩
  · simp only [List.nil_append]
    omega
  · have hspare := h.spare b hb
    simp only [List.nil_append]
    omega

/-- A round that has stepped over a token takes from the credit. -/
theorem follows_record_bind {f : Unit → Walk β} {loop : Loop} {start : Nat} (hc : c.IsAt tokens position)
    (hlt : start < position) (h : Follows tokens position credit left r (f ())) :
    Follows tokens position (credit + 1) left r (record loop start >>= f) := by
  obtain ⟨walked, hf, h⟩ := h
  have hcount := h.count
  refine ⟨_, bind_of_ok rfl hf, h.ending, h.forward, h.within, ?_, ?_, fun b hb => ?_⟩
  · intro round hround
    rcases List.mem_cons.mp hround with rfl | hround
    · exact ⟨hlt, hc.le⟩
    · exact h.rounds round hround
  · simp only [List.singleton_append, List.length_cons]
    omega
  · have hspare := h.spare b hb
    simp only [List.singleton_append, List.length_cons]
    omega

/-- A walk reads a literal as the parser does. -/
theorem follows_number_bind {f : Float → Walk β} {k : Float → Except Failure (Parsed n β)} (hc : c.IsAt tokens position)
    (h : ∀ x, Follows tokens position credit left (k x) (f x)) :
    Follows tokens position credit left (Parser.number t c >>= k) (number t >>= f) := by
  unfold number Parser.number
  cases Number.read? t.text.toList with
  | some x =>
    obtain ⟨walked, hf, h⟩ := h x
    exact ⟨_, bind_of_ok rfl hf, h⟩
  | none => exact follows_fail hc rfl

/-- A comma is stepped over. -/
theorem follows_skipComma_bind {f : Unit → Walk β} (hc : c.IsAt tokens position)
    (h : ∀ position', (Parser.skipComma c).IsAt tokens position' → Follows tokens position' credit left r (f ())) :
    Follows tokens position credit left r (skipComma >>= f) := by
  have hlook : skipComma tokens position = (if c.atMark "," then advance 1 else pure () : Walk Unit) tokens position := by
    rw [hc.eq]
    simp only [skipComma, Bind.bind, look, List.nil_append]
    exact congrFun Option.map_id _
  rw [Parser.skipComma] at h
  split at h
  · rename_i hcomma
    obtain ⟨t, ht, -⟩ := (Option.any_eq_true _ _).mp hcomma
    rw [if_pos hcomma] at hlook
    obtain ⟨walked, hw, h⟩ := follows_advance_bind ((h _ (hc.skip ht)).mono (Nat.le_add_right _ _) (Nat.le_refl _))
    exact ⟨walked, (bind_congr hlook).trans hw, h⟩
  · rename_i hcomma
    rw [if_neg hcomma] at hlook
    obtain ⟨walked, hf, h⟩ := h position hc
    exact ⟨_, bind_of_ok hlook hf, h⟩

/-- A walk that goes on by some tokens earns as much credit. -/
theorem follows_advance {p : Parsed n Unit} (hp : p.next.IsAt tokens (position + count)) :
    Follows tokens position credit (credit + count) (.ok p) (advance count) := by
  refine ⟨⟨.ok (), position + count, []⟩, rfl, ?_, Nat.le_add_right _ _, hp.le, List.forall_mem_nil _, ?_, fun _ _ => ?_⟩
  · rw [Parser.ending, hp.eq]
  · simp only [List.length_nil]
    omega
  · simp only [List.length_nil]
    omega

end

variable {credit : Nat}

/-! ## Marks, names and steps -/

/-- The walk over a mark follows the parser. -/
theorem follows_mark (hc : c.IsAt tokens position) (m : String) :
    Follows tokens position credit (credit + 1) (Parser.mark m c) (mark m) := by
  unfold Parser.mark
  split
  · rename_i t ht
    refine follows_look_bind hc ht (.ite (fun _ => ?_) fun _ => follows_fail hc rfl)
    exact follows_advance (hc.skip ht)
  · rename_i ht
    exact follows_look_bind hc ht (follows_fail hc rfl)

/-- A token is stepped over before it is known whether it is accepted. -/
theorem follows_text {accepts : Token → Prop} [DecidablePred accepts] {cause : String → SyntaxError.Cause} {wanted : Wanted}
    (hc : c.IsAt tokens position) :
    Follows tokens position credit (credit + 1)
      (match h : c.peek? with
        | some t =>
          if accepts t then .ok (⟨t.text, c.skip, Cursor.size_skip_lt h⟩ : Parsed c.size String)
          else .error (.at t cause c.skip)
        | none => .error (.atEnd wanted c))
      (text accepts cause wanted) := by
  split
  · rename_i t ht
    have hskip := hc.skip ht
    refine follows_look_bind hc ht (follows_advance_bind (.ite (fun _ => ?_) fun _ => follows_fail hskip rfl))
    exact follows_pure hskip rfl (Nat.le_refl _)
  · rename_i ht
    exact follows_look_bind hc ht (follows_fail hc rfl)

theorem follows_boundName (hc : c.IsAt tokens position) :
    Follows tokens position credit (credit + 1) (Parser.boundName c) boundName :=
  follows_text hc

theorem follows_indexKey (hc : c.IsAt tokens position) :
    Follows tokens position credit (credit + 1) (Parser.indexKey c) indexKey :=
  follows_text hc

theorem follows_boundNames (fuel : Nat) {position credit : Nat} {c : Cursor} (hc : c.IsAt tokens position)
    (hfuel : 21 * c.size < fuel) :
    Follows tokens position credit (credit + 1) (Parser.boundNames c) (boundNames fuel) := by
  obtain ⟨fuel, rfl⟩ := Nat.exists_eq_add_one.mpr (Nat.zero_lt_of_lt hfuel)
  rw [Parser.boundNames, boundNames]
  refine follows_here_bind ((follows_boundName hc).bind fun first position' hfirst => ?_)
  have hfewer := first.fewer
  have hsize := hc.size
  have hsize' := hfirst.size
  refine follows_look_bind hfirst rfl (.dite (fun hcomma => ?_) fun _ => follows_pure hfirst rfl (Nat.le_refl _))
  obtain ⟨t, ht, -⟩ := (Option.any_eq_true _ _).mp hcomma
  have hskip := hfirst.skip ht
  have hsize'' := hskip.size
  refine follows_advance_bind (follows_record_bind hskip (by omega) ?_)
  refine (follows_boundNames fuel hskip (by omega)).bind fun more position'' hmore => ?_
  exact follows_pure hmore rfl (by omega)

/-- The walk over the steps of a reference follows the parser. -/
theorem follows_path (fuel : Nat) {position credit : Nat} {c : Cursor} (hc : c.IsAt tokens position)
    (hfuel : 21 * c.size < fuel) : Follows tokens position credit credit (Parser.path c) (path fuel) := by
  obtain ⟨fuel, rfl⟩ := Nat.exists_eq_add_one.mpr (Nat.zero_lt_of_lt hfuel)
  rw [Parser.path, path]
  refine follows_here_bind (follows_look_bind hc rfl ?_)
  split
  · rename_i t ht
    have hsize := hc.size
    have hskip := hc.skip ht
    have hsize' := hskip.size
    refine follows_look_bind hc ht (.ite (fun _ => ?_) fun _ => .ite (fun _ => ?_) fun _ => ?_)
    · refine follows_advance_bind ((follows_indexKey hskip).bind fun key position₁ hkey => ?_)
      refine (follows_mark hkey "]").bind fun close position₂ hclose => ?_
      have hkeySize := hkey.size
      have hcloseSize := hclose.size
      have hkeyFewer := key.fewer
      have hcloseFewer := close.fewer
      refine follows_record_bind hclose (by omega) ?_
      refine (follows_path fuel hclose (by omega)).bind fun more position₃ hmore => ?_
      exact follows_pure hmore rfl (by omega)
    · refine follows_advance_bind (follows_record_bind hskip (Nat.lt_succ_self _) ?_)
      refine (follows_path fuel hskip (by omega)).bind fun more position₁ hmore => ?_
      exact follows_pure hmore rfl (Nat.le_refl _)
    · exact follows_pure hc rfl (Nat.le_refl _)
  · rename_i ht
    exact follows_look_bind hc ht (follows_pure hc rfl (Nat.le_refl _))

/-! ## Expressions

The induction is on the fuel, of which there is always more than 21 units for each token that is left and some for the calls
that step over no token. The latter go the way in which the parser itself decreases: from a table (19) through the levels
(17 to 4) to a primary expression (0). -/

mutual

/-- The walk over an expression of a level follows the parser. -/
theorem follows_level (fuel : Nat) (l : Expr.Level) {position credit : Nat} {c : Cursor} (hc : c.IsAt tokens position)
    (hfuel : 21 * c.size + (2 * l.rank + 3) < fuel) :
    Follows tokens position credit (credit + 1) (Parser.level l c) (level fuel l) := by
  obtain ⟨fuel, rfl⟩ := Nat.exists_eq_add_one.mpr (Nat.zero_lt_of_lt hfuel)
  rw [Parser.level, level]
  refine (follows_operand fuel l hc (by omega)).bind fun left position' hleft => ?_
  have hfewer := left.fewer
  exact (follows_chain fuel l left.value hleft (by omega)).weaken fun p => ⟨_, rfl, rfl, rfl⟩

theorem follows_operand (fuel : Nat) (l : Expr.Level) {position credit : Nat} {c : Cursor} (hc : c.IsAt tokens position)
    (hfuel : 21 * c.size + (2 * l.rank + 2) < fuel) :
    Follows tokens position credit (credit + 1) (Parser.operand l c) (operand fuel l) := by
  obtain ⟨fuel, rfl⟩ := Nat.exists_eq_add_one.mpr (Nat.zero_lt_of_lt hfuel)
  rw [Parser.operand_eq, operand]
  cases h : l.tighter? with
  | some m =>
    have hrank := Expr.Level.rank_tighter h
    exact follows_level fuel m hc (by omega)
  | none => exact follows_unary fuel hc (by omega)

/-- The walk over a chain of operators follows the parser. -/
theorem follows_chain (fuel : Nat) (l : Expr.Level) (left : Expr) {position credit : Nat} {c : Cursor}
    (hc : c.IsAt tokens position) (hfuel : 21 * c.size < fuel) :
    Follows tokens position credit credit (Parser.chain l left c) (chain fuel l left) := by
  obtain ⟨fuel, rfl⟩ := Nat.exists_eq_add_one.mpr (Nat.zero_lt_of_lt hfuel)
  have hsize := hc.size
  rw [Parser.chain, chain]
  refine follows_here_bind (follows_look_bind hc rfl (.dite (fun hbinds => ?_) fun _ => ?_))
  · obtain ⟨t, ht, -⟩ := (Option.any_eq_true _ _).mp hbinds.2
    have hskip := hc.skip ht
    have hskipSize := hskip.size
    refine follows_advance_bind ((follows_boundNames fuel hskip (by omega)).bind fun names position' hnames => ?_)
    have hfewer := names.fewer
    have hsize' := hnames.size
    refine follows_record_bind hnames (by omega) ?_
    refine Follows.mono ?_ (Nat.le_refl _) (Nat.le_succ credit)
    exact (follows_chain fuel l _ hnames (by omega)).weaken fun p => ⟨_, rfl, rfl, rfl⟩
  · split
    · rename_i hop
      exact follows_look_bind hc hop (follows_pure hc rfl (Nat.le_refl _))
    · rename_i op hop
      refine follows_look_bind hc hop ?_
      obtain ⟨t, ht, -⟩ := Option.bind_eq_some_iff.mp hop
      have hskip := hc.skip ht
      have hskipSize := hskip.size
      have hrank := l.rank_le
      refine follows_advance_bind ((follows_operand fuel l hskip (by omega)).bind fun right position' hright => ?_)
      have hfewer := right.fewer
      have hsize' := hright.size
      split
      · refine follows_record_bind hright (by omega) ?_
        refine Follows.mono ?_ (Nat.le_refl _) (Nat.le_succ credit)
        exact (follows_chain fuel l _ hright (by omega)).weaken fun p => ⟨_, rfl, rfl, rfl⟩
      · exact follows_pure hright rfl (by omega)

theorem follows_unary (fuel : Nat) {position credit : Nat} {c : Cursor} (hc : c.IsAt tokens position)
    (hfuel : 21 * c.size + 1 < fuel) :
    Follows tokens position credit (credit + 1) (Parser.unary c) (unary fuel) := by
  obtain ⟨fuel, rfl⟩ := Nat.exists_eq_add_one.mpr (Nat.zero_lt_of_lt hfuel)
  rw [Parser.unary, unary]
  split
  · rename_i t ht
    have hskip := hc.skip ht
    have hskipSize := Cursor.size_skip ht
    refine follows_look_bind hc ht (.ite (fun _ => ?_) fun _ => follows_primary fuel hc (by omega))
    refine follows_advance_bind ((follows_unary fuel hskip (by omega)).bind fun operand position' hoperand => ?_)
    exact follows_pure hoperand rfl (by omega)
  · rename_i ht
    exact follows_look_bind hc ht (follows_primary fuel hc (by omega))

theorem follows_primary (fuel : Nat) {position credit : Nat} {c : Cursor} (hc : c.IsAt tokens position)
    (hfuel : 21 * c.size < fuel) :
    Follows tokens position credit (credit + 1) (Parser.primary c) (primary fuel) := by
  obtain ⟨fuel, rfl⟩ := Nat.exists_eq_add_one.mpr (Nat.zero_lt_of_lt hfuel)
  rw [Parser.primary, primary]
  split
  · rename_i ht
    exact follows_look_bind hc ht (follows_fail hc rfl)
  · rename_i t ht
    have hskip := hc.skip ht
    have hskipSize := Cursor.size_skip ht
    refine follows_look_bind hc ht (follows_advance_bind ?_)
    refine (follows_base fuel t hskip (by omega)).bind fun first position' hfirst => ?_
    have hfewer := first.fewer
    exact (follows_methods fuel first.value hfirst (by omega)).weaken fun p => ⟨_, rfl, rfl, rfl⟩

/-- The walk over what a token starts follows the parser. -/
theorem follows_base (fuel : Nat) (t : Token) {position credit : Nat} {c : Cursor} (hc : c.IsAt tokens position)
    (hfuel : 21 * c.size + 20 < fuel) :
    Follows tokens position credit credit (Parser.base t c) (base fuel t) := by
  obtain ⟨fuel, rfl⟩ := Nat.exists_eq_add_one.mpr (Nat.zero_lt_of_lt hfuel)
  rw [Parser.base, base]
  cases t.kind with
  | number =>
    dsimp only
    split
    · rename_i last hlast
      have hskip := hc.skip_skip (Parser.size_skip_skip_of_rangeEnd hlast)
      refine follows_look_bind hc hlast (follows_advance_bind (follows_number_bind hskip fun low => ?_))
      exact follows_number_bind hskip fun high => follows_pure hskip rfl (by omega)
    · rename_i hlast
      exact follows_look_bind hc hlast (follows_number_bind hc fun x => follows_pure hc rfl (Nat.le_refl _))
  | quoted => exact follows_pure hc rfl (Nat.le_refl _)
  | name =>
    refine .ite (fun _ => follows_pure hc rfl (Nat.le_refl _)) fun _ => ?_
    refine .ite (fun _ => follows_pure hc rfl (Nat.le_refl _)) fun _ => ?_
    refine .ite (fun _ => follows_fail hc rfl) fun _ => ?_
    exact (follows_path fuel hc (by omega)).bind fun steps position' hsteps => follows_pure hsteps rfl (Nat.le_refl _)
  | dotted =>
    exact (follows_arguments fuel hc (by omega)).bind fun args position' hargs => follows_pure hargs rfl (Nat.le_refl _)
  | mark =>
    refine .ite (fun _ => ?_) fun _ => .ite (fun _ => ?_) fun _ => follows_fail hc rfl
    · have hrank := Expr.Level.rank_disjunction
      refine (follows_level fuel .disjunction hc (by omega)).bind fun inner position₁ hinner => ?_
      exact (follows_mark hinner ")").bind fun close position₂ hclose => follows_pure hclose rfl (by omega)
    · exact (follows_table fuel (.items []) hc (by omega)).mono (Nat.le_refl _) (Nat.le_succ _)

/-- The walk over calls on a target follows the parser. -/
theorem follows_methods (fuel : Nat) (target : Expr) {position credit : Nat} {c : Cursor} (hc : c.IsAt tokens position)
    (hfuel : 21 * c.size < fuel) :
    Follows tokens position credit credit (Parser.methods target c) (methods fuel target) := by
  obtain ⟨fuel, rfl⟩ := Nat.exists_eq_add_one.mpr (Nat.zero_lt_of_lt hfuel)
  have hsize := hc.size
  rw [Parser.methods, methods]
  refine follows_here_bind (follows_look_bind hc rfl ?_)
  split
  · rename_i t ht
    have hskip := hc.skip ht
    have hskipSize := hskip.size
    refine follows_look_bind hc ht (.ite (fun _ => ?_) fun _ => follows_pure hc rfl (Nat.le_refl _))
    refine follows_advance_bind ((follows_arguments fuel hskip (by omega)).bind fun args position' hargs => ?_)
    have hfewer := args.fewer
    have hsize' := hargs.size
    refine follows_record_bind hargs (by omega) ?_
    exact (follows_methods fuel _ hargs (by omega)).weaken fun p => ⟨_, rfl, rfl, rfl⟩
  · rename_i ht
    exact follows_look_bind hc ht (follows_pure hc rfl (Nat.le_refl _))

theorem follows_arguments (fuel : Nat) {position credit : Nat} {c : Cursor} (hc : c.IsAt tokens position)
    (hfuel : 21 * c.size + 1 < fuel) :
    Follows tokens position credit credit (Parser.arguments c) (arguments fuel) := by
  obtain ⟨fuel, rfl⟩ := Nat.exists_eq_add_one.mpr (Nat.zero_lt_of_lt hfuel)
  have hsize := hc.size
  rw [Parser.arguments, arguments]
  refine follows_here_bind (follows_look_bind hc rfl (.ite (fun _ => ?_) fun _ => follows_pure hc rfl (Nat.le_refl _)))
  refine (follows_primary fuel hc (by omega)).bind fun first position₁ hfirst => ?_
  have hfewer := first.fewer
  have hsize' := hfirst.size
  refine follows_record_bind hfirst (by omega) ?_
  exact (follows_arguments fuel hfirst (by omega)).bind fun more position₂ hmore => follows_pure hmore rfl (Nat.le_refl _)

/-- The walk between braces follows the parser. -/
theorem follows_table (fuel : Nat) (entries : Parser.Entries) {position credit : Nat} {c : Cursor}
    (hc : c.IsAt tokens position) (hfuel : 21 * c.size + 19 < fuel) :
    Follows tokens position credit (credit + 1) (Parser.table entries c) (table fuel entries) := by
  obtain ⟨fuel, rfl⟩ := Nat.exists_eq_add_one.mpr (Nat.zero_lt_of_lt hfuel)
  have hsize := hc.size
  have hrank := Expr.Level.rank_disjunction
  rw [Parser.table, table]
  refine follows_here_bind ?_
  split
  · rename_i ht
    exact follows_look_bind hc ht (follows_fail hc rfl)
  · rename_i t ht
    refine follows_look_bind hc ht (.ite (fun _ => ?_) fun _ => ?_)
    · exact follows_advance_bind (follows_pure (hc.skip ht) rfl (Nat.le_refl _))
    · split
      · rename_i key hkey
        refine follows_look_bind hc hkey (.ite (fun _ => ?_) fun _ => follows_fail hc rfl)
        have hskip := hc.skip_skip (Parser.size_skip_skip_of_pairKey hkey)
        have hskipSize := hskip.size
        refine follows_advance_bind ?_
        refine (follows_level fuel .disjunction hskip (by omega)).bind fun value position₁ hvalue => ?_
        have hfewer := value.fewer
        have hvalueSize := hvalue.size
        refine follows_skipComma_bind hvalue fun position₂ hcomma => ?_
        have hcommaSize := Parser.size_skipComma value.next
        have hsize' := hcomma.size
        refine follows_record_bind hcomma (by omega) ?_
        refine Follows.mono ?_ (Nat.le_refl _) (Nat.le_add_right (credit + 1) 2)
        exact (follows_table fuel _ hcomma (by omega)).weaken fun p => ⟨_, rfl, rfl, rfl⟩
      · rename_i hkey
        refine follows_look_bind hc hkey (.ite (fun _ => ?_) fun _ => follows_fail hc rfl)
        refine (follows_level fuel .disjunction hc (by omega)).bind fun item position₁ hitem => ?_
        have hfewer := item.fewer
        have hitemSize := hitem.size
        refine follows_skipComma_bind hitem fun position₂ hcomma => ?_
        have hcommaSize := Parser.size_skipComma item.next
        have hsize' := hcomma.size
        refine follows_record_bind hcomma (by omega) ?_
        exact (follows_table fuel _ hcomma (by omega)).weaken fun p => ⟨_, rfl, rfl, rfl⟩

end

/-- The walk over a whole expression follows the parser. -/
theorem follows_whole {fuel position credit : Nat} {c : Cursor} (hc : c.IsAt tokens position)
    (hfuel : 21 * c.size + 17 < fuel) :
    Follows tokens position credit (credit + 1) (Parser.whole c) (whole fuel) := by
  have hrank := Expr.Level.rank_disjunction
  refine (follows_level fuel .disjunction hc (by omega)).bind fun e position' he => ?_
  split
  · rename_i ht
    exact follows_look_bind he ht (follows_pure he rfl (Nat.le_refl _))
  · rename_i t ht
    exact follows_look_bind he ht (follows_fail he rfl)

end Walk

/-! ## Progress -/

/-- A walk over tokens from a position on has ended where and how a parsing function ends, which is neither before its start
nor behind the last token, and after a success not at its start. Each round of a loop has stepped over a token at least, and
there are not more rounds than tokens that were stepped over. -/
structure Walked.Progressed (tokens : List Token) (position : Nat) {n : Nat} {α : Type} (r : Except Failure (Parsed n α))
    (walked : Walked α) : Prop where
  ending : Parser.ending r = (walked.result, .ofPosition tokens walked.position)
  forward : position ≤ walked.position
  within : walked.position ≤ tokens.length
  further : ∀ a, walked.result = .ok a → position < walked.position
  rounds : ∀ round ∈ walked.rounds, round.start < round.stop ∧ round.stop ≤ tokens.length
  count : walked.rounds.length ≤ walked.position - position

namespace Walk

variable {fuel : Nat}

/-- A walk ends, and it has made progress then. -/
def Progresses (tokens : List Token) (position : Nat) {n : Nat} {α : Type} (r : Except Failure (Parsed n α)) (w : Walk α) :
    Prop :=
  ∃ walked, w tokens position = some walked ∧ walked.Progressed tokens position r

/-- A walk that follows and has earned credit has made progress. -/
theorem Follows.progresses {n : Nat} {α : Type} {r : Except Failure (Parsed n α)} {w : Walk α}
    (h : Follows tokens position 0 1 r w) : Progresses tokens position r w := by
  obtain ⟨walked, hw, h⟩ := h
  have hcount := h.count
  refine ⟨walked, hw, h.ending, h.forward, h.within, fun a ha => ?_, h.rounds, by omega⟩
  have hspare := h.spare a ha
  omega

/-- A walk over all tokens ends as the condition is read that they spell. -/
theorem exists_ofTokens (hfuel : 21 * (tokens.length + 1) ≤ fuel) :
    ∃ walked, ofTokens fuel tokens = some walked ∧ walked.result = Expr.ofTokens tokens ∧
      walked.position ≤ tokens.length ∧ walked.rounds.length ≤ tokens.length ∧
      ∀ round ∈ walked.rounds, round.start < round.stop ∧ round.stop ≤ tokens.length := by
  unfold ofTokens
  split
  · rename_i hempty
    rw [Expr.ofTokens, if_pos hempty]
    exact ⟨_, rfl, rfl, Nat.zero_le _, Nat.zero_le _, List.forall_mem_nil _⟩
  · rename_i hne
    have hc := Cursor.isAt_start tokens
    have hsize := hc.size
    have hwhole : Follows tokens 0 0 1 (Parser.whole (.start tokens)) (whole fuel) := follows_whole hc (by omega)
    obtain ⟨walked, hwalked, h⟩ := hwhole
    have hcount := h.count
    have hwithin := h.within
    refine ⟨walked, hwalked, ?_, hwithin, by omega, h.rounds⟩
    rw [Expr.ofTokens_eq_whole hne, h.ending]

end Walk

namespace Parser

/-- From every position of every list of tokens each function for expressions, and the one for tables after the opening brace,
makes progress, whether it succeeds or fails. A condition as a whole is read with no more rounds of loops than it has tokens,
and with no longer chain of calls and rounds than 21 for each token and 21 more. -/
theorem makes_progress (tokens : List Token) (fuel : Nat) (hfuel : 21 * (tokens.length + 1) ≤ fuel) :
    (∀ position ≤ tokens.length,
      (∀ l, Walk.Progresses tokens position (level l (.ofPosition tokens position)) (Walk.level fuel l)) ∧
      Walk.Progresses tokens position (unary (.ofPosition tokens position)) (Walk.unary fuel) ∧
      Walk.Progresses tokens position (primary (.ofPosition tokens position)) (Walk.primary fuel) ∧
      ∀ entries, Walk.Progresses tokens position (table entries (.ofPosition tokens position)) (Walk.table fuel entries)) ∧
    ∃ walked, Walk.ofTokens fuel tokens = some walked ∧ walked.result = Expr.ofTokens tokens ∧
      walked.position ≤ tokens.length ∧ walked.rounds.length ≤ tokens.length ∧
      ∀ round ∈ walked.rounds, round.start < round.stop ∧ round.stop ≤ tokens.length := by
  refine ⟨fun position hposition => ?_, Walk.exists_ofTokens hfuel⟩
  have hc : (Cursor.ofPosition tokens position).IsAt tokens position := ⟨rfl, hposition⟩
  have hsize := hc.size
  refine ⟨fun l => ?_, ?_, ?_, fun entries => ?_⟩
  · have hrank := l.rank_le
    exact (Walk.follows_level fuel l hc (by omega)).progresses
  · exact (Walk.follows_unary fuel hc (by omega)).progresses
  · exact (Walk.follows_primary fuel hc (by omega)).progresses
  · exact (Walk.follows_table fuel entries hc (by omega)).progresses

/-- Tokens that no text has, for they overlap and end before they start. -/
theorem makes_progress_of_method_in_table :
    let tokens : List Token := [⟨.mark, "\x7b", 9, 4⟩, ⟨.quoted, "b", 0, 7⟩, ⟨.dotted, "c", 7, 1⟩, ⟨.name, "d", 1, 1⟩,
      ⟨.mark, "\x7d", 1, 1⟩, ⟨.mark, ">>", 1, 1⟩, ⟨.name, "e", 1, 1⟩]
    (Walk.ofTokens 168 tokens).map (·.rounds) =
      some [⟨.arguments, 3, 4⟩, ⟨.methods, 2, 4⟩, ⟨.entries, 1, 4⟩, ⟨.bindings, 5, 7⟩] ∧
    (∀ position ≤ 7, ∀ l, Walk.Progresses tokens position (level l (.ofPosition tokens position)) (Walk.level 168 l)) ∧
    ∃ walked, Walk.ofTokens 168 tokens = some walked ∧ walked.result = Expr.ofTokens tokens ∧
      walked.position ≤ 7 ∧ walked.rounds.length ≤ 7 ∧
      ∀ round ∈ walked.rounds, round.start < round.stop ∧ round.stop ≤ 7 := by
  intro tokens
  have h := makes_progress tokens 168 (by decide)
  exact ⟨by cbv, fun position hposition => (h.1 position hposition).1, h.2⟩

end Parser

end ConditionLang
