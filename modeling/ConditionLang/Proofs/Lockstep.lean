import ConditionLang.Proofs.Reading

/-!
# Parsing the same tokens at other places

The parser looks at the kinds and texts of tokens and at whether two of them touch, but not at where they stand, and it does
not read past a closing parenthesis that it has not seen opened. So two runs over the same tokens at other places stay in
step, also if a closing parenthesis and any further tokens follow in the second (`sameOutcome_level`): every parsing function
gives the same value in both and leaves the same tokens. If nothing follows, it fails in both for the same cause.
-/

namespace ConditionLang

/-- The second list holds the tokens of the first, each at some place, and then those of `tail`. Tokens touch in one list if
they touch in the other. -/
inductive Token.Moved (tail : List Token) : List Token → List Token → Prop
  | nil : Moved tail [] tail
  | cons {t u : Token} {ts us : List Token} (kind : u.kind = t.kind) (text : u.text = t.text)
      (joint : ∀ t' ∈ ts.head?, ∀ u' ∈ us.head?, (t.stop = t'.start ↔ u.stop = u'.start)) (rest : Moved tail ts us) :
      Moved tail (t :: ts) (u :: us)

/-- The tokens start with a closing parenthesis, or there are none. -/
def Token.Closing (tail : List Token) : Prop :=
  ∀ t ∈ tail.head?, t.kind = .mark ∧ t.text = ")"

/-- The second place stands before the tokens that are left at the first, moved, and then those of `tail`. The next token
touches the one before in both or in none. -/
structure Cursor.InStep (tail : List Token) (c d : Cursor) : Prop where
  moved : Token.Moved tail c.rest d.rest
  joint : ∀ t ∈ c.peek?, ∀ u ∈ d.peek?, (c.before = some t.start ↔ d.before = some u.start)

/-- Past a token, the byte before is where the token stops. -/
theorem Cursor.before_skip {c : Cursor} {t : Token} (ht : c.peek? = some t) : c.skip.before = some t.stop := by
  obtain ⟨b, rest, limit⟩ := c
  cases rest with
  | nil => cases ht
  | cons u rest =>
    cases ht
    rfl

namespace Token

variable {t u : Token}

theorem closing_nil : Closing [] :=
  fun _ ht => nomatch ht

theorem isMark_congr (hkind : u.kind = t.kind) (htext : u.text = t.text) (m : String) : u.isMark m = t.isMark m := by
  rw [isMark, isMark, hkind, htext]

theorem isWord_congr (hkind : u.kind = t.kind) (htext : u.text = t.text) (w : String) : u.isWord w = t.isWord w := by
  rw [isWord, isWord, hkind, htext]

theorem spells_congr (hkind : u.kind = t.kind) (htext : u.text = t.text) : u.spells = t.spells := by
  funext op
  unfold spells
  split
  · exact isWord_congr hkind htext _
  · exact isWord_congr hkind htext _
  · exact isMark_congr hkind htext _

/-- The token after moved tokens is no other mark than a closing parenthesis. -/
theorem Closing.isMark_eq_false {tail : List Token} (h : Closing tail) (ht : tail.head? = some t) {m : String}
    (hm : m ≠ ")") : t.isMark m = false := by
  rw [isMark, (h t ht).2, beq_false_of_ne hm.symm, Bool.and_false]

end Token

namespace Parser

/-- Two parsing functions give the same value and stay in step. Where the first fails and nothing follows its tokens in the
second, the second fails for the same cause. -/
def SameOutcome (tail : List Token) {m n : Nat} {α : Type} (r : Except Failure (Parsed m α))
    (s : Except Failure (Parsed n α)) : Prop :=
  match r with
  | .ok p => ∃ q, s = .ok q ∧ q.value = p.value ∧ p.next.InStep tail q.next
  | .error f => tail = [] → ∃ g, s = .error g ∧ g.error.cause = f.error.cause

variable {tail : List Token} {c d : Cursor} {t u : Token} {ts us : List Token} {b b' : Option Nat} {limit limit' : Nat}

/-! ## Sequences of readers -/

section

variable {m n m' n' : Nat} {α β : Type}

/-- Readers in sequence have the same outcome if each of them has. -/
theorem SameOutcome.bind {r : Except Failure (Parsed m α)} {s : Except Failure (Parsed n α)}
    {k : Parsed m α → Except Failure (Parsed m' β)} {k' : Parsed n α → Except Failure (Parsed n' β)}
    (h : SameOutcome tail r s)
    (hk : ∀ p q, q.value = p.value → p.next.InStep tail q.next → SameOutcome tail (k p) (k' q)) :
    SameOutcome tail (r >>= k) (s >>= k') := by
  cases r with
  | ok p =>
    obtain ⟨q, rfl, hvalue, hnext⟩ := h
    exact hk p q hvalue hnext
  | error f =>
    intro htail
    obtain ⟨g, rfl, hcause⟩ := h htail
    exact ⟨g, rfl, hcause⟩

theorem sameOutcome_ok {p : Parsed m α} {q : Parsed n α} (hvalue : q.value = p.value) (hnext : p.next.InStep tail q.next) :
    SameOutcome tail (.ok p) (.ok q) :=
  ⟨q, rfl, hvalue, hnext⟩

/-- Failures for the same cause are the same outcome. -/
theorem sameOutcome_error {f g : Failure} (h : g.error.cause = f.error.cause) :
    SameOutcome tail (.error f : Except Failure (Parsed m α)) (.error g : Except Failure (Parsed n α)) :=
  fun _ => ⟨g, rfl, h⟩

/-- A failure at a token is one at the moved token. -/
theorem sameOutcome_error_at (htext : u.text = t.text) (cause : String → SyntaxError.Cause) :
    SameOutcome tail (.error (.at t cause c) : Except Failure (Parsed m α))
      (.error (.at u cause d) : Except Failure (Parsed n α)) :=
  sameOutcome_error (congrArg cause htext)

/-- Readers that decide alike have the same outcome if both branches have. -/
theorem SameOutcome.ite {P Q : Prop} [Decidable P] [Decidable Q] (hPQ : Q ↔ P) {r r' : Except Failure (Parsed m α)}
    {s s' : Except Failure (Parsed n α)} (hpos : P → SameOutcome tail r s) (hneg : ¬P → SameOutcome tail r' s') :
    SameOutcome tail (if P then r else r') (if Q then s else s') := by
  by_cases h : P
  · rw [if_pos h, if_pos (hPQ.mpr h)]
    exact hpos h
  · rw [if_neg h, if_neg (mt hPQ.mp h)]
    exact hneg h

/-- The same literal is read as the same number. -/
theorem sameOutcome_number_bind {k : Float → Except Failure (Parsed m α)} {k' : Float → Except Failure (Parsed n α)}
    (htext : u.text = t.text) (hk : ∀ x, SameOutcome tail (k x) (k' x)) :
    SameOutcome tail (number t c >>= k) (number u d >>= k') := by
  unfold number
  rw [htext]
  cases Number.read? t.text.toList with
  | none => exact sameOutcome_error_at htext _
  | some x => exact hk x

end

/-! ## The next token -/

/-- After a token the places are in step. -/
theorem inStep_skip (h : Token.Moved tail (t :: ts) (u :: us)) :
    Cursor.InStep tail (Cursor.skip ⟨b, t :: ts, limit⟩) (Cursor.skip ⟨b', u :: us, limit'⟩) := by
  cases h with
  | cons _ _ joint rest =>
    refine ⟨rest, fun t' ht' u' hu' => ?_⟩
    show some t.stop = some t'.start ↔ some u.stop = some u'.start
    rw [Option.some_inj, Option.some_inj]
    exact joint t' ht' u' hu'

/-- Where a token comes next, the moved token does. -/
theorem moved_peek? (h : Token.Moved tail c.rest d.rest) (ht : c.peek? = some t) :
    ∃ u, d.peek? = some u ∧ u.kind = t.kind ∧ u.text = t.text ∧ c.skip.InStep tail d.skip := by
  obtain ⟨b, ts, limit⟩ := c
  obtain ⟨b', us, limit'⟩ := d
  replace h : Token.Moved tail ts us := h
  cases h with
  | nil => cases ht
  | cons kind text joint rest =>
    cases ht
    exact ⟨_, rfl, kind, text, inStep_skip (.cons kind text joint rest)⟩

/-- After a mark the places are in step. -/
theorem inStep_skip_of_atMark (h : Token.Moved tail c.rest d.rest) {m : String} (hc : c.atMark m = true) :
    c.skip.InStep tail d.skip := by
  obtain ⟨t, ht, -⟩ := (Option.any_eq_true _ _).mp hc
  obtain ⟨_, -, -, -, hskip⟩ := moved_peek? h ht
  exact hskip

/-- Where the moved tokens end, the tokens after them begin. -/
theorem moved_peek?_none (h : Token.Moved tail c.rest d.rest) (hc : c.peek? = none) : d.rest = tail := by
  obtain ⟨b, ts, limit⟩ := c
  obtain ⟨b', us, limit'⟩ := d
  replace h : Token.Moved tail ts us := h
  cases h with
  | nil => rfl
  | cons _ _ _ _ => cases hc

section

variable {m n : Nat} {α : Type} {f : (t : Token) → c.peek? = some t → Except Failure (Parsed m α)}
  {f' : (u : Token) → d.peek? = some u → Except Failure (Parsed n α)} {g : c.peek? = none → Except Failure (Parsed m α)}
  {g' : d.peek? = none → Except Failure (Parsed n α)}

/-- A reader that first looks at the next token. -/
theorem sameOutcome_peek (h : Token.Moved tail c.rest d.rest) {s : Except Failure (Parsed n α)}
    (hs : s = match hu : d.peek? with | some u => f' u hu | none => g' hu)
    (hsome : ∀ t u ht hu, u.kind = t.kind → u.text = t.text → c.skip.InStep tail d.skip →
      SameOutcome tail (f t ht) (f' u hu))
    (hnone : ∀ hc, d.rest = tail → SameOutcome tail (g hc) s) :
    SameOutcome tail (match ht : c.peek? with | some t => f t ht | none => g ht) s := by
  split
  · rename_i t ht
    obtain ⟨u, hu, hkind, htext, hskip⟩ := moved_peek? h ht
    rw [hs]
    split
    · rename_i u' hu'
      cases hu.symm.trans hu'
      exact hsome t u ht hu hkind htext hskip
    · rename_i hd
      cases hu.symm.trans hd
  · rename_i hc
    exact hnone hc (moved_peek?_none h hc)

/-- A reader that needs a token. -/
theorem sameOutcome_peek_atEnd (h : Token.Moved tail c.rest d.rest) {wanted : Wanted}
    (hsome : ∀ t u ht hu, u.kind = t.kind → u.text = t.text → c.skip.InStep tail d.skip →
      SameOutcome tail (f t ht) (f' u hu)) :
    SameOutcome tail (match ht : c.peek? with | some t => f t ht | none => .error (.atEnd wanted c))
      (match hu : d.peek? with | some u => f' u hu | none => .error (.atEnd wanted d)) := by
  refine sameOutcome_peek h rfl hsome fun _ hd => ?_
  rintro rfl
  split
  · rename_i u hu
    rw [Cursor.peek?, hd] at hu
    cases hu
  · exact ⟨_, rfl, rfl⟩

/-- The cases of the next token may be told in either order. -/
theorem match_peek? (c : Cursor) (f : (t : Token) → c.peek? = some t → α) (a : α) :
    (match ht : c.peek? with | some t => f t ht | none => a) = match ht : c.peek? with | none => a | some t => f t ht := by
  split
  · rename_i hsome
    split
    · rename_i hnone
      cases hsome.symm.trans hnone
    · rename_i hsome'
      cases hsome.symm.trans hsome'
      rfl
  · rename_i hnone
    split
    · rfl
    · rename_i hsome
      cases hnone.symm.trans hsome

/-- A reader that needs a token, with the other order of the cases. -/
theorem sameOutcome_atEnd_peek (h : Token.Moved tail c.rest d.rest) {wanted : Wanted}
    (hsome : ∀ t u ht hu, u.kind = t.kind → u.text = t.text → c.skip.InStep tail d.skip →
      SameOutcome tail (f t ht) (f' u hu)) :
    SameOutcome tail (match ht : c.peek? with | none => .error (.atEnd wanted c) | some t => f t ht)
      (match hu : d.peek? with | none => .error (.atEnd wanted d) | some u => f' u hu) := by
  rw [← match_peek?, ← match_peek?]
  exact sameOutcome_peek_atEnd h hsome

end

/-- The end and a closing parenthesis. -/
theorem closing_of_peek?_none (htail : Token.Closing tail) (h : Token.Moved tail c.rest d.rest) (hc : c.peek? = none) :
    Token.Closing c.rest ∧ Token.Closing d.rest := by
  have hrest : c.rest = [] := List.head?_eq_none_iff.mp hc
  exact ⟨hrest ▸ nofun, moved_peek?_none h hc ▸ htail⟩

/-- Before a closing parenthesis or the end, no other mark comes next. -/
theorem atMark_of_closing (h : Token.Closing c.rest) {m : String} (hm : m ≠ ")") : c.atMark m = false := by
  unfold Cursor.atMark
  cases hc : c.peek? with
  | none => rfl
  | some t => exact h.isMark_eq_false hc hm

/-- A mark but the closing parenthesis stands at both places or at none. -/
theorem atMark_of_moved (htail : Token.Closing tail) (h : Token.Moved tail c.rest d.rest) {m : String} (hm : m ≠ ")") :
    d.atMark m = c.atMark m := by
  cases hc : c.peek? with
  | some t =>
    obtain ⟨u, hu, hkind, htext, -⟩ := moved_peek? h hc
    unfold Cursor.atMark
    rw [hc, hu]
    exact Token.isMark_congr hkind htext m
  | none =>
    obtain ⟨hc, hd⟩ := closing_of_peek?_none htail h hc
    rw [atMark_of_closing hc hm, atMark_of_closing hd hm]

/-- Before a closing parenthesis or the end, no operator comes next. -/
theorem operator?_of_closing (h : Token.Closing c.rest) (l : Expr.Level) : operator? l c = none := by
  unfold operator?
  cases hc : c.peek? with
  | none => rfl
  | some t =>
    refine List.find?_eq_none.mpr fun op _ hop => ?_
    obtain ⟨hkind, htext⟩ := h t hc
    have hspells : t.spells = (Token.mk .mark ")" 0 0).spells := Token.spells_congr hkind htext
    rw [hspells] at hop
    cases op <;> exact absurd hop (by decide)

/-- The same operator comes next before moved tokens. -/
theorem operator?_of_moved (htail : Token.Closing tail) (h : Token.Moved tail c.rest d.rest) (l : Expr.Level) :
    operator? l d = operator? l c := by
  cases hc : c.peek? with
  | some t =>
    obtain ⟨u, hu, hkind, htext, -⟩ := moved_peek? h hc
    unfold operator?
    rw [hc, hu]
    show l.operators.find? u.spells = l.operators.find? t.spells
    rw [Token.spells_congr hkind htext]
  | none =>
    obtain ⟨hc, hd⟩ := closing_of_peek?_none htail h hc
    rw [operator?_of_closing hc, operator?_of_closing hd]

/-- Readers that go by the operator at the place. -/
theorem sameOutcome_operator {m n : Nat} {α : Type} {l : Expr.Level} (hoperator : operator? l d = operator? l c)
    {f : (op : Operator) → operator? l c = some op → Except Failure (Parsed m α)} {p : Parsed m α}
    {f' : (op : Operator) → operator? l d = some op → Except Failure (Parsed n α)} {q : Parsed n α}
    (hsome : ∀ op h h', SameOutcome tail (f op h) (f' op h')) (hnone : SameOutcome tail (.ok p) (.ok q)) :
    SameOutcome tail (match h : operator? l c with | none => .ok p | some op => f op h)
      (match h : operator? l d with | none => .ok q | some op => f' op h) := by
  split
  · rename_i hc
    split
    · exact hnone
    · rename_i hd
      cases (hc.symm.trans hoperator.symm).trans hd
  · rename_i hc
    split
    · rename_i hd
      cases (hc.symm.trans hoperator.symm).trans hd
    · rename_i hd
      cases (hc.symm.trans hoperator.symm).trans hd
      exact hsome _ hc hd

/-- A place is adjacent to the next token if and only if the token before stops where that one starts. -/
theorem isAdjacent_iff (ht : c.peek? = some t) : c.isAdjacent = true ↔ c.before = some t.start := by
  obtain ⟨b, ts, limit⟩ := c
  unfold Cursor.isAdjacent
  rw [ht]
  cases b with
  | none => exact iff_of_false Bool.false_ne_true nofun
  | some stop => exact beq_iff_eq.trans Option.some_inj.symm

/-- Places in step are adjacent to the next token alike. -/
theorem isAdjacent_of_inStep (h : c.InStep tail d) (ht : c.peek? = some t) : d.isAdjacent = c.isAdjacent := by
  obtain ⟨u, hu, -⟩ := moved_peek? h.moved ht
  exact Bool.eq_iff_iff.mpr ((isAdjacent_iff hu).trans ((h.joint t ht u hu).symm.trans (isAdjacent_iff ht).symm))

/-- No argument starts at the end or at a closing parenthesis. -/
theorem startsArgument_of_closing (h : Token.Closing c.rest) : startsArgument c = false := by
  unfold startsArgument
  cases hc : c.peek? with
  | none => rfl
  | some t =>
    obtain ⟨hkind, htext⟩ := h t hc
    simp only [hkind, htext]
    decide

/-- At places in step an argument starts alike. -/
theorem startsArgument_of_inStep (htail : Token.Closing tail) (h : c.InStep tail d) :
    startsArgument d = startsArgument c := by
  cases hc : c.peek? with
  | some t =>
    obtain ⟨u, hu, hkind, htext, -⟩ := moved_peek? h.moved hc
    unfold startsArgument
    simp only [hc, hu, hkind, htext, isAdjacent_of_inStep h hc]
  | none =>
    obtain ⟨hc, hd⟩ := closing_of_peek?_none htail h.moved hc
    rw [startsArgument_of_closing hc, startsArgument_of_closing hd]

/-- The key of a pair is a name before `=`. -/
theorem pairKey?_eq (c : Cursor) :
    pairKey? c = c.peek?.bind fun key => if key.kind = .name ∧ c.skip.atMark "=" then some key.text else none := by
  obtain ⟨b, ts, limit⟩ := c
  match ts with
  | [] => rfl
  | [t] => exact (if_neg fun h => Bool.false_ne_true h.2).symm
  | _ :: _ :: _ => rfl

/-- After the key of a pair comes `=`. -/
theorem atMark_of_pairKey {key : String} (h : pairKey? c = some key) : c.skip.atMark "=" = true := by
  rw [pairKey?_eq] at h
  obtain ⟨t, -, ht⟩ := Option.bind_eq_some_iff.mp h
  exact (Option.ite_none_right_eq_some.mp ht).1.2

/-- The same key of a pair comes next before moved tokens. -/
theorem pairKey?_of_moved (htail : Token.Closing tail) (h : Token.Moved tail c.rest d.rest) :
    pairKey? d = pairKey? c := by
  rw [pairKey?_eq, pairKey?_eq]
  cases hc : c.peek? with
  | some t =>
    obtain ⟨u, hu, hkind, htext, hskip⟩ := moved_peek? h hc
    rw [hu]
    show (if u.kind = .name ∧ d.skip.atMark "=" = true then some u.text else none) = _
    rw [hkind, htext, atMark_of_moved htail hskip.moved (by decide)]
    rfl
  | none =>
    rw [Cursor.peek?, moved_peek?_none h hc]
    cases hd : tail.head? with
    | none => rfl
    | some u => exact if_neg fun hname => nomatch hname.1.symm.trans (htail u hd).1

/-- Readers that go by the key of a pair at the place. -/
theorem sameOutcome_pairKey {m n : Nat} {α : Type} (hkey : pairKey? d = pairKey? c)
    {f : (key : String) → pairKey? c = some key → Except Failure (Parsed m α)} {r : Except Failure (Parsed m α)}
    {f' : (key : String) → pairKey? d = some key → Except Failure (Parsed n α)} {s : Except Failure (Parsed n α)}
    (hsome : ∀ key h h', SameOutcome tail (f key h) (f' key h')) (hnone : SameOutcome tail r s) :
    SameOutcome tail (match h : pairKey? c with | some key => f key h | none => r)
      (match h : pairKey? d with | some key => f' key h | none => s) := by
  split
  · rename_i hc
    split
    · rename_i hd
      cases (hc.symm.trans hkey.symm).trans hd
      exact hsome _ hc hd
    · rename_i hd
      cases (hc.symm.trans hkey.symm).trans hd
  · rename_i hc
    split
    · rename_i hd
      cases (hc.symm.trans hkey.symm).trans hd
    · exact hnone

/-- A range goes on with two dots and a number, each of which touches the token before. -/
theorem rangeEnd?_eq_some_iff {first last : Token} (hfirst : c.before = some first.stop) :
    rangeEnd? first c = some last ↔
      c.atMark ".." ∧ c.isAdjacent ∧ c.skip.peek? = some last ∧ last.kind = .number ∧ c.skip.isAdjacent := by
  obtain ⟨b, ts, limit⟩ := c
  cases hfirst
  match ts with
  | [] => exact iff_of_false nofun fun h => Bool.false_ne_true h.1
  | [t] => exact iff_of_false nofun fun h => nomatch h.2.2.1
  | dots :: u :: rest =>
    have hdots : (Cursor.mk (some first.stop) (dots :: u :: rest) limit).isAdjacent = true ↔ dots.start = first.stop :=
      beq_iff_eq.trans eq_comm
    have hu : (Cursor.mk (some dots.stop) (u :: rest) limit).isAdjacent = true ↔ u.start = dots.stop :=
      beq_iff_eq.trans eq_comm
    show (if _ then _ else _) = some last ↔ dots.isMark ".." = true ∧ _ ∧ some u = some last ∧ _ ∧ _
    rw [hdots, Option.ite_none_right_eq_some, Option.some_inj]
    constructor
    · rintro ⟨⟨hmark, hstart, hkind, hlast⟩, rfl⟩
      exact ⟨hmark, hstart, rfl, hkind, hu.mpr hlast⟩
    · rintro ⟨hmark, hstart, rfl, hkind, hlast⟩
      exact ⟨⟨hmark, hstart, hkind, hu.mp hlast⟩, rfl⟩

/-- The last number of a range stands at both places or at none. -/
theorem rangeEnd?_of_inStep (htail : Token.Closing tail) (h : c.InStep tail d) (ht : c.before = some t.stop)
    (hu : d.before = some u.stop) :
    match rangeEnd? t c with
    | some last => ∃ last', rangeEnd? u d = some last' ∧ last'.text = last.text ∧ c.skip.skip.InStep tail d.skip.skip
    | none => rangeEnd? u d = none := by
  have hdots : d.atMark ".." = c.atMark ".." := atMark_of_moved htail h.moved (by decide)
  have hadjacent : ∀ {dots : Token}, c.peek? = some dots → d.isAdjacent = c.isAdjacent := isAdjacent_of_inStep h
  cases hend : rangeEnd? t c with
  | some last =>
    obtain ⟨hmark, hjoint, hlast, hkind, hjoint'⟩ := (rangeEnd?_eq_some_iff ht).mp hend
    obtain ⟨dots, hpeek, -⟩ := (Option.any_eq_true _ _).mp hmark
    obtain ⟨_, -, -, -, hskip⟩ := moved_peek? h.moved hpeek
    obtain ⟨last', hlast', hkind', htext, hnext⟩ := moved_peek? hskip.moved hlast
    refine ⟨last', (rangeEnd?_eq_some_iff hu).mpr ⟨hdots.trans hmark, ?_, hlast', hkind'.trans hkind, ?_⟩, htext, hnext⟩
    · exact (hadjacent hpeek).trans hjoint
    · exact (isAdjacent_of_inStep hskip hlast).trans hjoint'
  | none =>
    refine Option.eq_none_iff_forall_ne_some.mpr fun last' hend' => ?_
    obtain ⟨hmark, hjoint, hlast', hkind, hjoint'⟩ := (rangeEnd?_eq_some_iff hu).mp hend'
    obtain ⟨dots, hpeek, -⟩ := (Option.any_eq_true _ _).mp (hdots.symm.trans hmark)
    obtain ⟨_, -, -, -, hskip⟩ := moved_peek? h.moved hpeek
    cases hlast : c.skip.peek? with
    | some last =>
      obtain ⟨_, hpeek', hkind', -⟩ := moved_peek? hskip.moved hlast
      cases hpeek'.symm.trans hlast'
      have hsome := (rangeEnd?_eq_some_iff ht).mpr ⟨hdots.symm.trans hmark, (hadjacent hpeek).symm.trans hjoint, hlast,
        hkind'.symm.trans hkind, (isAdjacent_of_inStep hskip hlast).symm.trans hjoint'⟩
      cases hend.symm.trans hsome
    | none =>
      rw [Cursor.peek?, moved_peek?_none hskip.moved hlast] at hlast'
      cases (htail last' hlast').1.symm.trans hkind

/-- Past an optional comma the tokens are moved ones. -/
theorem moved_skipComma (htail : Token.Closing tail) (h : Token.Moved tail c.rest d.rest) :
    Token.Moved tail (skipComma c).rest (skipComma d).rest := by
  unfold skipComma
  rw [atMark_of_moved htail h (by decide)]
  split
  · rename_i hcomma
    exact (inStep_skip_of_atMark h hcomma).moved
  · exact h

/-! ## Marks, names and steps -/

theorem sameOutcome_mark (h : Token.Moved tail c.rest d.rest) (m : String) : SameOutcome tail (mark m c) (mark m d) := by
  refine sameOutcome_peek_atEnd h fun t u _ _ kind text hskip => ?_
  refine SameOutcome.ite (by rw [Token.isMark_congr kind text]) (fun _ => ?_) fun _ => ?_
  · exact sameOutcome_ok rfl hskip
  · exact sameOutcome_error_at text _

theorem sameOutcome_boundName (h : Token.Moved tail c.rest d.rest) : SameOutcome tail (boundName c) (boundName d) := by
  refine sameOutcome_peek_atEnd h fun t u _ _ kind text hskip => ?_
  refine SameOutcome.ite (by rw [kind]) (fun _ => ?_) fun _ => ?_
  · exact sameOutcome_ok text hskip
  · exact sameOutcome_error_at text _

theorem sameOutcome_boundNames (htail : Token.Closing tail) (c d : Cursor) (h : Token.Moved tail c.rest d.rest) :
    SameOutcome tail (boundNames c) (boundNames d) := by
  rw [boundNames.eq_def c, boundNames.eq_def d]
  refine (sameOutcome_boundName h).bind fun p q hvalue hnext => ?_
  have hcomma : q.next.atMark "," = p.next.atMark "," := atMark_of_moved htail hnext.moved (by decide)
  by_cases hmore : p.next.atMark "," = true
  · rw [dif_pos hmore, dif_pos (hcomma.trans hmore)]
    have hfewer := p.fewer
    have hskip := Cursor.size_skip_of_atMark hmore
    obtain ⟨t, ht, -⟩ := (Option.any_eq_true _ _).mp hmore
    obtain ⟨_, -, -, -, hnext'⟩ := moved_peek? hnext.moved ht
    refine (sameOutcome_boundNames htail p.next.skip q.next.skip hnext'.moved).bind fun p' q' hvalue' hnext'' => ?_
    exact sameOutcome_ok (congr (congrArg List.cons hvalue) hvalue') hnext''
  · rw [dif_neg hmore, dif_neg (hcomma ▸ hmore)]
    exact sameOutcome_ok (congrArg (fun name => [name]) hvalue) hnext
termination_by c.size

theorem sameOutcome_indexKey (h : Token.Moved tail c.rest d.rest) : SameOutcome tail (indexKey c) (indexKey d) := by
  refine sameOutcome_peek_atEnd h fun t u _ _ kind text hskip => ?_
  refine SameOutcome.ite (by rw [kind]) (fun _ => ?_) fun _ => ?_
  · exact sameOutcome_ok text hskip
  · exact sameOutcome_error_at text _

/-- No step of a path starts at the end or at a closing parenthesis. -/
theorem path_of_closing (h : Token.Closing c.rest) : path c = .ok ⟨[], c, Nat.lt_succ_self _⟩ := by
  obtain ⟨b, ts, limit⟩ := c
  rw [path]
  cases ts with
  | nil => rfl
  | cons t ts =>
    have hopen : ¬t.isMark "[" = true := Bool.eq_false_iff.mp (h.isMark_eq_false rfl (by decide))
    show (if t.isMark "[" = true then _ else if t.kind = .dotted ∧ _ then _ else _) = _
    rw [if_neg hopen, if_neg fun hdotted => absurd (hdotted.1.symm.trans (h t rfl).1) (by decide)]

/-- The steps of a reference are read alike. -/
theorem sameOutcome_path (htail : Token.Closing tail) (c d : Cursor) (h : c.InStep tail d) :
    SameOutcome tail (path c) (path d) := by
  rw [path.eq_def c]
  refine sameOutcome_peek h.moved (path.eq_def d) (fun t u ht hu kind text hskip => ?_) fun hc hd => ?_
  · have hsize := Cursor.size_skip ht
    refine SameOutcome.ite (by rw [Token.isMark_congr kind text]) (fun _ => ?_) fun _ => ?_
    · refine (sameOutcome_indexKey hskip.moved).bind fun key key' hkey hnext => ?_
      refine (sameOutcome_mark hnext.moved "]").bind fun close close' _ hnext => ?_
      have hkeyFewer := key.fewer
      have hcloseFewer := close.fewer
      refine (sameOutcome_path htail close.next close'.next hnext).bind fun more more' hmore hnext => ?_
      exact sameOutcome_ok (congr (congrArg (List.cons ∘ Access.index) hkey) hmore) hnext
    · refine SameOutcome.ite (by rw [kind, text, isAdjacent_of_inStep h ht]) (fun _ => ?_) fun _ => ?_
      · refine (sameOutcome_path htail c.skip d.skip hskip).bind fun more more' hmore hnext => ?_
        exact sameOutcome_ok (congr (congrArg (List.cons ∘ Access.property) text) hmore) hnext
      · exact sameOutcome_ok rfl h
  · rw [path_of_closing (hd ▸ htail)]
    exact sameOutcome_ok rfl h
termination_by c.size

/-! ## Expressions -/

/-- No method is called at the end or at a closing parenthesis. -/
theorem methods_of_closing (h : Token.Closing c.rest) (target : Expr) :
    methods target c = .ok ⟨target, c, Nat.lt_succ_self _⟩ := by
  rw [methods]
  split
  · rename_i t ht
    rw [if_neg fun hdotted => nomatch hdotted.1.symm.trans (h t ht).1]
  · rfl

/-- Before a closing parenthesis or the end, no negation is read. -/
theorem unary_of_closing (h : Token.Closing c.rest) : unary c = primary c := by
  rw [unary]
  split
  · rename_i t ht
    have hnot : t.isWord "not" = false := by
      rw [Token.isWord, (h t ht).1]
      rfl
    exact if_neg (Bool.eq_false_iff.mp hnot)
  · rfl

mutual

/-- An expression of a level is read alike. -/
theorem sameOutcome_level (htail : Token.Closing tail) (l : Expr.Level) (c d : Cursor)
    (h : Token.Moved tail c.rest d.rest) : SameOutcome tail (level l c) (level l d) := by
  rw [level.eq_def l c, level.eq_def l d]
  refine (sameOutcome_operand htail l c d h).bind fun left left' hleft hnext => ?_
  have hfewer := left.fewer
  rw [hleft]
  refine (sameOutcome_chain htail l left.value left.next left'.next hnext).bind fun whole whole' hwhole hnext => ?_
  exact sameOutcome_ok hwhole hnext
termination_by (c.size, 2 * l.rank + 3)

theorem sameOutcome_operand (htail : Token.Closing tail) (l : Expr.Level) (c d : Cursor)
    (h : Token.Moved tail c.rest d.rest) : SameOutcome tail (operand l c) (operand l d) := by
  rw [operand_eq, operand_eq]
  split
  · rename_i m hm
    have := Expr.Level.rank_tighter hm
    exact sameOutcome_level htail m c d h
  · exact sameOutcome_unary htail c d h
termination_by (c.size, 2 * l.rank + 2)

/-- A chain of operators is read alike. -/
theorem sameOutcome_chain (htail : Token.Closing tail) (l : Expr.Level) (left : Expr) (c d : Cursor)
    (h : c.InStep tail d) : SameOutcome tail (chain l left c) (chain l left d) := by
  rw [chain.eq_def l left c, chain.eq_def l left d]
  have hmark : d.atMark ">>" = c.atMark ">>" := atMark_of_moved htail h.moved (by decide)
  by_cases hb : l = .binding ∧ c.atMark ">>" = true
  · rw [dif_pos hb, dif_pos ⟨hb.1, hmark.trans hb.2⟩]
    have hsize := Cursor.size_skip_of_atMark hb.2
    have hskip := inStep_skip_of_atMark h.moved hb.2
    refine (sameOutcome_boundNames htail c.skip d.skip hskip.moved).bind fun names names' hnames hnext => ?_
    have hfewer := names.fewer
    rw [hnames]
    refine (sameOutcome_chain htail l (.binding left names.value) names.next names'.next hnext).bind
      fun whole whole' hwhole hnext => ?_
    exact sameOutcome_ok hwhole hnext
  · rw [dif_neg hb, dif_neg (hmark ▸ hb)]
    have hoperator := operator?_of_moved htail h.moved l
    refine sameOutcome_operator hoperator (fun op hc hd => ?_) (sameOutcome_ok rfl h)
    have hsize := size_skip_of_operator hc
    obtain ⟨t, ht, -⟩ := Option.bind_eq_some_iff.mp hc
    obtain ⟨_, -, -, -, hskip⟩ := moved_peek? h.moved ht
    refine (sameOutcome_operand htail l c.skip d.skip hskip.moved).bind fun right right' hright hnext => ?_
    have hfewer := right.fewer
    rw [hright]
    refine SameOutcome.ite Iff.rfl (fun _ => ?_) fun _ => ?_
    · refine (sameOutcome_chain htail l (.binary op left right.value) right.next right'.next hnext).bind
        fun whole whole' hwhole hnext => ?_
      exact sameOutcome_ok hwhole hnext
    · exact sameOutcome_ok rfl hnext
termination_by (c.size, 0)

theorem sameOutcome_unary (htail : Token.Closing tail) (c d : Cursor) (h : Token.Moved tail c.rest d.rest) :
    SameOutcome tail (unary c) (unary d) := by
  rw [unary.eq_def c]
  refine sameOutcome_peek h (unary.eq_def d) (fun t u ht hu kind text hskip => ?_) fun hc hd => ?_
  · have hsize := Cursor.size_skip ht
    refine SameOutcome.ite (by rw [Token.isWord_congr kind text]) (fun _ => ?_) fun _ => ?_
    · refine (sameOutcome_unary htail c.skip d.skip hskip.moved).bind fun e e' he hnext => ?_
      exact sameOutcome_ok (congrArg Expr.negation he) hnext
    · exact sameOutcome_primary htail c d h
  · rw [unary_of_closing (hd ▸ htail)]
    exact sameOutcome_primary htail c d h
termination_by (c.size, 1)

theorem sameOutcome_primary (htail : Token.Closing tail) (c d : Cursor) (h : Token.Moved tail c.rest d.rest) :
    SameOutcome tail (primary c) (primary d) := by
  rw [primary.eq_def c, primary.eq_def d]
  refine sameOutcome_atEnd_peek h fun t u ht hu kind text hskip => ?_
  have hsize := Cursor.size_skip ht
  have hstart := sameOutcome_base htail t u c.skip d.skip kind text (Cursor.before_skip ht) (Cursor.before_skip hu) hskip
  refine hstart.bind fun first first' hfirst hnext => ?_
  have hfewer := first.fewer
  rw [hfirst]
  refine (sameOutcome_methods htail first.value first.next first'.next hnext).bind fun whole whole' hwhole hnext => ?_
  exact sameOutcome_ok hwhole hnext
termination_by (c.size, 0)

/-- What a token starts is read alike. -/
theorem sameOutcome_base (htail : Token.Closing tail) (t u : Token) (c d : Cursor) (kind : u.kind = t.kind)
    (text : u.text = t.text) (ht : c.before = some t.stop) (hu : d.before = some u.stop) (h : c.InStep tail d) :
    SameOutcome tail (base t c) (base u d) := by
  rw [base.eq_def t c, base.eq_def u d, kind]
  cases t.kind with
  | number =>
    have hend := rangeEnd?_of_inStep htail h ht hu
    dsimp only
    split
    · rename_i last hc
      simp only [hc] at hend
      obtain ⟨last', hd, text', hnext⟩ := hend
      split
      · rename_i last'' hd'
        cases hd.symm.trans hd'
        refine sameOutcome_number_bind text fun low => sameOutcome_number_bind text' fun high => ?_
        exact sameOutcome_ok rfl hnext
      · rename_i hd'
        cases hd.symm.trans hd'
    · rename_i hc
      simp only [hc] at hend
      split
      · rename_i hd
        cases hend.symm.trans hd
      · exact sameOutcome_number_bind text fun x => sameOutcome_ok rfl h
  | quoted => exact sameOutcome_ok (congrArg Expr.text text) h
  | name =>
    rw [text]
    refine SameOutcome.ite Iff.rfl (fun _ => sameOutcome_ok rfl h) fun _ => ?_
    refine SameOutcome.ite Iff.rfl (fun _ => sameOutcome_ok rfl h) fun _ => ?_
    refine SameOutcome.ite Iff.rfl (fun _ => sameOutcome_error_at text _) fun _ => ?_
    refine (sameOutcome_path htail c d h).bind fun steps steps' hsteps hnext => ?_
    exact sameOutcome_ok (congrArg (fun path => Expr.reference ⟨t.text, path⟩) hsteps) hnext
  | dotted =>
    rw [text]
    refine (sameOutcome_arguments htail c d h).bind fun args args' hargs hnext => ?_
    exact sameOutcome_ok (congrArg (Expr.call t.text) hargs) hnext
  | mark =>
    rw [text]
    refine SameOutcome.ite Iff.rfl (fun _ => ?_) fun _ => ?_
    · refine (sameOutcome_level htail .disjunction c d h.moved).bind fun inner inner' hinner hnext => ?_
      refine (sameOutcome_mark hnext.moved ")").bind fun close close' _ hnext => ?_
      exact sameOutcome_ok hinner hnext
    · refine SameOutcome.ite Iff.rfl (fun _ => ?_) fun _ => sameOutcome_error_at text _
      exact sameOutcome_table htail (.items []) c d h.moved
termination_by (c.size, 20)

/-- Calls on a target are read alike. -/
theorem sameOutcome_methods (htail : Token.Closing tail) (target : Expr) (c d : Cursor) (h : c.InStep tail d) :
    SameOutcome tail (methods target c) (methods target d) := by
  rw [methods.eq_def target c]
  refine sameOutcome_peek h.moved (methods.eq_def target d) (fun t u ht hu kind text hskip => ?_) fun hc hd => ?_
  · have hsize := Cursor.size_skip ht
    refine SameOutcome.ite (by rw [kind, isAdjacent_of_inStep h ht]) (fun _ => ?_) fun _ => sameOutcome_ok rfl h
    refine (sameOutcome_arguments htail c.skip d.skip hskip).bind fun args args' hargs hnext => ?_
    have hfewer := args.fewer
    rw [text, hargs]
    refine (sameOutcome_methods htail (.method target t.text args.value) args.next args'.next hnext).bind
      fun whole whole' hwhole hnext => ?_
    exact sameOutcome_ok hwhole hnext
  · rw [methods_of_closing (hd ▸ htail)]
    exact sameOutcome_ok rfl h
termination_by (c.size, 0)

theorem sameOutcome_arguments (htail : Token.Closing tail) (c d : Cursor) (h : c.InStep tail d) :
    SameOutcome tail (arguments c) (arguments d) := by
  rw [arguments.eq_def c, arguments.eq_def d]
  refine SameOutcome.ite (by rw [startsArgument_of_inStep htail h]) (fun _ => ?_) fun _ => sameOutcome_ok rfl h
  refine (sameOutcome_primary htail c d h.moved).bind fun first first' hfirst hnext => ?_
  have hfewer := first.fewer
  refine (sameOutcome_arguments htail first.next first'.next hnext).bind fun more more' hmore hnext => ?_
  exact sameOutcome_ok (congr (congrArg List.cons hfirst) hmore) hnext
termination_by (c.size, 1)

/-- What stands between braces is read alike. -/
theorem sameOutcome_table (htail : Token.Closing tail) (entries : Entries) (c d : Cursor)
    (h : Token.Moved tail c.rest d.rest) : SameOutcome tail (table entries c) (table entries d) := by
  rw [table.eq_def entries c, table.eq_def entries d]
  refine sameOutcome_atEnd_peek h fun t u ht hu kind text hskip => ?_
  have hsize := Cursor.size_skip ht
  refine SameOutcome.ite (by rw [Token.isMark_congr kind text]) (fun _ => sameOutcome_ok rfl hskip) fun _ => ?_
  refine sameOutcome_pairKey (pairKey?_of_moved htail h) (fun key hc hd => ?_) ?_
  · refine SameOutcome.ite Iff.rfl (fun _ => ?_) fun _ => sameOutcome_error_at text _
    have hkey := size_skip_skip_of_pairKey hc
    have hskip' := inStep_skip_of_atMark hskip.moved (atMark_of_pairKey hc)
    refine (sameOutcome_level htail .disjunction c.skip.skip d.skip.skip hskip'.moved).bind
      fun value value' hvalue hnext => ?_
    have hfewer := value.fewer
    have hcomma := size_skipComma value.next
    rw [hvalue]
    refine (sameOutcome_table htail (entries.addPair key value.value) (skipComma value.next) (skipComma value'.next)
      (moved_skipComma htail hnext.moved)).bind fun whole whole' hwhole hnext => ?_
    exact sameOutcome_ok hwhole hnext
  · refine SameOutcome.ite Iff.rfl (fun _ => ?_) fun _ => sameOutcome_error_at text _
    refine (sameOutcome_level htail .disjunction c d h).bind fun item item' hitem hnext => ?_
    have hfewer := item.fewer
    have hcomma := size_skipComma item.next
    rw [hitem]
    refine (sameOutcome_table htail (entries.addItem item.value) (skipComma item.next) (skipComma item'.next)
      (moved_skipComma htail hnext.moved)).bind fun whole whole' hwhole hnext => ?_
    exact sameOutcome_ok hwhole hnext
termination_by (c.size, 19)

end

end Parser

namespace Expr

open ConditionLang.Parser

variable {ts us : List Token}

/-- The same tokens at other places spell the same expression, or fail for the same cause. -/
theorem ofTokens_of_moved (h : Token.Moved [] ts us) :
    (∃ e, ofTokens ts = .ok e ∧ ofTokens us = .ok e) ∨
      ∃ err err', ofTokens ts = .error err ∧ ofTokens us = .error err' ∧ err'.cause = err.cause := by
  cases h with
  | nil => exact .inl ⟨_, rfl, rfl⟩
  | @cons t u ts us kind text joint rest =>
    have hsame := sameOutcome_level Token.closing_nil .disjunction (.start (t :: ts)) (.start (u :: us))
      (.cons kind text joint rest)
    rw [ofTokens, ofTokens, if_neg (List.cons_ne_nil _ _ ∘ List.isEmpty_iff.mp),
      if_neg (List.cons_ne_nil _ _ ∘ List.isEmpty_iff.mp)]
    cases hread : level .disjunction (.start (t :: ts)) with
    | error f =>
      rw [hread] at hsame
      obtain ⟨g, hread', hcause⟩ := hsame rfl
      rw [hread']
      exact .inr ⟨_, _, rfl, rfl, hcause⟩
    | ok p =>
      rw [hread] at hsame
      obtain ⟨q, hread', hvalue, hnext⟩ := hsame
      rw [hread']
      dsimp only
      cases hpeek : p.next.peek? with
      | none =>
        have hrest := moved_peek?_none hnext.moved hpeek
        rw [Cursor.peek?, hrest]
        exact .inl ⟨_, rfl, congrArg Except.ok hvalue⟩
      | some t' =>
        obtain ⟨u', hpeek', -, htext, -⟩ := moved_peek? hnext.moved hpeek
        rw [hpeek']
        exact .inr ⟨_, _, rfl, rfl, congrArg SyntaxError.Cause.unexpectedToken htext⟩

/-- What tokens spell is read from the same tokens at other places, up to a closing parenthesis after them. -/
theorem reads_of_ofTokens {tail : List Token} {d : Cursor} {e : Expr} (htail : Token.Closing tail) (hne : ts ≠ [])
    (h : ofTokens ts = .ok e) (hmoved : Token.Moved tail ts d.rest) :
    ∃ next, Reads (level .disjunction d) e next ∧ next.rest = tail := by
  obtain ⟨next, ⟨fewer, hread⟩, hnone⟩ := (ofTokens_eq_ok_iff hne).mp h
  have hsame := sameOutcome_level htail .disjunction (.start ts) d hmoved
  rw [hread] at hsame
  obtain ⟨⟨_, next', fewer'⟩, hread', rfl, hnext⟩ := hsame
  exact ⟨next', ⟨fewer', hread'⟩, moved_peek?_none hnext.moved hnone⟩

end Expr

end ConditionLang
