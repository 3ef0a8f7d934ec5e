import ConditionLang.Expr.Parser

/-!
# What the parser reads

`Reads r a next` says that a parsing function, called at some place, gives the value `a` and goes on at `next`. For each
parsing function there is one equivalence that says from which parts its values are read, so that statements about the parser,
in either direction, need not look at how a cursor carries the proof that fewer tokens are left.
-/

namespace ConditionLang

namespace Parser

/-- A parsing function gives a value and the place after it. -/
def Reads {n : Nat} {α : Type} (r : Except Failure (Parsed n α)) (a : α) (next : Cursor) : Prop :=
  ∃ fewer, r = .ok ⟨a, next, fewer⟩

/-! ## Sequences of readers -/

section

variable {m n : Nat} {α β : Type} {a b : α} {c next : Cursor}

/-- Something is taken from the tokens ahead. -/
theorem Reads.fewer {r : Except Failure (Parsed n α)} (h : Reads r a next) : next.size < n :=
  h.1

theorem reads_ok {h : c.size < n} : Reads (.ok ⟨a, c, h⟩ : Except Failure (Parsed n α)) b next ↔ b = a ∧ next = c := by
  constructor
  · rintro ⟨_, heq⟩
    cases heq
    exact ⟨rfl, rfl⟩
  · rintro ⟨rfl, rfl⟩
    exact ⟨h, rfl⟩

/-- Nothing is read where the parser fails. -/
theorem not_reads_error {f : Failure} : ¬Reads (.error f : Except Failure (Parsed n α)) a next := by
  rintro ⟨_, heq⟩
  cases heq

/-- What is read after another value, from the place after it. -/
theorem reads_bind {r : Except Failure (Parsed m β)} {f : Parsed m β → Except Failure (Parsed n α)}
    {q : β → Cursor → Prop} (hf : ∀ v d h, Reads (f ⟨v, d, h⟩) a next ↔ q v d) :
    Reads (r >>= f) a next ↔ ∃ v d, Reads r v d ∧ q v d := by
  cases r with
  | error e => exact ⟨fun h => absurd h not_reads_error, fun ⟨_, _, h, _⟩ => absurd h not_reads_error⟩
  | ok p =>
    obtain ⟨v, d, fewer⟩ := p
    constructor
    · exact fun h => ⟨v, d, reads_ok.mpr ⟨rfl, rfl⟩, (hf v d fewer).mp h⟩
    · rintro ⟨v', d', hr, hq⟩
      obtain ⟨rfl, rfl⟩ := reads_ok.mp hr
      exact (hf _ _ fewer).mpr hq

/-- A value that is made of another one. -/
theorem reads_map {r : Except Failure (Parsed m β)} {f : Parsed m β → Except Failure (Parsed n α)} (g : β → α)
    (hf : ∀ v d h, ∃ h', f ⟨v, d, h⟩ = .ok ⟨g v, d, h'⟩) :
    Reads (r >>= f) a next ↔ ∃ v, Reads r v next ∧ a = g v := by
  have hv : ∀ v d h, Reads (f ⟨v, d, h⟩) a next ↔ a = g v ∧ next = d := by
    intro v d h
    obtain ⟨_, heq⟩ := hf v d h
    rw [heq]
    exact reads_ok
  refine (reads_bind hv).trans ⟨?_, fun ⟨v, hr, ha⟩ => ⟨v, next, hr, ha, rfl⟩⟩
  rintro ⟨v, d, hr, ha, rfl⟩
  exact ⟨v, hr, ha⟩

/-- The same value, seen from an earlier place. -/
theorem reads_weaken {r : Except Failure (Parsed m α)} {f : Parsed m α → Except Failure (Parsed n α)}
    (hf : ∀ v d h, ∃ h', f ⟨v, d, h⟩ = .ok ⟨v, d, h'⟩) : Reads (r >>= f) a next ↔ Reads r a next := by
  refine (reads_map id hf).trans ⟨?_, fun hr => ⟨a, hr, rfl⟩⟩
  rintro ⟨_, hr, rfl⟩
  exact hr

/-- The whole is read from the place after its first part. -/
theorem reads_seq {r : Except Failure (Parsed m β)} {f : Parsed m β → Except Failure (Parsed n α)} {k : Cursor → Nat}
    (g : β → (d : Cursor) → Except Failure (Parsed (k d) α))
    (hf : ∀ v d h, ∃ h', f ⟨v, d, h⟩ = g v d >>= fun whole => .ok (whole.weaken h')) :
    Reads (r >>= f) a next ↔ ∃ v d, Reads r v d ∧ Reads (g v d) a next := by
  refine reads_bind fun v d h => ?_
  obtain ⟨_, heq⟩ := hf v d h
  rw [heq]
  exact reads_weaken fun _ _ _ => ⟨_, rfl⟩

/-- What is guarded is read where the guard holds. -/
theorem reads_ite_error {q : Prop} [Decidable q] {r : Except Failure (Parsed n α)} {f : Failure} :
    Reads (if q then r else .error f) a next ↔ q ∧ Reads r a next := by
  split
  · rename_i h
    exact (and_iff_right h).symm
  · rename_i h
    exact iff_of_false not_reads_error fun hr => h hr.1

end

/-! ## The next token -/

section

variable {before : Option Nat} {t : Token} {rest : List Token} {limit : Nat} {p : Token → Prop}

theorem exists_peek_cons : (∃ u, (⟨before, t :: rest, limit⟩ : Cursor).peek? = some u ∧ p u) ↔ p t :=
  ⟨fun ⟨_, h, hp⟩ => Option.some.inj h ▸ hp, fun hp => ⟨t, rfl, hp⟩⟩

theorem not_exists_peek_nil : ¬∃ u, (⟨before, [], limit⟩ : Cursor).peek? = some u ∧ p u :=
  fun ⟨_, h, _⟩ => nomatch h

end

variable {c next : Cursor} {e : Expr}

/-! ## Marks, names and steps -/

theorem reads_mark {m : String} {u : Unit} :
    Reads (mark m c) u next ↔ ∃ t, c.peek? = some t ∧ t.isMark m = true ∧ next = c.skip := by
  obtain ⟨before, rest, limit⟩ := c
  cases rest with
  | nil => exact iff_of_false not_reads_error not_exists_peek_nil
  | cons t rest =>
    refine reads_ite_error.trans (Iff.trans ?_ exists_peek_cons.symm)
    exact and_congr_right fun _ => reads_ok.trans (and_iff_right rfl)

theorem reads_boundName {name : String} :
    Reads (boundName c) name next ↔ ∃ t, c.peek? = some t ∧ t.kind = .name ∧ name = t.text ∧ next = c.skip := by
  obtain ⟨before, rest, limit⟩ := c
  cases rest with
  | nil => exact iff_of_false not_reads_error not_exists_peek_nil
  | cons t rest =>
    refine reads_ite_error.trans (Iff.trans ?_ exists_peek_cons.symm)
    exact and_congr_right fun _ => reads_ok

/-- Names are read with commas between them. -/
theorem reads_boundNames {names : List String} :
    Reads (boundNames c) names next ↔ ∃ name d, Reads (boundName c) name d ∧
      if d.atMark "," then ∃ more, Reads (boundNames d.skip) more next ∧ names = name :: more
      else names = [name] ∧ next = d := by
  rw [boundNames]
  refine reads_bind fun name d _ => ?_
  split
  · exact reads_map (name :: ·) fun _ _ _ => ⟨_, rfl⟩
  · exact reads_ok

theorem reads_indexKey {key : String} :
    Reads (indexKey c) key next ↔
      ∃ t, c.peek? = some t ∧ (t.kind = .quoted ∨ t.kind = .number) ∧ key = t.text ∧ next = c.skip := by
  obtain ⟨before, rest, limit⟩ := c
  cases rest with
  | nil => exact iff_of_false not_reads_error not_exists_peek_nil
  | cons t rest =>
    refine reads_ite_error.trans (Iff.trans ?_ exists_peek_cons.symm)
    exact and_congr_right fun _ => reads_ok

/-- Steps are read as long as brackets or adjacent properties come next. -/
theorem reads_path {steps : List Access} :
    Reads (path c) steps next ↔
      match c.peek? with
      | some t =>
        if t.isMark "[" then
          ∃ key d, Reads (indexKey c.skip) key d ∧ ∃ u d', Reads (mark "]" d) u d' ∧
            ∃ more, Reads (path d') more next ∧ steps = .index key :: more
        else if t.kind = .dotted ∧ c.isAdjacent ∧ ¬isBuiltin t.text then
          ∃ more, Reads (path c.skip) more next ∧ steps = .property t.text :: more
        else steps = [] ∧ next = c
      | none => steps = [] ∧ next = c := by
  obtain ⟨before, rest, limit⟩ := c
  rw [path]
  cases rest with
  | nil => exact reads_ok
  | cons t rest =>
    show Reads (if t.isMark "[" = true then _ else _) steps next ↔ if t.isMark "[" = true then _ else _
    split
    · refine reads_bind fun key d _ => reads_bind fun u d' _ => ?_
      exact reads_map (Access.index key :: ·) fun _ _ _ => ⟨_, rfl⟩
    · split
      · exact reads_map (Access.property t.text :: ·) fun _ _ _ => ⟨_, rfl⟩
      · exact reads_ok

theorem reads_number {n : Nat} {α : Type} {t : Token} {place : Cursor} {f : Float → Except Failure (Parsed n α)}
    {a : α} :
    Reads (number t place >>= f) a next ↔ ∃ x, Number.read? t.text.toList = some x ∧ Reads (f x) a next := by
  unfold number
  cases Number.read? t.text.toList with
  | none => exact iff_of_false not_reads_error fun ⟨_, h, _⟩ => nomatch h
  | some x => exact ⟨fun h => ⟨x, rfl, h⟩, fun ⟨_, h, hr⟩ => Option.some.inj h ▸ hr⟩

/-! ## Expressions -/

/-- A level reads its first operand and then its chain. -/
theorem reads_level {l : Expr.Level} :
    Reads (level l c) e next ↔ ∃ left d, Reads (operand l c) left d ∧ Reads (chain l left d) e next := by
  rw [level]
  exact reads_seq (chain l) fun _ _ _ => ⟨_, rfl⟩

/-- The operands of a level are the expressions of the next tighter one. -/
theorem operand_eq {l : Expr.Level} :
    operand l c = match l.tighter? with
      | some m => level m c
      | none => unary c := by
  rw [operand]
  cases l <;> rfl

/-- A chain goes on with a binding, goes on with an operator of its level, or ends. -/
theorem reads_chain {l : Expr.Level} {left : Expr} :
    Reads (chain l left c) e next ↔
      if l = .binding ∧ c.atMark ">>" then
        ∃ names d, Reads (boundNames c.skip) names d ∧ Reads (chain l (.binding left names) d) e next
      else match operator? l c with
        | none => e = left ∧ next = c
        | some op => ∃ right d, Reads (operand l c.skip) right d ∧
          if l.chains then Reads (chain l (.binary op left right) d) e next
          else e = .binary op left right ∧ next = d := by
  rw [chain]
  split
  · exact reads_seq (fun names => chain l (.binding left names)) fun _ _ _ => ⟨_, rfl⟩
  · split
    · rename_i h
      simp only [h]
      exact reads_ok
    · rename_i op h
      simp only [h]
      refine reads_bind fun right d _ => ?_
      split
      · exact reads_weaken fun _ _ _ => ⟨_, rfl⟩
      · exact reads_ok

theorem reads_unary : Reads (unary c) e next ↔
    if c.peek?.any (·.isWord "not") then ∃ e', Reads (unary c.skip) e' next ∧ e = .negation e'
    else Reads (primary c) e next := by
  obtain ⟨before, rest, limit⟩ := c
  rw [unary]
  cases rest with
  | nil => exact Iff.rfl
  | cons t rest =>
    show Reads (if t.isWord "not" = true then _ else _) e next ↔ if t.isWord "not" = true then _ else _
    split
    · exact reads_map Expr.negation fun _ _ _ => ⟨_, rfl⟩
    · exact Iff.rfl

/-- An expression without operators is what its first token starts, and the calls on it. -/
theorem reads_primary : Reads (primary c) e next ↔
    ∃ t, c.peek? = some t ∧ ∃ e' d, Reads (base t c.skip) e' d ∧ Reads (methods e' d) e next := by
  obtain ⟨before, rest, limit⟩ := c
  rw [primary]
  cases rest with
  | nil => exact iff_of_false not_reads_error not_exists_peek_nil
  | cons t rest =>
    refine Iff.trans ?_ exists_peek_cons.symm
    exact reads_seq methods fun _ _ _ => ⟨_, rfl⟩

/-- What a token and the tokens after it give, by the kind of the token. -/
theorem reads_base {t : Token} : Reads (base t c) e next ↔
    match t.kind with
    | .number =>
      match rangeEnd? t c with
      | some last => ∃ low high, Number.read? t.text.toList = some low ∧ Number.read? last.text.toList = some high ∧
          e = .range low high ∧ next = c.skip.skip
      | none => ∃ x, Number.read? t.text.toList = some x ∧ e = .number x ∧ next = c
    | .quoted => e = .text t.text ∧ next = c
    | .name =>
      if t.text = "True" then e = .truth true ∧ next = c
      else if t.text = "False" then e = .truth false ∧ next = c
      else t.text ∉ Token.connectives ∧ ∃ steps, Reads (path c) steps next ∧ e = .reference ⟨t.text, steps⟩
    | .dotted => ∃ args, Reads (arguments c) args next ∧ e = .call t.text args
    | .mark =>
      if t.text = "(" then ∃ inner d, Reads (level .disjunction c) inner d ∧ ∃ u, Reads (mark ")" d) u next ∧ e = inner
      else if t.text = "\x7b" then Reads (table (.items []) c) e next
      else False := by
  rw [base]
  cases t.kind with
  | number =>
    dsimp only
    split
    · rename_i last hlast
      simp only [hlast]
      refine reads_number.trans ?_
      constructor
      · rintro ⟨low, hlow, hr⟩
        obtain ⟨high, hhigh, hr⟩ := reads_number.mp hr
        exact ⟨low, high, hlow, hhigh, reads_ok.mp hr⟩
      · rintro ⟨low, high, hlow, hhigh, hr⟩
        exact ⟨low, hlow, reads_number.mpr ⟨high, hhigh, reads_ok.mpr hr⟩⟩
    · rename_i hnone
      simp only [hnone]
      exact reads_number.trans (exists_congr fun x => and_congr_right fun _ => reads_ok)
  | quoted => exact reads_ok
  | name =>
    dsimp only
    split
    · exact reads_ok
    · split
      · exact reads_ok
      · split
        · rename_i hconnective
          rw [List.contains_iff_mem] at hconnective
          exact iff_of_false not_reads_error fun hr => hr.1 hconnective
        · rename_i hconnective
          rw [List.contains_iff_mem] at hconnective
          rw [and_iff_right hconnective]
          exact reads_map (fun steps => Expr.reference ⟨t.text, steps⟩) fun _ _ _ => ⟨_, rfl⟩
  | dotted => exact reads_map (Expr.call t.text) fun _ _ _ => ⟨_, rfl⟩
  | mark =>
    dsimp only
    split
    · exact reads_bind fun inner d _ => reads_map (fun _ => inner) fun _ _ _ => ⟨_, rfl⟩
    · split
      · exact Iff.rfl
      · exact iff_of_false not_reads_error id

/-- Calls are read as long as adjacent names after dots come next. -/
theorem reads_methods {target : Expr} : Reads (methods target c) e next ↔
    match c.peek? with
    | some t =>
      if t.kind = .dotted ∧ c.isAdjacent then
        ∃ args d, Reads (arguments c.skip) args d ∧ Reads (methods (.method target t.text args) d) e next
      else e = target ∧ next = c
    | none => e = target ∧ next = c := by
  obtain ⟨before, rest, limit⟩ := c
  rw [methods]
  cases rest with
  | nil => exact reads_ok
  | cons t rest =>
    show Reads (if t.kind = .dotted ∧ _ then _ else _) e next ↔ if t.kind = .dotted ∧ _ then _ else _
    split
    · exact reads_seq (fun args => methods (.method target t.text args)) fun _ _ _ => ⟨_, rfl⟩
    · exact reads_ok

/-- No method is called before a token that is no name after a dot. -/
theorem reads_methods_of_kind_ne (h : ∀ t ∈ c.peek?, t.kind ≠ .dotted) (e : Expr) : Reads (methods e c) e c := by
  rw [reads_methods]
  split
  · rename_i t ht
    rw [if_neg fun hdotted => h t ht hdotted.1]
    exact ⟨rfl, rfl⟩
  · exact ⟨rfl, rfl⟩

/-- Arguments are read as long as one starts. -/
theorem reads_arguments {args : List Expr} : Reads (arguments c) args next ↔
    if startsArgument c then
      ∃ first d, Reads (primary c) first d ∧ ∃ more, Reads (arguments d) more next ∧ args = first :: more
    else args = [] ∧ next = c := by
  rw [arguments]
  split
  · refine reads_bind fun first d _ => ?_
    exact reads_map (first :: ·) fun _ _ _ => ⟨_, rfl⟩
  · exact reads_ok

/-- Between braces, pairs or items are read up to the closing brace. -/
theorem reads_table {entries : Entries} : Reads (table entries c) e next ↔
    ∃ t, c.peek? = some t ∧
      if t.isMark "\x7d" then e = entries.toExpr ∧ next = c.skip
      else match pairKey? c with
        | some key => entries.takesPair ∧ ∃ value d, Reads (level .disjunction c.skip.skip) value d ∧
            Reads (table (entries.addPair key value) (skipComma d)) e next
        | none => entries.takesItem ∧ ∃ item d, Reads (level .disjunction c) item d ∧
            Reads (table (entries.addItem item) (skipComma d)) e next := by
  obtain ⟨before, rest, limit⟩ := c
  rw [table]
  cases rest with
  | nil => exact iff_of_false not_reads_error not_exists_peek_nil
  | cons t rest =>
    refine Iff.trans ?_ exists_peek_cons.symm
    show Reads (if t.isMark "\x7d" = true then _ else _) e next ↔ if t.isMark "\x7d" = true then _ else _
    split
    · exact reads_ok
    · split
      · rename_i key h
        simp only [h]
        refine reads_ite_error.trans (and_congr_right fun _ => ?_)
        exact reads_seq (fun value d => table (entries.addPair key value) (skipComma d)) fun _ _ _ => ⟨_, rfl⟩
      · rename_i h
        simp only [h]
        refine reads_ite_error.trans (and_congr_right fun _ => ?_)
        exact reads_seq (fun item d => table (entries.addItem item) (skipComma d)) fun _ _ _ => ⟨_, rfl⟩

end Parser

open ConditionLang.Parser

/-- Tokens spell what is read from their start if nothing is left. -/
theorem Expr.ofTokens_eq_ok_iff {tokens : List Token} (hne : tokens ≠ []) {e : Expr} :
    ofTokens tokens = .ok e ↔ ∃ next, Reads (level .disjunction (.start tokens)) e next ∧ next.peek? = none := by
  rw [ofTokens, if_neg fun h => hne (List.isEmpty_iff.mp h)]
  cases level .disjunction (Cursor.start tokens) with
  | error f => exact iff_of_false nofun fun ⟨_, h, _⟩ => not_reads_error h
  | ok p =>
    obtain ⟨value, next, fewer⟩ := p
    dsimp only
    cases hpeek : next.peek? with
    | none =>
      constructor
      · rintro ⟨⟩
        exact ⟨next, reads_ok.mpr ⟨rfl, rfl⟩, hpeek⟩
      · rintro ⟨_, h, -⟩
        rw [(reads_ok.mp h).1]
    | some t =>
      refine iff_of_false nofun fun ⟨next', h, hnone⟩ => ?_
      rw [(reads_ok.mp h).2, hpeek] at hnone
      cases hnone

/-- A text spells what its tokens spell. -/
theorem Expr.parse_eq_ok_iff {mode : LexMode} {text : List Char} {e : Expr} :
    parse mode text = .ok e ↔ ∃ tokens, tokenize mode text = .ok tokens ∧ ofTokens tokens = .ok e := by
  rw [parse]
  cases tokenize mode text with
  | error err => exact iff_of_false nofun nofun
  | ok tokens =>
    constructor
    · exact fun h => ⟨tokens, rfl, h⟩
    · rintro ⟨_, ⟨⟩, h⟩
      exact h

end ConditionLang
