import ConditionLang.Condition.Run
import ConditionLang.Proofs.Evaluation

/-!
# Blocks of plain lines

A block without `or` lines means the conjunction of its lines, although its run stops evaluating at the first line that is
false and the conjunction evaluates all of its operands. The two come to true together and then leave the same context, and
where the conjunction is false so is the verdict (`run_eq_conjunction`).

The conjunction grows at its right end while the run goes on to the next line. So what is carried along the lines is the value
of the conjunction so far, which is the verdict the rest of the block is run from.
-/

namespace ConditionLang

/-- The values of which `and` makes a truth value. -/
theorem Operator.apply_and_eq_ok_iff {left right : Value} {b : Bool} :
    Operator.and.apply left right = .ok (.truth b) ↔ ∃ x y, left = .truth x ∧ right = .truth y ∧ b = (x && y) := by
  cases left <;> cases right <;> simp [apply, Value.truth?, eq_comm]

namespace Expr

/-- Expressions joined by `and`, grouped from the left. -/
def conjunction (first : Expr) (rest : List Expr) : Expr :=
  rest.foldl (.binary .and) first

/-- An `and` comes to a truth value if and only if both operands do, the right one in the context that the left one left. -/
theorem evaluate_and_eq_ok_iff {left right : Expr} {ctx ctx' : Context} {b : Bool} :
    (binary .and left right).evaluate ctx = (.ok (.truth b), ctx') ↔
      ∃ x y mid, left.evaluate ctx = (.ok (.truth x), mid) ∧ right.evaluate mid = (.ok (.truth y), ctx') ∧
        b = (x && y) := by
  rw [evaluate]
  constructor
  · intro h
    obtain ⟨v, mid, hleft, h⟩ := Evaluation.bind_eq_ok_iff.mp h
    obtain ⟨w, last, hright, h⟩ := Evaluation.bind_eq_ok_iff.mp h
    obtain ⟨happly, rfl⟩ := Prod.mk.inj h
    obtain ⟨x, y, rfl, rfl, rfl⟩ := Operator.apply_and_eq_ok_iff.mp happly
    exact ⟨x, y, mid, hleft, hright, rfl⟩
  · rintro ⟨x, y, mid, hleft, hright, rfl⟩
    exact Evaluation.bind_eq_ok_iff.mpr ⟨_, mid, hleft, Evaluation.bind_eq_ok_iff.mpr ⟨_, ctx', hright, rfl⟩⟩

end Expr

namespace ConditionLine

/-- The line is no alternative, and it is not a binding as a whole. -/
def IsPlain (l : ConditionLine) : Prop :=
  l.isOr = false ∧ l.expr.isBinding = false

variable {l : ConditionLine} {ctx mid : Context} {b : Bool}

/-- The verdict of a line that is no binding is the truth value of its expression. -/
theorem verdict_eq_ok_iff (h : l.expr.isBinding = false) :
    l.verdict ctx = (.ok b, mid) ↔ l.expr.evaluate ctx = (.ok (.truth b), mid) := by
  rw [verdict, Evaluation.bind_apply]
  rcases l.expr.evaluate ctx with ⟨v | v, last⟩
  · simp
  · cases v <;> simp [h, Evaluation.ofExcept]

end ConditionLine

namespace Block

variable {l : ConditionLine} {lines rest : List ConditionLine} {ctx ctx' mid : Context} {x b : Bool}

/-- Once the verdict is false, plain lines are skipped. -/
theorem runFrom_false (h : ∀ l ∈ lines, l.IsPlain) : (runFrom false ctx lines).result = .ok false := by
  induction lines with
  | nil => rfl
  | cons l rest ih =>
    rw [runFrom, (h l List.mem_cons_self).1]
    exact ih fun l' hl' => h l' (List.mem_cons_of_mem l hl')

/-- A plain line that is not skipped hands its verdict to the rest of the block. -/
theorem runFrom_true_cons (rest : List ConditionLine) (hl : l.isOr = false) (h : l.verdict ctx = (.ok b, mid)) :
    (runFrom true ctx (l :: rest)).result = (runFrom b mid rest).result ∧
      (runFrom true ctx (l :: rest)).context = (runFrom b mid rest).context := by
  rw [runFrom, hl, h]
  exact ⟨rfl, rfl⟩

/-- A run that comes to a verdict has evaluated its first line. -/
theorem exists_verdict_of_runFrom_true_cons (hl : l.isOr = false) (h : (runFrom true ctx (l :: rest)).result = .ok b) :
    ∃ y mid, l.verdict ctx = (.ok y, mid) := by
  rw [runFrom, hl] at h
  rcases hverdict : l.verdict ctx with ⟨e | y, mid⟩
  · rw [hverdict] at h
    cases h
  · exact ⟨y, mid, rfl⟩

/-- Where the conjunction comes to a truth value, the rest of the block comes to the same from the value of the part so far,
and the context is the same unless the run has skipped lines. -/
theorem runFrom_of_evaluate_conjunction {first : Expr} (hplain : ∀ l ∈ lines, l.IsPlain)
    (h : (Expr.conjunction first (lines.map (·.expr))).evaluate ctx = (.ok (.truth b), ctx')) :
    ∃ x mid, first.evaluate ctx = (.ok (.truth x), mid) ∧ (runFrom x mid lines).result = .ok b ∧
      (b = true → (runFrom x mid lines).context = ctx') := by
  induction lines generalizing first with
  | nil => exact ⟨b, ctx', h, rfl, fun _ => rfl⟩
  | cons l rest ih =>
    have hl := hplain l List.mem_cons_self
    have hrest : ∀ l' ∈ rest, l'.IsPlain := fun l' hl' => hplain l' (List.mem_cons_of_mem l hl')
    obtain ⟨xy, last, hboth, hresult, hcontext⟩ := @ih (.binary .and first l.expr) hrest h
    obtain ⟨x, y, mid, hfirst, hline, rfl⟩ := Expr.evaluate_and_eq_ok_iff.mp hboth
    refine ⟨x, mid, hfirst, ?_⟩
    cases x with
    | false =>
      -- The run skips all lines from here on; the conjunction goes on, but it is false.
      obtain rfl : false = b := Except.ok.inj ((runFrom_false hrest).symm.trans hresult)
      exact ⟨runFrom_false hplain, fun hb => nomatch hb⟩
    | true =>
      obtain ⟨hsame, hsame'⟩ := runFrom_true_cons rest hl.1 ((ConditionLine.verdict_eq_ok_iff hl.2).mpr hline)
      exact ⟨hsame.trans hresult, fun hb => hsame'.trans (hcontext hb)⟩

/-- Where the rest of a block comes to true, so does the conjunction of the part so far and the rest. -/
theorem evaluate_conjunction_of_runFrom {first : Expr} (hplain : ∀ l ∈ lines, l.IsPlain)
    (hfirst : first.evaluate ctx = (.ok (.truth x), mid)) (h : (runFrom x mid lines).result = .ok true) :
    (Expr.conjunction first (lines.map (·.expr))).evaluate ctx =
      (.ok (.truth true), (runFrom x mid lines).context) := by
  induction lines generalizing first x mid with
  | nil =>
    obtain rfl : x = true := Except.ok.inj h
    exact hfirst
  | cons l rest ih =>
    have hl := hplain l List.mem_cons_self
    have hrest : ∀ l' ∈ rest, l'.IsPlain := fun l' hl' => hplain l' (List.mem_cons_of_mem l hl')
    cases x with
    | false =>
      rw [runFrom_false hplain] at h
      cases h
    | true =>
      obtain ⟨y, last, hverdict⟩ := exists_verdict_of_runFrom_true_cons hl.1 h
      obtain ⟨hsame, hsame'⟩ := runFrom_true_cons rest hl.1 hverdict
      have hline := (ConditionLine.verdict_eq_ok_iff hl.2).mp hverdict
      rw [hsame']
      exact ih hrest (Expr.evaluate_and_eq_ok_iff.mpr ⟨true, y, mid, hfirst, hline, rfl⟩) (hsame.symm.trans h)

/-- A block of plain lines against the conjunction of its lines: if one comes to true so does the other, and both leave the
same context; if the conjunction is false the block does not hold. -/
theorem run_eq_conjunction (first : ConditionLine) (rest : List ConditionLine) (ctx : Context)
    (hplain : ∀ l ∈ first :: rest, l.IsPlain) :
    let whole := Expr.conjunction first.expr (rest.map (·.expr))
    let outcome := run (first :: rest) ctx
    (∀ ctx', whole.evaluate ctx = (.ok (.truth true), ctx') → outcome.result = .ok true ∧ outcome.context = ctx') ∧
      (outcome.result = .ok true → whole.evaluate ctx = (.ok (.truth true), outcome.context)) ∧
      ((whole.evaluate ctx).1 = .ok (.truth false) → outcome.result = .ok false) := by
  intro whole outcome
  have hfirst := hplain first List.mem_cons_self
  have hrest : ∀ l ∈ rest, l.IsPlain := fun l hl => hplain l (List.mem_cons_of_mem first hl)
  have hrun : ∀ {ctx' : Context} {b : Bool}, whole.evaluate ctx = (.ok (.truth b), ctx') →
      outcome.result = .ok b ∧ (b = true → outcome.context = ctx') := by
    intro ctx' b h
    obtain ⟨x, mid, hvalue, hresult, hcontext⟩ := runFrom_of_evaluate_conjunction hrest h
    obtain ⟨hsame, hsame'⟩ :=
      runFrom_true_cons rest hfirst.1 ((ConditionLine.verdict_eq_ok_iff hfirst.2).mpr hvalue)
    exact ⟨hsame.trans hresult, fun hb => hsame'.trans (hcontext hb)⟩
  refine ⟨fun ctx' h => ⟨(hrun h).1, (hrun h).2 rfl⟩, fun h => ?_, fun h => (hrun (Prod.ext h rfl)).1⟩
  obtain ⟨x, mid, hverdict⟩ := exists_verdict_of_runFrom_true_cons hfirst.1 h
  obtain ⟨hsame, hsame'⟩ := runFrom_true_cons rest hfirst.1 hverdict
  have hvalue := (ConditionLine.verdict_eq_ok_iff hfirst.2).mp hverdict
  have hall := evaluate_conjunction_of_runFrom hrest hvalue (hsame.symm.trans h)
  exact hall.trans (congrArg (Prod.mk _) hsame'.symm)

/-- The block `> (method >> m) == "GET"`, `> .random_bool.is_boolean == (m == "GET")`, of which the first line binds and the
second draws. -/
theorem run_eq_conjunction_of_binding_and_draw :
    let first : ConditionLine := ⟨.binary .eq (.binding (.ofName "method") ["m"]) (.text "GET"), false, 1⟩
    let drawn : Expr := .method (.call "random_bool" []) "is_boolean" []
    let second : ConditionLine := ⟨.binary .eq drawn (.binary .eq (.ofName "m") (.text "GET")), false, 2⟩
    let ctx := Context.ofRequest 1 (.ofTarget "GET" "/") (.seeded 1)
    let outcome := run [first, second] ctx
    (∀ l ∈ [first, second], l.IsPlain) ∧ outcome.result = .ok true ∧
      (Expr.conjunction first.expr [second.expr]).evaluate ctx = (.ok (.truth true), outcome.context) := by
  intro first drawn second ctx outcome
  have hplain : ∀ l ∈ [first, second], l.IsPlain := by
    simp [first, second, ConditionLine.IsPlain, Expr.isBinding]
  have hresult : outcome.result = .ok true := rfl
  exact ⟨hplain, hresult, (run_eq_conjunction first [second] ctx hplain).2.1 hresult⟩

end Block

end ConditionLang
