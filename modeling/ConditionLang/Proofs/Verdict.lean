import Mathlib.Data.List.DropRight
import ConditionLang.Condition.Run
import ConditionLang.Proofs.Draws

/-!
# The verdict of a block

Where every line only reads and comes to a truth value, the lines that a run skips would not have changed its verdict, so
the verdict is a fold over all lines (`runFrom_eq_fold`, one line at a time by `verdict_of_isReadOnly`). An `or` line that
holds makes the verdict true whatever came before; hence only the lines after the last of these count
(`fold_combine_iff`).
-/

namespace ConditionLang

/-- A line that only reads and comes to a truth value holds if that is true, and it leaves the context as it was. -/
theorem ConditionLine.verdict_of_isReadOnly {l : ConditionLine} {ctx : Context} {b : Bool} (hread : l.expr.IsReadOnly)
    (hvalue : (l.expr.evaluate ctx).1 = .ok (.truth b)) : l.verdict ctx = (.ok b, ctx) := by
  have hbinding : l.expr.isBinding = false := (hread l.expr l.expr.self_mem_parts).1
  have heval : l.expr.evaluate ctx = (.ok (.truth b), ctx) := Prod.ext hvalue (Expr.keeps_evaluate hread ctx)
  rw [verdict, Evaluation.bind_apply, heval]
  simp only [hbinding, Bool.false_eq_true, if_false]
  rfl

namespace Block

/-- The verdict after one more line, if no line is skipped. -/
def combine (holds : ConditionLine → Bool) (verdict : Bool) (l : ConditionLine) : Bool :=
  if l.isOr then verdict || holds l else verdict && holds l

/-- The lines after the last `or` line that holds, all lines if there is none. -/
def afterLastOr (holds : ConditionLine → Bool) (lines : List ConditionLine) : List ConditionLine :=
  lines.rtakeWhile fun l => !(l.isOr && holds l)

variable {holds : ConditionLine → Bool} {ctx : Context}

/-- A run goes on with every line as if none were skipped. -/
theorem runFrom_eq_fold {lines : List ConditionLine} (hread : ∀ l ∈ lines, l.expr.IsReadOnly)
    (hholds : ∀ l ∈ lines, (l.expr.evaluate ctx).1 = .ok (.truth (holds l))) (verdict : Bool) :
    (runFrom verdict ctx lines).result = .ok (lines.foldl (combine holds) verdict) ∧
      (runFrom verdict ctx lines).context = ctx := by
  induction lines generalizing verdict with
  | nil => exact ⟨rfl, rfl⟩
  | cons l rest ih =>
    have hrest := ih (fun l' hl' => hread l' (List.mem_cons_of_mem l hl')) fun l' hl' =>
      hholds l' (List.mem_cons_of_mem l hl')
    have hl := ConditionLine.verdict_of_isReadOnly (hread l List.mem_cons_self) (hholds l List.mem_cons_self)
    rw [List.foldl_cons, runFrom]
    split
    · rename_i hskip
      have hcombine : combine holds verdict l = verdict := by
        rw [Bool.and_eq_true, Bool.not_eq_true', Bool.not_eq_true'] at hskip
        simp [combine, hskip.1, hskip.2]
      rw [hcombine]
      exact hrest verdict
    · rename_i hrun
      have hcombine : combine holds verdict l = if l.isOr then verdict || holds l else holds l := by
        cases hor : l.isOr <;> cases hverdict : verdict <;> simp_all [combine]
      rw [hl, hcombine]
      exact hrest _

/-- The fold over all lines comes to true if and only if every line that is not an `or` line holds, from the last `or` line
that holds on. -/
theorem fold_combine_iff (holds : ConditionLine → Bool) (lines : List ConditionLine) :
    lines.foldl (combine holds) true = true ↔ ∀ l ∈ afterLastOr holds lines, l.isOr = false → holds l = true := by
  induction lines using List.reverseRecOn with
  | nil => simp [afterLastOr]
  | append_singleton before l ih =>
    unfold afterLastOr at ih ⊢
    rw [List.foldl_concat, List.rtakeWhile_concat]
    cases hor : l.isOr with
    | true =>
      cases hl : holds l with
      | true => simp [combine, hor, hl]
      | false => simp [combine, hor, hl, ih, or_imp, forall_and]
    | false => simp [combine, hor, ih, or_imp, forall_and]

/-- Running a block whose lines only read and come to truth values gives the verdict that all lines together give, whether
skipped or not: true if and only if every line that is not an `or` line holds, from the last `or` line that holds on. -/
theorem run_eq_fold (lines : List ConditionLine) (ctx : Context) (holds : ConditionLine → Bool)
    (hread : ∀ l ∈ lines, l.expr.IsReadOnly)
    (hholds : ∀ l ∈ lines, (l.expr.evaluate ctx).1 = .ok (.truth (holds l))) :
    let verdict := lines.foldl (combine holds) true
    (run lines ctx).result = .ok verdict ∧ (run lines ctx).evaluated = .ok verdict ∧ (run lines ctx).matched = verdict ∧
      (verdict = true ↔ ∀ l ∈ afterLastOr holds lines, l.isOr = false → holds l = true) := by
  intro verdict
  have hresult : (run lines ctx).result = .ok verdict := (runFrom_eq_fold hread hholds true).1
  refine ⟨hresult, ?_, ?_, fold_combine_iff holds lines⟩
  · rw [Outcome.evaluated, hresult]
    rfl
  · rw [Outcome.matched, hresult]
    rfl

/-- The block `> False`, `> False`, `> or True`, `> method == "GET"` holds for a request whose method that is. -/
theorem run_eq_fold_of_revived :
    let lines : List ConditionLine := [⟨.truth false, false, 1⟩, ⟨.truth false, false, 2⟩, ⟨.truth true, true, 3⟩,
      ⟨.binary .eq (.ofName "method") (.text "GET"), false, 4⟩]
    let ctx := Context.ofRequest 1 (.ofTarget "GET" "/") (.seeded 1)
    let holds : ConditionLine → Bool := fun l => 2 < l.line
    (∀ l ∈ lines, l.expr.IsReadOnly) ∧ (∀ l ∈ lines, (l.expr.evaluate ctx).1 = .ok (.truth (holds l))) ∧
      (run lines ctx).result = .ok true := by
  intro lines ctx holds
  have hread : ∀ l ∈ lines, l.expr.IsReadOnly := by
    simp [lines, Expr.IsReadOnly, Expr.parts, Expr.ofName, Expr.isBinding, Expr.isRandomCall, Expr.calledName?]
  have hholds : ∀ l ∈ lines, (l.expr.evaluate ctx).1 = .ok (.truth (holds l)) := by
    intro l hl
    simp only [lines, List.mem_cons, List.not_mem_nil, or_false] at hl
    rcases hl with rfl | rfl | rfl | rfl
    · rfl
    · rfl
    · rfl
    · cbv
  exact ⟨hread, hholds, (run_eq_fold lines ctx holds hread hholds).1⟩

end Block

end ConditionLang
