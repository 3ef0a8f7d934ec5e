import ConditionLang.Condition.Run
import ConditionLang.Proofs.Bindings
import ConditionLang.Proofs.Draws

/-!
# Blocks that draw nothing

Only a call of a random built-in takes draws, and no lookup and no binding depends on them. So two runs of a block without such
calls, from contexts that differ in nothing but their draws, do the same and leave contexts that differ in nothing but the
same draws (`run_of_drawsNothing`): each effect of an expression has the same result in both, hence each line, and hence the
whole run (`runFrom_agrees`).
-/

namespace ConditionLang

/-- The names of the random built-ins. -/
def Builtin.randomNames : List String := ["random", "random_bool", "random_int", "random_float", "random_choice"]

/-- A name is that of a random built-in if and only if it is one of the five. -/
theorem Builtin.namesRandom_iff {name : String} : namesRandom name = true ↔ name ∈ randomNames := by
  constructor
  · intro h
    obtain ⟨b, hb, hrandom⟩ := (Option.any_eq_true _ _).mp h
    rw [← name_of_ofName? hb]
    cases b <;> first | decide | cases hrandom
  · intro h
    have hall : ∀ name ∈ randomNames, namesRandom name = true := by decide
    exact hall name h

/-- The expression calls no random built-in, nor does any part of it. -/
def Expr.DrawsNothing (e : Expr) : Prop :=
  ∀ part ∈ e.parts, ∀ name, part.calledName? = some name → name ∉ Builtin.randomNames

namespace Context

/-- Two contexts that differ in nothing but their draws, which are these. -/
structure DifferInDraws (draws draws' : Draws) (ctx ctx' : Context) : Prop where
  left : ctx.draws = draws
  right : ctx' = { ctx with draws := draws' }

variable {draws draws' : Draws} {ctx ctx' : Context}

/-- Contexts that differ in draws only look references up alike. -/
theorem DifferInDraws.lookup (h : DifferInDraws draws draws' ctx ctx') (ref : Reference) :
    ctx.lookup ref = ctx'.lookup ref := by
  rw [h.right]
  rfl

/-- Contexts that differ in draws only name the table of headers alike. -/
theorem DifferInDraws.namesHeaders (h : DifferInDraws draws draws' ctx ctx') (ref : Reference) :
    ctx.namesHeaders ref = ctx'.namesHeaders ref := by
  rw [h.right]
  rfl

/-- Contexts that differ in draws only still do after a binding. -/
theorem DifferInDraws.withBinding (h : DifferInDraws draws draws' ctx ctx') (name : String) (b : Binding) :
    DifferInDraws draws draws' (ctx.withBinding name b) (ctx'.withBinding name b) where
  left := h.left
  right := by
    rw [h.right]
    rfl

end Context

open Context Evaluation

namespace Expr

variable {draws draws' : Draws}

/-- An expression that draws nothing has no random call in it. -/
theorem isRandomCall_eq_false {e part : Expr} (h : e.DrawsNothing) (hpart : part ∈ e.parts) : part.isRandomCall = false := by
  rw [Bool.eq_false_iff]
  intro hcall
  obtain ⟨name, hname, hrandom⟩ := (Option.any_eq_true _ _).mp hcall
  exact h part hpart name hname (Builtin.namesRandom_iff.mp hrandom)

/-- By itself, an expression that is no random call agrees in contexts that differ in draws only. -/
theorem agrees_ownEffect {e : Expr} (h : e.isRandomCall = false) : e.OwnEffect (@Agrees (DifferInDraws draws draws')) := by
  have hclosed := closed_agrees (DifferInDraws draws draws')
  cases e with
  | reference ref => exact fun ctx ctx' hR => ⟨hR.lookup ref, hR⟩
  | binding value names =>
    exact agrees_bindValue (fun ref _ _ hR => hR.namesHeaders ref) (fun name b _ _ hR => hR.withBinding name b) value names
  | call name args => exact hclosed.invoke h none
  | method target name args => exact fun v => hclosed.invoke h (some v)
  | _ => trivial

/-- An expression that draws nothing has the same value whatever the draws are, and it leaves them as they are. -/
theorem agrees_evaluate {e : Expr} (h : e.DrawsNothing) : e.evaluate.Agrees (DifferInDraws draws draws') :=
  e.evaluate_of_closed (closed_agrees _) fun _ hpart => agrees_ownEffect (isRandomCall_eq_false h hpart)

end Expr

/-- What holds of the evaluation of an expression holds of the verdict of the line. -/
theorem ConditionLine.verdict_of_closed {C : (α : Type) → Evaluation α → Prop} (hC : Closed C) {l : ConditionLine}
    (h : C Value l.expr.evaluate) : C Bool l.verdict := by
  unfold verdict
  refine hC.bind h fun v => ?_
  split
  · exact hC.pure true
  · exact hC.ofExcept _

namespace Block

/-- Two runs of lines on which both agree do the same, and leave contexts related as those were that they started from. -/
theorem runFrom_agrees {R : Context → Context → Prop} {lines : List ConditionLine} (h : ∀ l ∈ lines, l.verdict.Agrees R)
    {ctx ctx' : Context} (hR : R ctx ctx') (verdict : Bool) :
    (runFrom verdict ctx lines).steps = (runFrom verdict ctx' lines).steps ∧
      (runFrom verdict ctx lines).result = (runFrom verdict ctx' lines).result ∧
      R (runFrom verdict ctx lines).context (runFrom verdict ctx' lines).context := by
  induction lines generalizing verdict ctx ctx' with
  | nil => exact ⟨rfl, rfl, hR⟩
  | cons l rest ih =>
    have hrest : ∀ l' ∈ rest, l'.verdict.Agrees R := fun l' hl' => h l' (List.mem_cons_of_mem l hl')
    rw [runFrom, runFrom]
    split
    · obtain ⟨hsteps, hend⟩ := ih hrest hR verdict
      exact ⟨congrArg (List.cons _) hsteps, hend⟩
    · obtain ⟨hsame, hleft⟩ := h l List.mem_cons_self ctx ctx' hR
      generalize l.verdict ctx = r at hsame hleft
      generalize l.verdict ctx' = r' at hsame hleft
      obtain ⟨r, left⟩ := r
      obtain ⟨r', left'⟩ := r'
      obtain rfl : r = r' := hsame
      cases r with
      | error e => exact ⟨rfl, rfl, hleft⟩
      | ok holds =>
        obtain ⟨hsteps, hend⟩ := ih hrest hleft (if l.isOr then verdict || holds else holds)
        exact ⟨congrArg (List.cons _) hsteps, hend⟩

/-- A run of a block that calls no random built-in, in a context and in the same context with other draws: both skip and
evaluate the same lines with the same verdicts, come to the same verdict or fail at the same line with the same error, and
leave the same bindings with the same marks and the draws as they were. -/
theorem run_of_drawsNothing (lines : List ConditionLine) (h : ∀ l ∈ lines, l.expr.DrawsNothing) (ctx : Context)
    (draws : Draws) :
    let one := run lines ctx
    let other := run lines { ctx with draws }
    one.result = other.result ∧ one.steps = other.steps ∧
      (∀ name, one.context.bound? name = other.context.bound? name ∧
        one.context.isHeaders name = other.context.isHeaders name) ∧
      one.context.draws = ctx.draws ∧ other.context.draws = draws ∧ other.context = { one.context with draws } := by
  intro one other
  have hlines : ∀ l ∈ lines, l.verdict.Agrees (DifferInDraws ctx.draws draws) :=
    fun l hl => l.verdict_of_closed (closed_agrees _) (Expr.agrees_evaluate (h l hl))
  have hstart : DifferInDraws ctx.draws draws ctx { ctx with draws } := ⟨rfl, rfl⟩
  obtain ⟨hsteps, hresult, hend⟩ := runFrom_agrees hlines hstart true
  have hother : other.context = { one.context with draws } := hend.right
  refine ⟨hresult, hsteps, fun name => ?_, hend.left, ?_, hother⟩
  · rw [hother]
    exact ⟨rfl, rfl⟩
  · rw [hother]

/-- The block `> headers >> h`, `> h["Id"] == "8"`, `> or x` binds a marked variable, does not hold, and then fails. -/
theorem run_of_drawsNothing_of_failure :
    let lines : List ConditionLine := [⟨.binding (.ofName "headers") ["h"], false, 1⟩,
      ⟨.binary .eq (.reference ⟨"h", [.index "Id"]⟩) (.text "8"), false, 2⟩, ⟨.ofName "x", true, 3⟩]
    let ctx := Context.ofRequest 1 ((Request.ofTarget "GET" "/").withHeader "Id" "7") (.seeded 1)
    let other := { ctx with draws := .seeded 2 }
    (∀ l ∈ lines, l.expr.DrawsNothing) ∧ (run lines ctx).result = .error ⟨3, .undefinedVariable "x"⟩ ∧
      (run lines other).result = .error ⟨3, .undefinedVariable "x"⟩ ∧ (run lines other).context.isHeaders "h" = true := by
  intro lines ctx other
  have hnothing : ∀ l ∈ lines, l.expr.DrawsNothing := by
    simp [lines, Expr.DrawsNothing, Expr.parts, Expr.ofName, Expr.calledName?]
  have hresult : (run lines ctx).result = .error ⟨3, .undefinedVariable "x"⟩ := rfl
  have hmark : (run lines ctx).context.isHeaders "h" = true := rfl
  obtain ⟨hsame, -, hbindings, -⟩ := run_of_drawsNothing lines hnothing ctx (.seeded 2)
  exact ⟨hnothing, hresult, hsame.symm.trans hresult, (hbindings "h").2.symm.trans hmark⟩

end Block

end ConditionLang
