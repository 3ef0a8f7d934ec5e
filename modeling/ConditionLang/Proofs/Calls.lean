import Mathlib.Data.List.Basic
import ConditionLang.Condition.Line
import ConditionLang.Proofs.Evaluation
import ConditionLang.Proofs.Operations

/-!
# Evaluating an expression without findings

The checker and the evaluator look at calls apart from each other: the checker at the signature and the expressions, the
evaluator at the signature and the values. An expression without findings never fails because of the shape of a call
(`evaluate_of_findings_eq_nil`).

The errors that are left are those about values (`EvalError.IsOfValues`): those of operations, and undefined variables. A
call fails with such errors only if its built-in exists and its target and the number of its arguments are right. The
induction over the expression (`failsWith_evaluate`) follows the order of evaluation.
-/

namespace ConditionLang

open Evaluation

/-! ## Errors about the shape of a call -/

namespace Fault

/-- How the message about a fault starts. -/
def opening : Fault → String
  | .targetMissing => "requires a target"
  | .targetGiven => "does not take a target"
  | .argumentCount _ => "wrong number of arguments: "
  | .outOfRange _ _ _ => "indices ["
  | .emptyRange _ _ | .emptyInterval _ _ => "min ("
  | .infiniteBound _ _ => "bounds must be finite, got ["
  | .infiniteWidth _ _ => "range ["
  | .nothingToChoose => "cannot choose from an empty table"

/-- A message starts with its opening, whatever numbers it tells after that. -/
theorem opening_prefix (c : Fault) : c.opening.toList <+: c.message.toList := by
  cases c with
  | targetMissing => exact List.prefix_rfl
  | targetGiven => exact List.prefix_rfl
  | nothingToChoose => exact List.prefix_rfl
  | _ =>
    unfold message
    simp only [String.toList_append, List.append_assoc]
    exact List.prefix_append _ _

/-- How the messages about the shape of a call start. -/
def miscallOpenings : List String :=
  ["requires a target", "does not take a target", "wrong number of arguments: "]

/-- How the messages about the values of a call start. -/
def valueOpenings : List String :=
  ["indices [", "min (", "bounds must be finite, got [", "range [", "cannot choose from an empty table"]

/-- An error that is no miscall opens its message in a way of its own. -/
theorem opening_mem {c : Fault} (hc : c.isMiscall = false) : c.opening ∈ valueOpenings := by
  cases c with
  | targetMissing | targetGiven | argumentCount _ => cases hc
  | _ => simp [opening, valueOpenings]

/-- The message about another fault does not start like one about the shape of a call. -/
theorem not_prefix_of_isMiscall {c : Fault} (hc : c.isMiscall = false) (text : String) (ht : text ∈ miscallOpenings) :
    ¬text.toList <+: c.message.toList := by
  intro hprefix
  have hne : ∀ p ∈ valueOpenings, ∀ q ∈ miscallOpenings, ¬p.toList <+: q.toList ∧ ¬q.toList <+: p.toList := by
    decide
  obtain ⟨hpq, hqp⟩ := hne _ (opening_mem hc) _ ht
  exact (List.prefix_or_prefix_of_prefix c.opening_prefix hprefix).elim hpq hqp

end Fault

/-- An error that a call of the right shape may give: no unknown function, and a fault only of a built-in that has
something against values of the right kinds. -/
def EvalError.IsOfValues : EvalError → Prop
  | .unknownFunction _ => False
  | .fault b cause => b ∈ Builtin.particular ∧ cause.isMiscall = false
  | _ => True

/-! ## Errors about values -/

/-- A result that is no error or an error about values. -/
def FailsOfValues {α : Type} (r : Except EvalError α) : Prop :=
  ∀ e, r = .error e → e.IsOfValues

/-- An error of an operation is about values. -/
theorem EvalError.IsOfOperation.isOfValues {e : EvalError} (h : e.IsOfOperation) : e.IsOfValues := by
  cases e with
  | undefinedVariable _ | unknownFunction _ => exact h.elim
  | _ => exact h

/-- What fails of an operation only fails of values only. -/
theorem FailsOfOperation.ofValues {α : Type} {r : Except EvalError α} (h : FailsOfOperation r) : FailsOfValues r :=
  fun e he => (h e he).isOfValues

namespace Context

/-- Reading a name fails of values only. -/
theorem failsOfValues_base (ctx : Context) (name : String) : FailsOfValues (ctx.base name) := by
  unfold base
  split
  · exact (failsOfOperation_ok _).ofValues
  · split
    · exact (failsOfOperation_ok _).ofValues
    · rintro e h
      cases h
      trivial

/-- Looking a reference up fails with errors about values only. -/
theorem failsOfValues_lookup (ctx : Context) (ref : Reference) : FailsOfValues (ctx.lookup ref) := by
  intro e h
  unfold lookup at h
  cases hbase : ctx.base ref.name with
  | error e' =>
    rw [hbase] at h
    cases h
    exact ctx.failsOfValues_base ref.name e hbase
  | ok found =>
    rw [hbase] at h
    exact (failsOfOperation_walk _ _ _ _ e h).isOfValues

end Context

/-- Binding fails of values only. -/
theorem failsWith_assign (names : List String) (value : Value) :
    (assign names value).FailsWith EvalError.IsOfValues := by
  unfold assign
  split
  · exact fun _ _ he => nomatch he
  · exact fun _ _ he => nomatch he
  · exact fun _ _ he => nomatch he
  · refine failsWith_ofExcept (FailsOfOperation.ofValues ?_)
    exact failsOfOperation_error trivial

/-- Binding names fails with errors about values only. -/
theorem failsWith_bindValue (source : Expr) (names : List String) (value : Value) :
    (bindValue source names value).FailsWith EvalError.IsOfValues := by
  intro ctx
  unfold bindValue
  split
  · split
    · exact (failsOfOperation_ok _).ofValues
    · exact failsWith_assign _ _ ctx
  · exact failsWith_assign _ _ ctx

/-! ## Expressions without findings -/

/-- A call without findings names a built-in, has a target if and only if the built-in takes one, and has as many
arguments as it takes. -/
theorem Check.of_callFindings_eq_nil {target : Option Expr} {name : String} {args : List Expr}
    (h : callFindings target name args = []) :
    ∃ b, Builtin.ofName? name = some b ∧ target.isSome = b.signature.requiresTarget ∧
      b.signature.acceptsCount args.length = true := by
  unfold callFindings at h
  split at h
  · cases h
  · rename_i b hb
    obtain ⟨⟨htarget, hcount⟩, -⟩ :
        (targetFindings b.signature target = [] ∧ countFindings b.signature args.length = []) ∧ _ := by
      simpa only [List.append_eq_nil_iff] using h
    refine ⟨b, hb, ?_, ?_⟩
    · unfold targetFindings at htarget
      split at htarget <;> simp_all
    · rw [Signature.acceptsCount]
      unfold countFindings at hcount
      grind

/-- A call without findings fails with errors about values only, whatever the values of its target and its arguments. -/
theorem failsWith_call {target : Option Expr} {name : String} {args : List Expr}
    (h : Check.callFindings target name args = []) {v : Option Value} (hv : v.isSome = target.isSome)
    {values : List Value} (hvalues : values.length = args.length) :
    (do settle (← ofExcept (Builtin.call name v values))).FailsWith EvalError.IsOfValues := by
  obtain ⟨b, hname, htarget, hcount⟩ := Check.of_callFindings_eq_nil h
  refine (failsWith_ofExcept ?_).bind fun _ => failsWith_settle _
  exact (Builtin.failsOfOperation_call hname (hv.trans htarget) (hvalues ▸ hcount)).ofValues

namespace Expr

mutual

/-- An expression without findings fails with errors about values only. -/
theorem failsWith_evaluate (e : Expr) (h : e.findings = []) : e.evaluate.FailsWith EvalError.IsOfValues := by
  cases e with
  | number _ | truth _ | text _ | range _ _ =>
    rw [evaluate]
    exact failsWith_pure _
  | reference ref =>
    rw [evaluate]
    exact failsWith_read fun ctx => ctx.failsOfValues_lookup ref
  | sequence items =>
    rw [findings] at h
    rw [evaluate]
    exact (failsWith_evaluateItems items h).bind fun _ => failsWith_pure _
  | dictionary pairs =>
    rw [findings] at h
    rw [evaluate]
    exact (failsWith_evaluatePairs pairs h).bind fun _ => failsWith_pure _
  | binary op left right =>
    rw [findings, List.append_eq_nil_iff] at h
    rw [evaluate]
    exact (failsWith_evaluate left h.1).bind fun _ => (failsWith_evaluate right h.2).bind fun _ =>
      failsWith_ofExcept (Operator.failsOfOperation_apply _ _ _).ofValues
  | negation operand =>
    rw [findings] at h
    rw [evaluate]
    exact (failsWith_evaluate operand h).bind fun v => failsWith_ofExcept v.failsOfOperation_negate.ofValues
  | binding value names =>
    rw [findings, List.append_eq_nil_iff] at h
    rw [evaluate]
    exact (failsWith_evaluate value h.1).bind fun _ => (failsWith_bindValue _ _ _).bind fun _ => failsWith_pure _
  | call name args =>
    rw [findings, List.append_eq_nil_iff] at h
    rw [evaluate]
    exact (failsWith_evaluateItems args h.2).bind_of_yields (evaluateItems_yields_length args) fun _ hlength =>
      failsWith_call h.1 rfl hlength
  | method target name args =>
    rw [findings, List.append_eq_nil_iff, List.append_eq_nil_iff] at h
    rw [evaluate]
    refine (failsWith_evaluate target h.1.2).bind fun _ => ?_
    -- The checker counts expressions, the call counts values: there are as many of one as of the other.
    exact (failsWith_evaluateItems args h.2).bind_of_yields (evaluateItems_yields_length args) fun _ hlength =>
      failsWith_call h.1.1 rfl hlength

theorem failsWith_evaluateItems (items : List Expr) (h : findingsOfItems items = []) :
    (evaluateItems items).FailsWith EvalError.IsOfValues := by
  cases items with
  | nil =>
    rw [evaluateItems]
    exact failsWith_pure _
  | cons item items =>
    rw [findingsOfItems, List.append_eq_nil_iff] at h
    rw [evaluateItems]
    exact (failsWith_evaluate item h.1).bind fun _ => (failsWith_evaluateItems items h.2).bind fun _ => failsWith_pure _

theorem failsWith_evaluatePairs (pairs : List (String × Expr)) (h : findingsOfPairs pairs = []) :
    (evaluatePairs pairs).FailsWith EvalError.IsOfValues := by
  cases pairs with
  | nil =>
    rw [evaluatePairs]
    exact failsWith_pure _
  | cons pair pairs =>
    obtain ⟨key, value⟩ := pair
    rw [findingsOfPairs, List.append_eq_nil_iff] at h
    rw [evaluatePairs]
    exact (failsWith_evaluate value h.1).bind fun _ => (failsWith_evaluatePairs pairs h.2).bind fun _ => failsWith_pure _

end

/-- The expressions of the lines that load have no findings. -/
theorem findings_eq_nil_of_loadLines {mode : LexMode} {texts : List (List Char)} {line : Nat}
    {lines : List ConditionLine} (h : Block.loadLines mode line texts = .ok lines) : ∀ l ∈ lines, l.expr.findings = [] := by
  induction texts generalizing line lines with
  | nil =>
    cases h
    exact fun l hl => absurd hl List.not_mem_nil
  | cons raw texts ih =>
    unfold Block.loadLines at h
    split at h
    · cases h
    · exact ih h
    · rename_i condition _
      split at h
      · cases h
      · rename_i hnone
        cases hrest : Block.loadLines mode (line + 1) texts with
        | error e =>
          rw [hrest] at h
          cases h
        | ok rest =>
          rw [hrest] at h
          cases h
          intro l hl
          rcases List.mem_cons.mp hl with rfl | hl
          · exact List.head?_eq_none_iff.mp hnone
          · exact ih hrest l hl

/-- An expression without findings, and so every line of a block that loads, never calls an unknown function, and its calls
have the targets and the numbers of arguments that the built-ins take: an error of a built-in comes from one of the four
that have something against values of the right kinds, and is not about the shape of the call. -/
theorem evaluate_of_findings_eq_nil (e : Expr)
    (h : e.findings = [] ∨ ∃ mode text lines, Block.load mode text = .ok lines ∧ ∃ l ∈ lines, l.expr = e)
    (ctx : Context) :
    (∀ name, (e.evaluate ctx).1 ≠ .error (.unknownFunction name)) ∧
    ∀ b cause, (e.evaluate ctx).1 = .error (.fault b cause) →
      b.name ∈ ["substring", "random_int", "random_float", "random_choice"] ∧
      cause.message ≠ "requires a target" ∧ cause.message ≠ "does not take a target" ∧
      ¬"wrong number of arguments: ".toList <+: cause.message.toList := by
  have hnil : e.findings = [] := by
    rcases h with h | ⟨mode, text, lines, hload, l, hl, rfl⟩
    · exact h
    · exact findings_eq_nil_of_loadLines hload l hl
  have hnames : ∀ b ∈ Builtin.particular, b.name ∈ ["substring", "random_int", "random_float", "random_choice"] := by
    decide
  have hfails := failsWith_evaluate e hnil ctx
  refine ⟨fun name herror => hfails _ herror, fun b cause herror => ?_⟩
  obtain ⟨hb, hcause⟩ := hfails _ herror
  refine ⟨hnames b hb, fun hmessage => ?_, fun hmessage => ?_, ?_⟩
  · exact Fault.not_prefix_of_isMiscall hcause "requires a target" (by decide) (by simp [hmessage])
  · exact Fault.not_prefix_of_isMiscall hcause "does not take a target" (by decide) (by simp [hmessage])
  · exact Fault.not_prefix_of_isMiscall hcause "wrong number of arguments: " (by decide)

/-- The choice from an empty table is such an error of a built-in. -/
theorem evaluate_choice_of_nothing :
    (method (.sequence []) "random_choice" []).findings = [] ∧
    ((method (.sequence []) "random_choice" []).evaluate default).1 = .error (.fault .randomChoice .nothingToChoose) ∧
    Fault.nothingToChoose.message ≠ "requires a target" :=
  have h := evaluate_of_findings_eq_nil (method (.sequence []) "random_choice" []) (.inl rfl) default
  ⟨rfl, rfl, (h.2 _ _ rfl).2.1⟩

end Expr

end ConditionLang
