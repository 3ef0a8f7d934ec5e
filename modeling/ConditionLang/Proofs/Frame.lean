import ConditionLang.Proofs.Bindings

/-!
# What an evaluation leaves alone

An evaluation changes its context only by bindings and draws, also where it fails. So the call counter and the request stay,
a name keeps its value and its mark unless a binding in the expression binds it, and no variable is ever unbound
(`evaluate_frame`). These facts about the context before and the context after survive every single binding of such a name
(`ChangesOnly.withBinding`), and hence every evaluation.
-/

namespace ConditionLang

/-- Some binding in the expression is of the name. -/
def Expr.MayBind (e : Expr) (name : String) : Prop :=
  ∃ value names, .binding value names ∈ e.parts ∧ name ∈ names

namespace Context

/-- The second context differs from the first at most in draws and in bindings of some names, and it binds no less. -/
structure ChangesOnly (named : String → Prop) (start ctx : Context) : Prop where
  callCount : ctx.callCount = start.callCount
  request : ctx.request = start.request
  others : ∀ name, ¬named name → ctx.bindings.get? name = start.bindings.get? name
  noneUnbound : ∀ name, start.bound? name ≠ none → ctx.bound? name ≠ none

variable {named : String → Prop} {start ctx : Context}

theorem changesOnly_refl (named : String → Prop) (start : Context) : start.ChangesOnly named start :=
  ⟨rfl, rfl, fun _ _ => rfl, fun _ h => h⟩

/-- Draws are not among what has to stay. -/
theorem ChangesOnly.withDraws (h : start.ChangesOnly named ctx) (draws : Draws) : start.ChangesOnly named { ctx with draws } :=
  ⟨h.callCount, h.request, h.others, h.noneUnbound⟩

/-- Binding a name that may change changes only such names. -/
theorem ChangesOnly.withBinding (h : start.ChangesOnly named ctx) {name : String} (hname : named name) (b : Binding) :
    start.ChangesOnly named (ctx.withBinding name b) where
  callCount := h.callCount
  request := h.request
  others k hk := by
    have hne : k ≠ name := by
      rintro rfl
      exact hk hname
    rw [get?_withBinding, if_neg hne]
    exact h.others k hk
  noneUnbound k hk := by
    rw [bound?_withBinding]
    split
    · exact Option.some_ne_none b.value
    · exact h.noneUnbound k hk

/-- A name that may not change is bound as before. -/
theorem ChangesOnly.bound?_eq (h : start.ChangesOnly named ctx) {name : String} (hname : ¬named name) :
    ctx.bound? name = start.bound? name := by
  rw [bound?, bound?, h.others name hname]

/-- A name that may not change is marked as before. -/
theorem ChangesOnly.isHeaders_eq (h : start.ChangesOnly named ctx) {name : String} (hname : ¬named name) :
    ctx.isHeaders name = start.isHeaders name := by
  rw [isHeaders, isHeaders, h.others name hname]

end Context

namespace Expr

open Context

/-- No part of an expression by itself does more to the context than drawing and binding the names of a binding. -/
theorem changesOnly_ownEffect {e part : Expr} (hpart : part ∈ e.parts) (start : Context) :
    part.OwnEffect (@Evaluation.Maintains (start.ChangesOnly e.MayBind)) := by
  have hinvoke := @Evaluation.maintains_invoke (start.ChangesOnly e.MayBind) fun ctx draws h => h.withDraws draws
  cases part with
  | reference ref => exact fun ctx h => h
  | binding value names =>
    exact maintains_bindValue (fun name hname b ctx h => h.withBinding ⟨value, names, hpart, hname⟩ b) value
  | call name args => exact hinvoke name none
  | method target name args => exact fun t => hinvoke name (some t)
  | _ => trivial

/-- An evaluation changes only names that the expression may bind. -/
theorem changesOnly_evaluate (e : Expr) (ctx : Context) : ctx.ChangesOnly e.MayBind (e.evaluate ctx).2 :=
  e.evaluate_of_closed (Evaluation.closed_maintains _) (fun _ hpart => changesOnly_ownEffect hpart ctx) ctx
    (changesOnly_refl _ ctx)

/-- Whether an evaluation comes to a value or fails, it changes neither the call counter nor the request, it changes the value
and the mark of no name but those that bindings in the expression bind, and it leaves every name bound that was bound. -/
theorem evaluate_frame (e : Expr) (ctx : Context) :
    let left := (e.evaluate ctx).2
    left.callCount = ctx.callCount ∧ left.request = ctx.request ∧
      (∀ name, ¬e.MayBind name → left.bound? name = ctx.bound? name ∧ left.isHeaders name = ctx.isHeaders name) ∧
      ∀ name, ctx.bound? name ≠ none → left.bound? name ≠ none := by
  intro left
  have h : ctx.ChangesOnly e.MayBind left := e.changesOnly_evaluate ctx
  exact ⟨h.callCount, h.request, fun name hname => ⟨h.bound?_eq hname, h.isHeaders_eq hname⟩, h.noneUnbound⟩

/-- The expression `(h >> g) + (path >> p, q)` fails, after `g` has been bound to the table of headers like `h` before it. The
name `p` keeps its value, as the path is no table. -/
theorem evaluate_frame_of_failure :
    let start := Context.ofRequest 1 ((Request.ofTarget "GET" "/").withHeader "Id" "7") (.seeded 1)
    let ctx := ((binding (.ofName "headers") ["h"]).evaluate (start.bind "p" (.text "old"))).2
    let e := binary .add (binding (.ofName "h") ["g"]) (binding (.ofName "path") ["p", "q"])
    let left := (e.evaluate ctx).2
    (e.evaluate ctx).1.toOption = none ∧ left.isHeaders "g" = true ∧ ¬e.MayBind "h" ∧
      (left.bound? "h" = ctx.bound? "h" ∧ left.isHeaders "h" = ctx.isHeaders "h") ∧
      ctx.bound? "p" ≠ none ∧ left.bound? "p" ≠ none := by
  intro start ctx e left
  have hfails : (e.evaluate ctx).1.toOption = none := rfl
  have hmark : left.isHeaders "g" = true := rfl
  have hh : ¬e.MayBind "h" := by
    rintro ⟨value, names, hpart, hname⟩
    simp only [e, parts, ofName, List.mem_cons, List.cons_append, List.nil_append, binding.injEq, reduceCtorEq,
      List.not_mem_nil, false_or, or_false] at hpart
    rcases hpart with ⟨-, rfl⟩ | ⟨-, rfl⟩
    · exact absurd hname (by decide)
    · exact absurd hname (by decide)
  have hp : ctx.bound? "p" ≠ none := by
    have hvalue : ctx.bound? "p" = some (.text "old") := rfl
    rw [hvalue]
    exact Option.some_ne_none _
  have hframe := evaluate_frame e ctx
  exact ⟨hfails, hmark, hh, hframe.2.2.1 "h" hh, hp, hframe.2.2.2 "p" hp⟩

end Expr

end ConditionLang
