import Mathlib
import ConditionLang.Proofs.Scoping

/-!
# Unbound variables

The warnings about variables that are read before they are bound, against the runs of a block.

A run never binds a name that linting has not bound before (`Covers`), whether it evaluates a line or skips it. So in a context
without bindings a line with such a warning fails when it is evaluated (`run_fails_at_unbound_variable`). The other way around
lines that are skipped and names that find no entry leave variables unbound that linting has bound. Without `or` lines nothing
is evaluated after a line that is skipped, and where every binding is of a single name, it binds that name (`Supplies`). So
then a run reads no undefined variable unless linting warns of it (`run_ne_undefinedVariable`).
-/

namespace ConditionLang

namespace Lint

/-! ## A run binds no more than linting -/

/-- The names that are bound are bound in linting, and still are after the computation has come to a value; and nothing is
warned of as a read of an unbound variable on the way there. -/
def Covers (α : Type) (m : Evaluation α) (s t : State) : Prop :=
  ∀ ctx ctx' a, (∀ name, ctx.Binds name → name ∈ s.bound) → m ctx = (.ok a, ctx') →
    (∀ name, ctx'.Binds name → name ∈ t.bound) ∧ (s.NoneUnbound → t.NoneUnbound)

/-- A run binds no more than linting, part by part. -/
theorem tracks_covers : Tracks Covers where
  ofExcept s _ ctx ctx' a hbound h := by
    cases h
    exact ⟨hbound, id⟩
  settle d s ctx ctx' a hbound h := by
    cases d with
    | value v =>
      cases h
      exact ⟨hbound, id⟩
    | choice bound valueOf =>
      cases h
      exact ⟨hbound, id⟩
  lookup ref s ctx ctx' a hbound h := by
    obtain ⟨hlookup, rfl⟩ := Prod.mk.inj h
    rw [State.bound_read]
    refine ⟨hbound, fun hs => State.noneUnbound_read_iff.mpr ⟨hs, ?_⟩⟩
    exact (Context.of_lookup_eq_ok hlookup).imp id (hbound _)
  bind hm hf _ ctx ctx' b hbound h := by
    obtain ⟨a, mid, hfirst, hsecond⟩ := Evaluation.bind_eq_ok_iff.mp h
    obtain ⟨hmid, hs⟩ := hm ctx mid a hbound hfirst
    obtain ⟨hlast, ht⟩ := hf a mid ctx' b hmid hsecond
    exact ⟨hlast, ht ∘ hs⟩

/-- A binding binds no name that linting does not bind, whichever of its names find an entry. -/
theorem covers_binding (e : Expr) : TracksBinding Covers e := by
  cases e with
  | binding value names =>
    intro v s ctx ctx' a hbound h
    refine ⟨fun name hname => ?_, State.noneUnbound_foldl_bind names⟩
    have hctx' : (bindValue value names v ctx).2 = ctx' := congrArg Prod.snd h
    rw [← hctx'] at hname
    exact State.mem_bound_foldl_bind.mpr ((Context.of_binds_bindValue hname).imp id (hbound name))
  | _ => trivial

end Lint

/-- A line that comes to a verdict reads no variable that linting warns of, and binds none that linting does not bind. -/
theorem ConditionLine.covers_verdict (l : ConditionLine) (s : Lint.State) :
    Lint.Covers Bool l.verdict s (Lint.visit s l.expr) :=
  Lint.tracks_line Lint.tracks_covers l (fun part _ => Lint.covers_binding part) s

/-! ## Lines with warnings -/

namespace Outcome

/-- The line was evaluated and not skipped: it has come to a verdict, or it has failed. -/
def Evaluates (o : Outcome) (line : Nat) : Prop :=
  (∃ isOr holds, .evaluated line isOr holds ∈ o.steps) ∨ ∃ e, o.result = .error ⟨line, e⟩

/-- The run has come to no verdict on the line, and to none on the block unless it has skipped the line. -/
structure Avoids (o : Outcome) (line : Nat) : Prop where
  noVerdict : ∀ isOr holds, .evaluated line isOr holds ∉ o.steps
  skipped : ∀ b, o.result = .ok b → .skipped line ∈ o.steps

variable {o : Outcome} {line : Nat}

/-- A run that fails before a line avoids it. -/
theorem avoids_of_failed (e : LineError) (ctx : Context) : (⟨[], .error e, ctx⟩ : Outcome).Avoids line where
  noVerdict _ _ h := absurd h List.not_mem_nil
  skipped _ h := nomatch h

/-- A run that skips a line, and comes to no verdict on it later, avoids it. -/
theorem avoids_after_skipped (h : ∀ isOr holds, .evaluated line isOr holds ∉ o.steps) :
    (o.after (.skipped line)).Avoids line where
  noVerdict isOr holds hstep := by
    rcases List.mem_cons.mp hstep with hstep | hstep
    · cases hstep
    · exact h isOr holds hstep
  skipped _ _ := List.mem_cons_self

/-- A step on another line changes nothing. -/
theorem Avoids.after {step : LineStep} (h : o.Avoids line) (hne : ∀ isOr holds, step ≠ .evaluated line isOr holds) :
    (o.after step).Avoids line where
  noVerdict isOr holds hstep := by
    rcases List.mem_cons.mp hstep with hstep | hstep
    · exact hne isOr holds hstep.symm
    · exact h.noVerdict isOr holds hstep
  skipped b hb := List.mem_cons_of_mem _ (h.skipped b hb)

end Outcome

namespace Block

/-- A line on which a run comes to a verdict is a line of the block. -/
theorem exists_line_of_evaluated {lines : List ConditionLine} {verdict isOr holds : Bool} {ctx : Context} {n : Nat}
    (h : .evaluated n isOr holds ∈ (runFrom verdict ctx lines).steps) : ∃ l ∈ lines, l.line = n := by
  induction lines generalizing verdict ctx with
  | nil => exact absurd h List.not_mem_nil
  | cons l rest ih =>
    rw [runFrom] at h
    split at h
    · rcases List.mem_cons.mp h with h | h
      · cases h
      · obtain ⟨l', hl', hn⟩ := ih h
        exact ⟨l', List.mem_cons_of_mem l hl', hn⟩
    · split at h
      · exact absurd h List.not_mem_nil
      · rcases List.mem_cons.mp h with h | h
        · cases h
          exact ⟨l, List.mem_cons_self, rfl⟩
        · obtain ⟨l', hl', hn⟩ := ih h
          exact ⟨l', List.mem_cons_of_mem l hl', hn⟩

/-- A run from a context that binds no more than linting has bound avoids the lines with a warning about an unbound
variable. -/
theorem avoids_of_unbound_warning {lines : List ConditionLine} (hlines : lines.Pairwise (·.line < ·.line))
    {bound : List String} {ctx : Context} (hbound : ∀ name, ctx.Binds name → name ∈ bound) {n : Nat} {name : String}
    (hwarning : (n, .unboundVariable name) ∈ Lint.linesAfter bound lines) (verdict : Bool) :
    (runFrom verdict ctx lines).Avoids n := by
  induction lines generalizing bound ctx verdict with
  | nil => exact absurd hwarning List.not_mem_nil
  | cons l rest ih =>
    obtain ⟨hlater, hrest⟩ := List.pairwise_cons.mp hlines
    rw [Lint.linesAfter, List.mem_append, List.mem_map] at hwarning
    rw [runFrom]
    split
    · -- The line is skipped: only linting goes on to bind names.
      rcases hwarning with ⟨_, -, hn⟩ | hwarning
      · obtain rfl : l.line = n := congrArg Prod.fst hn
        refine Outcome.avoids_after_skipped fun isOr holds hstep => ?_
        obtain ⟨l', hl', hn'⟩ := exists_line_of_evaluated hstep
        exact absurd hn' (Nat.ne_of_gt (hlater l' hl'))
      · have hbound' := fun k hk => (Lint.within_visit ⟨bound, []⟩ l.expr).bound k (hbound k hk)
        refine (ih hrest hbound' hwarning verdict).after fun isOr holds hstep => ?_
        cases hstep
    · split
      · exact Outcome.avoids_of_failed _ _
      · rename_i holds ctx' hverdict
        obtain ⟨hbound', hclean⟩ := l.covers_verdict ⟨bound, []⟩ ctx ctx' holds hbound hverdict
        rcases hwarning with ⟨f, hf, hn⟩ | hwarning
        · obtain rfl : f = .unboundVariable name := congrArg Prod.snd hn
          exact absurd hf (hclean (fun _ h => absurd h List.not_mem_nil) name)
        · obtain ⟨⟨l', hl', hn⟩, -⟩ := Lint.of_mem_linesAfter hwarning
          have hne : l.line ≠ n := fun heq => Nat.ne_of_lt (hlater l' hl') (heq.trans hn.symm)
          exact (ih hrest hbound' hwarning _).after fun _ _ hstep => hne (LineStep.evaluated.inj hstep).1

/-- A line of a block with a warning about an unbound variable, if a run in a context without bindings evaluates it at all, is
the line at which the run fails; so a run comes to a verdict only if it skips every such line. -/
theorem run_fails_at_unbound_variable (mode : LexMode) (text : List Char) (lines : List ConditionLine)
    (hload : Block.load mode text = .ok lines) (ctx : Context) (hctx : ∀ name, ctx.bound? name = none) (n : Nat)
    (name : String) (hwarning : (n, .unboundVariable name) ∈ Block.warnings lines) :
    ((run lines ctx).Evaluates n → ∃ e, (run lines ctx).result = .error ⟨n, e⟩) ∧
      ∀ b, (run lines ctx).result = .ok b → .skipped n ∈ (run lines ctx).steps ∧ ¬(run lines ctx).Evaluates n := by
  have hlines : lines.Pairwise (·.line < ·.line) := by
    rw [← readableLines_of_loadLines hload]
    exact Report.pairwise_readableLines 1 _
  have hbound : ∀ k, ctx.Binds k → k ∈ ([] : List String) := fun k hk => absurd (hctx k) hk
  have havoids := avoids_of_unbound_warning hlines hbound hwarning true
  have hfails : (run lines ctx).Evaluates n → ∃ e, (run lines ctx).result = .error ⟨n, e⟩ := by
    rintro (⟨isOr, holds, hstep⟩ | herror)
    · exact absurd hstep (havoids.noVerdict isOr holds)
    · exact herror
  refine ⟨hfails, fun b hb => ⟨havoids.skipped b hb, fun hevaluates => ?_⟩⟩
  obtain ⟨e, he⟩ := hfails hevaluates
  rw [he] at hb
  cases hb

/-- The block `> token == "7"`, `> path >> token` binds the variable too late. -/
theorem run_fails_at_unbound_variable_of_late_binding :
    let lines : List ConditionLine := [⟨.binary .eq (.ofName "token") (.text "7"), false, 1⟩,
      ⟨.binding (.ofName "path") ["token"], false, 2⟩]
    let ctx := Context.ofRequest 1 (.ofTarget "GET" "/") (.seeded 1)
    Block.load .lenient "> token == \"7\"\n> path >> token".toList = .ok lines ∧ (∀ name, ctx.bound? name = none) ∧
      (1, .unboundVariable "token") ∈ Block.warnings lines ∧ (run lines ctx).Evaluates 1 ∧
      ∃ e, (run lines ctx).result = .error ⟨1, e⟩ := by
  intro lines ctx
  have hload : Block.load .lenient "> token == \"7\"\n> path >> token".toList = .ok lines := by cbv
  have hwarning : (1, .unboundVariable "token") ∈ Block.warnings lines := by decide
  have hevaluates : (run lines ctx).Evaluates 1 := .inr ⟨.undefinedVariable "token", rfl⟩
  have hfails := run_fails_at_unbound_variable .lenient _ lines hload ctx (fun _ => rfl) 1 "token" hwarning
  exact ⟨hload, fun _ => rfl, hwarning, hevaluates, hfails.1 hevaluates⟩

end Block

namespace Lint

/-! ## A run binds no less than linting, if every binding is of a single name -/

/-- If nothing is warned of as a read of an unbound variable, then from a context that binds what is bound in linting the
computation reads no undefined variable, and what is bound in linting after it is bound once it has come to a value. -/
def Supplies (α : Type) (m : Evaluation α) (s t : State) : Prop :=
  t.NoneUnbound → ∀ ctx, (∀ name ∈ s.bound, ctx.Binds name) →
    (∀ a ctx', m ctx = (.ok a, ctx') → ∀ name ∈ t.bound, ctx'.Binds name) ∧
      ∀ x ctx', m ctx ≠ (.error (.undefinedVariable x), ctx')

/-- A run binds no less than linting, part by part. -/
theorem tracks_supplies : Tracks Supplies where
  ofExcept s hr _ ctx hbound := by
    refine ⟨fun a ctx' h => ?_, fun x ctx' h => hr x (congrArg Prod.fst h)⟩
    obtain rfl : ctx = ctx' := congrArg Prod.snd h
    exact hbound
  settle d s _ ctx hbound := by
    cases d with
    | value v =>
      refine ⟨fun a ctx' h => ?_, fun x ctx' h => nomatch h⟩
      obtain rfl : ctx = ctx' := congrArg Prod.snd h
      exact hbound
    | choice bound valueOf =>
      refine ⟨fun a ctx' h => ?_, fun x ctx' h => nomatch h⟩
      cases h
      exact hbound
  lookup ref s hclean ctx hbound := by
    have hname := (State.noneUnbound_read_iff.mp hclean).2.imp id (hbound _)
    refine ⟨fun a ctx' h => ?_, fun x ctx' h => Context.lookup_ne_undefinedVariable hname x (congrArg Prod.fst h)⟩
    obtain rfl : ctx = ctx' := congrArg Prod.snd h
    rwa [State.bound_read]
  bind hm hf hwithin hclean ctx hbound := by
    obtain ⟨hvalue, herror⟩ := hm (hwithin.noneUnbound hclean) ctx hbound
    refine ⟨fun b ctx' h => ?_, fun x ctx' h => ?_⟩
    · obtain ⟨a, mid, hfirst, hsecond⟩ := Evaluation.bind_eq_ok_iff.mp h
      exact (hf a hclean mid (hvalue a mid hfirst)).1 b ctx' hsecond
    · rcases Evaluation.bind_eq_error_iff.mp h with h | ⟨a, mid, hfirst, hsecond⟩
      · exact herror x ctx' h
      · exact (hf a hclean mid (hvalue a mid hfirst)).2 x ctx' hsecond

end Lint

/-- Every binding in the expression is of exactly one name. -/
def Expr.BindsSingly (e : Expr) : Prop :=
  ∀ value names, .binding value names ∈ e.parts → names.length = 1

/-- A binding of a single name binds it, whatever the value is. -/
theorem Lint.supplies_binding {e part : Expr} (h : e.BindsSingly) (hpart : part ∈ e.parts) :
    TracksBinding Supplies part := by
  cases part with
  | binding value names =>
    obtain ⟨name, rfl⟩ := List.length_eq_one_iff.mp (h value names hpart)
    intro v s _ ctx hbound
    obtain ⟨mark, hbind⟩ := ctx.exists_withBinding_of_bindValue value name v
    rw [hbind]
    refine ⟨fun a ctx' h k hk => ?_, fun x ctx' h => nomatch h⟩
    obtain rfl : ctx.withBinding name ⟨v, mark⟩ = ctx' := congrArg Prod.snd h
    rw [Context.binds_withBinding]
    exact (State.mem_bound_foldl_bind.mp hk).imp List.mem_singleton.mp (hbound k)
  | _ => trivial

/-- The verdict on a line whose bindings are of single names binds no less than linting it. -/
theorem ConditionLine.supplies_verdict {l : ConditionLine} (h : l.expr.BindsSingly) (s : Lint.State) :
    Lint.Supplies Bool l.verdict s (Lint.visit s l.expr) :=
  Lint.tracks_line Lint.tracks_supplies l (fun _ hpart => Lint.supplies_binding h hpart) s

namespace Block

/-- A run of lines without alternatives and without warnings reads no undefined variable, from a context that binds what
linting has bound unless the verdict is false already. -/
theorem runFrom_ne_undefinedVariable {lines : List ConditionLine} (hand : ∀ l ∈ lines, l.isOr = false)
    (hsingly : ∀ l ∈ lines, l.expr.BindsSingly) {bound : List String}
    (hclean : ∀ n name, (n, .unboundVariable name) ∉ Lint.linesAfter bound lines) {verdict : Bool} {ctx : Context}
    (hbound : verdict = true → ∀ name ∈ bound, ctx.Binds name) (n : Nat) (x : String) :
    (runFrom verdict ctx lines).result ≠ .error ⟨n, .undefinedVariable x⟩ := by
  induction lines generalizing bound verdict ctx with
  | nil => nofun
  | cons l rest ih =>
    have hrest := @ih (fun l' hl' => hand l' (List.mem_cons_of_mem l hl')) fun l' hl' =>
      hsingly l' (List.mem_cons_of_mem l hl')
    have hlater : ∀ n name, (n, .unboundVariable name) ∉ Lint.linesAfter (Lint.visit ⟨bound, []⟩ l.expr).bound rest :=
      fun n name h => hclean n name (List.mem_append_right _ h)
    have hhere : (Lint.visit ⟨bound, []⟩ l.expr).NoneUnbound :=
      fun name h => hclean l.line name (List.mem_append_left _ (List.mem_map.mpr ⟨_, h, rfl⟩))
    have hl := hand l List.mem_cons_self
    rw [runFrom, hl]
    cases verdict with
    | false =>
      -- No line is evaluated from here on, and so nothing is bound that a later line would read.
      exact hrest hlater nofun
    | true =>
      obtain ⟨hvalue, herror⟩ :=
        ConditionLine.supplies_verdict (hsingly l List.mem_cons_self) ⟨bound, []⟩ hhere ctx (hbound rfl)
      rcases hverdict : l.verdict ctx with ⟨e | holds, ctx'⟩
      · intro h
        obtain rfl : e = .undefinedVariable x := congrArg LineError.error (Except.error.inj h)
        exact herror x ctx' hverdict
      · exact hrest hlater fun _ => hvalue holds ctx' hverdict

/-- A block without alternatives, in which every binding is of a single name and of which linting warns of no unbound
variable, reads no undefined variable in any context. -/
theorem run_ne_undefinedVariable (lines : List ConditionLine) (hand : ∀ l ∈ lines, l.isOr = false)
    (hsingly : ∀ l ∈ lines, l.expr.BindsSingly)
    (hclean : ∀ n name, (n, .unboundVariable name) ∉ Block.warnings lines) (ctx : Context) (n : Nat) (x : String) :
    (run lines ctx).result ≠ .error ⟨n, .undefinedVariable x⟩ :=
  runFrom_ne_undefinedVariable hand hsingly hclean (fun _ _ h => absurd h List.not_mem_nil) n x

/-- The block `> path >> p`, `> p == "/"` binds the variable before it is read. -/
theorem run_ne_undefinedVariable_of_path_binding :
    let lines : List ConditionLine := [⟨.binding (.ofName "path") ["p"], false, 1⟩,
      ⟨.binary .eq (.ofName "p") (.text "/"), false, 2⟩]
    let ctx := Context.ofRequest 1 (.ofTarget "GET" "/") (.seeded 1)
    (∀ l ∈ lines, l.isOr = false) ∧ (∀ l ∈ lines, l.expr.BindsSingly) ∧
      (∀ n name, (n, .unboundVariable name) ∉ Block.warnings lines) ∧
      (run lines ctx).result ≠ .error ⟨2, .undefinedVariable "p"⟩ := by
  intro lines ctx
  have hand : ∀ l ∈ lines, l.isOr = false := by simp [lines]
  have hsingly : ∀ l ∈ lines, l.expr.BindsSingly := by
    simp [lines, Expr.BindsSingly, Expr.parts, Expr.ofName]
  have hclean : ∀ n name, (n, .unboundVariable name) ∉ Block.warnings lines := by
    have hnone : Block.warnings lines = [] := by decide
    simp [hnone]
  exact ⟨hand, hsingly, hclean, run_ne_undefinedVariable lines hand hsingly hclean ctx 2 "p"⟩

end Block

end ConditionLang
