import ConditionLang.Condition.Run

/-!
# Running a block in two parts

A run carries nothing from line to line but its verdict and its context. So a run of two blocks one after the other is the run
of the first, and unless that fails, a run of the second from the verdict and the context that the first has left
(`runFrom_append`). A verdict that is true is where every run starts; one that is false is where a run stands after the line
`> False` (`run_append`).
-/

namespace ConditionLang

namespace Outcome

/-- The same outcome after other steps in front. -/
def afterSteps (o : Outcome) (steps : List LineStep) : Outcome :=
  { o with steps := steps ++ o.steps }

/-- The outcome of a run and of what follows it. A run that has failed is not followed by anything. -/
def followedBy (o : Outcome) (next : Bool → Context → Outcome) : Outcome :=
  match o.result with
  | .error _ => o
  | .ok verdict => (next verdict o.context).afterSteps o.steps

variable {o : Outcome} {next : Bool → Context → Outcome}

/-- Nothing follows an outcome that has failed. -/
theorem followedBy_of_error {e : LineError} (h : o.result = .error e) : o.followedBy next = o := by
  rw [followedBy, h]

/-- What follows a verdict starts from it, in the context it was reached in. -/
theorem followedBy_of_ok {verdict : Bool} (h : o.result = .ok verdict) :
    o.followedBy next = (next verdict o.context).afterSteps o.steps := by
  rw [followedBy, h]

/-- A step before an outcome is a step before all that follows it. -/
theorem followedBy_after (o : Outcome) (step : LineStep) (next : Bool → Context → Outcome) :
    (o.after step).followedBy next = (o.followedBy next).after step := by
  obtain ⟨steps, result, ctx⟩ := o
  cases result with
  | error e => rfl
  | ok verdict => rfl

end Outcome

namespace Block

/-- A run of two blocks goes on with the second from the verdict and the context that the first has left. -/
theorem runFrom_append (lines more : List ConditionLine) (verdict : Bool) (ctx : Context) :
    runFrom verdict ctx (lines ++ more) =
      (runFrom verdict ctx lines).followedBy fun verdict ctx => runFrom verdict ctx more := by
  induction lines generalizing verdict ctx with
  | nil => rfl
  | cons l rest ih =>
    rw [List.cons_append, runFrom, runFrom]
    split
    · rw [ih, Outcome.followedBy_after]
    · split
      · rfl
      · rw [ih, Outcome.followedBy_after]

/-- The line `> False` makes the verdict false and leaves the context as it was. -/
theorem run_false_cons (n : Nat) (lines : List ConditionLine) (ctx : Context) :
    run (⟨.truth false, false, n⟩ :: lines) ctx = (runFrom false ctx lines).after (.evaluated n false false) := by
  rfl

/-- While the verdict is false, a line that is no alternative is skipped, whatever its expression. -/
theorem runFrom_false_cons {l : ConditionLine} (hl : l.isOr = false) (lines : List ConditionLine) (ctx : Context) :
    runFrom false ctx (l :: lines) = (runFrom false ctx lines).after (.skipped l.line) := by
  rw [runFrom, hl]
  rfl

variable {lines : List ConditionLine} {ctx : Context}

/-- Lines after a block that fails change nothing. -/
theorem run_append_of_error {e : LineError} (h : (run lines ctx).result = .error e) (more : List ConditionLine) :
    run (lines ++ more) ctx = run lines ctx := by
  rw [run, runFrom_append]
  exact Outcome.followedBy_of_error h

/-- Lines after a block that comes to a verdict go on from there. -/
theorem run_append_of_ok {verdict : Bool} (h : (run lines ctx).result = .ok verdict) (more : List ConditionLine) :
    run (lines ++ more) ctx = (runFrom verdict (run lines ctx).context more).afterSteps (run lines ctx).steps := by
  rw [run, runFrom_append]
  exact Outcome.followedBy_of_ok h

/-- A run of two blocks one after the other, by what the first comes to. If it fails, so does the whole, at the same line and
with the same context. If it holds, the whole comes to what the second comes to in the context that the first has left. If it
does not hold, the whole comes to what the second comes to behind the line `> False`; and the expression of a line in between
that is no alternative does not matter at all. -/
theorem run_append (lines more : List ConditionLine) (ctx : Context) :
    let first := run lines ctx
    let whole := run (lines ++ more) ctx
    (∀ e, first.result = .error e → whole.result = .error e ∧ whole.context = first.context) ∧
    (first.result = .ok true →
      whole.result = (run more first.context).result ∧ whole.context = (run more first.context).context) ∧
    (first.result = .ok false → ∀ n,
      let rest := run (⟨.truth false, false, n⟩ :: more) first.context
      whole.result = rest.result ∧ whole.context = rest.context) ∧
    (first.result = .ok false → ∀ (l : ConditionLine) (e : Expr), l.isOr = false →
      run (lines ++ { l with expr := e } :: more) ctx = run (lines ++ l :: more) ctx) := by
  intro first whole
  refine ⟨fun e herror => ?_, fun htrue => ?_, fun hfalse n => ?_, fun hfalse l e hl => ?_⟩
  · have hwhole : whole = first := run_append_of_error herror more
    rw [hwhole]
    exact ⟨herror, rfl⟩
  · have hwhole : whole = (run more first.context).afterSteps first.steps := run_append_of_ok htrue more
    rw [hwhole]
    exact ⟨rfl, rfl⟩
  · have hwhole : whole = (runFrom false first.context more).afterSteps first.steps := run_append_of_ok hfalse more
    rw [hwhole, run_false_cons]
    exact ⟨rfl, rfl⟩
  · have hl' : ({ l with expr := e } : ConditionLine).isOr = false := hl
    rw [run_append_of_ok hfalse, run_append_of_ok hfalse, runFrom_false_cons hl, runFrom_false_cons hl']

/-- The line `> or m == "GET"` after the line `> method >> m`, which holds, after `> x`, which fails, and after
`> (method >> m) == "PUT"`, which does not hold. In the last block the line `> x` between the two is skipped. -/
theorem run_append_of_three_blocks :
    let ctx := Context.ofRequest 1 (.ofTarget "GET" "/") (.seeded 1)
    let holding : List ConditionLine := [⟨.binding (.ofName "method") ["m"], false, 1⟩]
    let failing : List ConditionLine := [⟨.ofName "x", false, 1⟩]
    let refused : List ConditionLine := [⟨.binary .eq (.binding (.ofName "method") ["m"]) (.text "PUT"), false, 1⟩]
    let more : List ConditionLine := [⟨.binary .eq (.ofName "m") (.text "GET"), true, 2⟩]
    let undefined : LineError := ⟨1, .undefinedVariable "x"⟩
    let skipped : ConditionLine := ⟨.ofName "x", false, 2⟩
    ((run failing ctx).result = .error undefined ∧ (run (failing ++ more) ctx).result = .error undefined) ∧
    ((run holding ctx).result = .ok true ∧
      (run (holding ++ more) ctx).result = (run more (run holding ctx).context).result) ∧
    ((run refused ctx).result = .ok false ∧
      (run (refused ++ more) ctx).result = (run (⟨.truth false, false, 1⟩ :: more) (run refused ctx).context).result) ∧
    (skipped.isOr = false ∧
      run (refused ++ { skipped with expr := .truth true } :: more) ctx = run (refused ++ skipped :: more) ctx) := by
  intro ctx holding failing refused more undefined skipped
  have herror : (run failing ctx).result = .error undefined := rfl
  have htrue : (run holding ctx).result = .ok true := rfl
  have hfalse : (run refused ctx).result = .ok false := rfl
  exact ⟨⟨herror, ((run_append failing more ctx).1 undefined herror).1⟩,
    ⟨htrue, ((run_append holding more ctx).2.1 htrue).1⟩,
    ⟨hfalse, ((run_append refused more ctx).2.2.1 hfalse 1).1⟩,
    rfl, (run_append refused more ctx).2.2.2 hfalse skipped (.truth true) rfl⟩

end Block

end ConditionLang
