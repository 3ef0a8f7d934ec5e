import ConditionLang.Proofs.Calls

/-!
# Evaluating an expression with a finding about a call

A finding about a call is no false alarm: the expression has a value in no context (`evaluate_error_of_miscall`). An
evaluation that succeeds has evaluated every part of the expression, both operands of `and` and `or` included. A call that
comes to something has passed every check that the checker makes: its target, if that is a literal, has a value of the
literal's kind, and a built-in comes to something only for targets of the kinds that its signature lists
(`Builtin.accepts_of_apply_eq_ok`).
-/

namespace ConditionLang

open Evaluation

/-! ## Findings about calls -/

/-- A finding about a call: its name, its target or the number of its arguments. -/
def Finding.isMiscall : Finding → Bool
  | .unknownFunction _ _ | .missingTarget _ | .unexpectedTarget _ | .invalidTarget _ _ _ | .tooFewArgs _ _ _
  | .tooManyArgs _ _ _ => true
  | _ => false

/-- No finding among these is about a call. -/
def NoMiscall (findings : List Finding) : Prop :=
  ∀ f ∈ findings, f.isMiscall = false

theorem noMiscall_nil : NoMiscall [] :=
  fun _ h => absurd h List.not_mem_nil

/-- Findings in two lists are about no call if those of each list are. -/
theorem NoMiscall.append {findings findings' : List Finding} (h : NoMiscall findings) (h' : NoMiscall findings') :
    NoMiscall (findings ++ findings') :=
  fun f hf => (List.mem_append.mp hf).elim (h f) (h' f)

/-- What is wrong with the names of a binding is not about a call. -/
theorem Check.noMiscall_nameFindings (names : List String) : NoMiscall (nameFindings names) := by
  refine .append ?_ ?_
  · intro f hf
    split at hf
    · cases List.mem_singleton.mp hf
      rfl
    · exact absurd hf List.not_mem_nil
  · intro f hf
    obtain ⟨_, -, rfl⟩ := List.mem_map.mp hf
    rfl

/-- What is wrong with a pattern is not about the shape of a call. -/
theorem Check.noMiscall_patternFindings (b : Builtin) (args : List Expr) : NoMiscall (patternFindings b args) := by
  intro f hf
  unfold patternFindings at hf
  split at hf
  · split at hf
    · cases List.mem_singleton.mp hf
      rfl
    · exact absurd hf List.not_mem_nil
  · exact absurd hf List.not_mem_nil

/-- The kind of target that a value is. Ranges and missing values are none of them. -/
def Value.targetKind? : Value → Option TargetKind
  | .text _ => some .string
  | .number _ => some .number
  | .truth _ => some .boolean
  | .sequence _ | .map _ => some .table
  | .range _ _ | .missing => none

/-- A literal has a value of its kind. -/
theorem Expr.yields_literalKind (e : Expr) :
    e.evaluate.Yields fun v => ∀ kind, e.literalKind? = some kind → v.targetKind? = some kind := by
  cases e with
  | text _ | number _ | truth _ =>
    rw [evaluate]
    exact yields_pure fun _ h => h
  | sequence items =>
    rw [evaluate]
    exact (yields_of trivial _).bind fun _ _ => yields_pure fun _ h => h
  | dictionary pairs =>
    rw [evaluate]
    exact (yields_of trivial _).bind fun _ _ => yields_pure fun _ h => h
  | _ => exact fun _ _ _ _ h => nomatch h

namespace Builtin

/-- A built-in that comes to something takes targets of the kind that its target is of. -/
theorem accepts_of_apply_eq_ok {b : Builtin} {target : Value} {args : List Value} {d : Drawn}
    (hcount : b.signature.acceptsCount args.length = true) (htarget : b.signature.requiresTarget = true)
    (h : b.apply target args = .ok d) {kind : TargetKind} (hkind : target.targetKind? = some kind) :
    b.signature.accepts kind = true := by
  rw [acceptsCount_iff] at hcount
  cases b with
  | split | matchesPattern =>
    obtain ⟨_, rfl⟩ := List.length_eq_one_iff.mp hcount
    cases target with
    | text _ =>
      cases hkind
      rfl
    | _ => cases h
  | contains | notContains =>
    obtain ⟨_, rfl⟩ := List.length_eq_one_iff.mp hcount
    cases target with
    | text _ | sequence _ | map _ =>
      cases hkind
      rfl
    | range _ _ => cases hkind
    | _ => cases h
  | upper | lower | trim =>
    obtain rfl := List.length_eq_zero_iff.mp hcount
    cases target with
    | text _ =>
      cases hkind
      rfl
    | _ => cases h
  | substring =>
    obtain ⟨_, _, rfl⟩ := List.length_eq_two.mp hcount
    cases target with
    | text _ =>
      cases hkind
      rfl
    | _ => cases h
  | len =>
    obtain rfl := List.length_eq_zero_iff.mp hcount
    cases target with
    | text _ | sequence _ | map _ =>
      cases hkind
      rfl
    | _ => cases h
  | isString | isNumber | isBoolean | isTable => rfl
  | round | floor | ceil | abs =>
    obtain rfl := List.length_eq_zero_iff.mp hcount
    cases target with
    | number _ =>
      cases hkind
      rfl
    | _ => cases h
  | random | randomBool | randomInt | randomFloat => cases htarget
  | randomChoice =>
    obtain rfl := List.length_eq_zero_iff.mp hcount
    cases target with
    | sequence _ | map _ =>
      cases hkind
      rfl
    | _ => cases h

/-- A call that comes to something names a built-in, has a target if and only if the built-in takes one, one of a kind that
the built-in takes, and has as many arguments as it takes. -/
theorem of_call_eq_ok {name : String} {target : Option Value} {args : List Value} {d : Drawn}
    (h : call name target args = .ok d) :
    ∃ b, ofName? name = some b ∧ target.isSome = b.signature.requiresTarget ∧
      b.signature.acceptsCount args.length = true ∧
      ∀ v, target = some v → ∀ kind, v.targetKind? = some kind → b.signature.accepts kind = true := by
  rcases call_cases name target args with ⟨-, hcall⟩ | ⟨b, hb, ⟨cause, -, hcall⟩ | ⟨hsome, hcount, hcall⟩⟩
  · rw [hcall] at h
    cases h
  · rw [hcall] at h
    cases h
  · rw [hcall] at h
    refine ⟨b, hb, hsome, hcount, ?_⟩
    rintro v rfl kind hkind
    exact accepts_of_apply_eq_ok hcount hsome.symm h hkind

end Builtin

/-- There is no finding about a call that comes to something. -/
theorem Check.noMiscall_callFindings {target : Option Expr} {name : String} {args : List Expr} {v : Option Value}
    {values : List Value} {d : Drawn} (hv : v.isSome = target.isSome)
    (hkind : ∀ t ∈ target, ∀ w ∈ v, ∀ kind, t.literalKind? = some kind → w.targetKind? = some kind)
    (hvalues : values.length = args.length) (h : Builtin.call name v values = .ok d) :
    NoMiscall (callFindings target name args) := by
  obtain ⟨b, hname, hsome, hcount, haccepts⟩ := Builtin.of_call_eq_ok h
  rw [hv] at hsome
  rw [hvalues, Signature.acceptsCount, Bool.and_eq_true, decide_eq_true_eq] at hcount
  have htarget : NoMiscall (targetFindings b.signature target) := by
    unfold targetFindings
    split
    · simp_all
    · simp_all
    · rename_i t hrequires
      split
      · rename_i kind hliteral
        obtain ⟨w, rfl⟩ := Option.isSome_iff_exists.mp hv
        rw [if_pos (haccepts w rfl kind (hkind t rfl w rfl kind hliteral))]
        exact noMiscall_nil
      · exact noMiscall_nil
    · exact noMiscall_nil
  have hcounts : NoMiscall (countFindings b.signature args.length) := by
    unfold countFindings
    rw [if_neg (Nat.not_lt.mpr hcount.1), List.nil_append]
    split
    · rename_i max hmax
      have hle : args.length ≤ max := by simpa [hmax] using hcount.2
      rw [if_neg (Nat.not_lt.mpr hle)]
      exact noMiscall_nil
    · exact noMiscall_nil
  unfold callFindings
  rw [hname]
  exact (htarget.append hcounts).append (noMiscall_patternFindings b args)

/-- There is no finding about a call that has a value. -/
theorem yields_noMiscall (target : Option Expr) (name : String) {args : List Expr} (v : Option Value)
    {values : List Value} (hv : v.isSome = target.isSome)
    (hkind : ∀ t ∈ target, ∀ w ∈ v, ∀ kind, t.literalKind? = some kind → w.targetKind? = some kind)
    (hvalues : values.length = args.length) :
    (do settle (← ofExcept (Builtin.call name v values))).Yields fun _ =>
      NoMiscall (Check.callFindings target name args) :=
  (yields_ofExcept fun _ h => Check.noMiscall_callFindings hv hkind hvalues h).bind fun _ h => yields_of h _

namespace Expr

mutual

/-- There is no finding about a call in an expression that has a value. -/
theorem yields_evaluate (e : Expr) : e.evaluate.Yields fun _ => NoMiscall e.findings := by
  cases e with
  | number _ | truth _ | text _ | range _ _ | reference _ =>
    rw [findings]
    exact yields_of noMiscall_nil _
  | sequence items =>
    rw [evaluate, findings]
    exact (yields_evaluateItems items).bind fun _ h => yields_of h _
  | dictionary pairs =>
    rw [evaluate, findings]
    exact (yields_evaluatePairs pairs).bind fun _ h => yields_of h _
  | binary op left right =>
    rw [evaluate, findings]
    exact (yields_evaluate left).bind fun _ hleft => (yields_evaluate right).bind fun _ hright =>
      yields_of (hleft.append hright) _
  | negation operand =>
    rw [evaluate, findings]
    exact (yields_evaluate operand).bind fun _ h => yields_of h _
  | binding value names =>
    rw [evaluate, findings]
    exact (yields_evaluate value).bind fun _ h => yields_of (h.append (Check.noMiscall_nameFindings names)) _
  | call name args =>
    rw [evaluate, findings]
    refine ((yields_evaluateItems args).and (evaluateItems_yields_length args)).bind fun _ ⟨hargs, hlength⟩ => ?_
    exact fun ctx d hd => (yields_noMiscall none name none rfl (fun _ h => nomatch h) hlength ctx d hd).append hargs
  | method target name args =>
    rw [evaluate, findings]
    -- The value of the target is kept together with its kind, since the call looks at the value only.
    refine ((yields_evaluate target).and (yields_literalKind target)).bind fun w ⟨htarget, hkind⟩ => ?_
    refine ((yields_evaluateItems args).and (evaluateItems_yields_length args)).bind fun _ ⟨hargs, hlength⟩ => ?_
    have hcall := yields_noMiscall (some target) name (some w) rfl
      (fun _ h _ h' => Option.mem_some.mp h ▸ Option.mem_some.mp h' ▸ hkind) hlength
    exact fun ctx d hd => ((hcall ctx d hd).append htarget).append hargs

theorem yields_evaluateItems (items : List Expr) :
    (evaluateItems items).Yields fun _ => NoMiscall (findingsOfItems items) := by
  cases items with
  | nil =>
    rw [findingsOfItems]
    exact yields_of noMiscall_nil _
  | cons item items =>
    rw [evaluateItems, findingsOfItems]
    exact (yields_evaluate item).bind fun _ h => (yields_evaluateItems items).bind fun _ h' => yields_of (h.append h') _

theorem yields_evaluatePairs (pairs : List (String × Expr)) :
    (evaluatePairs pairs).Yields fun _ => NoMiscall (findingsOfPairs pairs) := by
  cases pairs with
  | nil =>
    rw [findingsOfPairs]
    exact yields_of noMiscall_nil _
  | cons pair pairs =>
    obtain ⟨key, value⟩ := pair
    rw [evaluatePairs, findingsOfPairs]
    exact (yields_evaluate value).bind fun _ h => (yields_evaluatePairs pairs).bind fun _ h' => yields_of (h.append h') _

end

/-- An expression with a finding about a call has a value in no context. -/
theorem evaluate_error_of_miscall (e : Expr) (h : ∃ f ∈ e.findings, f.isMiscall = true) (ctx : Context) :
    ∃ err, (e.evaluate ctx).1 = .error err := by
  obtain ⟨f, hf, hmiscall⟩ := h
  cases hresult : (e.evaluate ctx).1 with
  | error err => exact ⟨err, rfl⟩
  | ok v =>
    have hnone := yields_evaluate e ctx v hresult f hf
    rw [hmiscall] at hnone
    cases hnone

/-- The second operand of `or` is evaluated in any case: a call in it of a function that does not exist is an error. -/
theorem evaluate_error_of_unknown_operand :
    ∃ err, ((binary .or (.truth true) (.call "rand" [])).evaluate default).1 = .error err :=
  evaluate_error_of_miscall (binary .or (.truth true) (.call "rand" [])) (by decide) default

end Expr

end ConditionLang
