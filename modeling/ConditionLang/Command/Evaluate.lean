import ConditionLang.Log.Trace

/-!
# Deciding a block once

Loads a block, decides it for one request under the policy of a configuration, and shows what it bound.
-/

namespace ConditionLang

/-- The verdict about a block, and the texts of the variables that it bound. -/
structure Decision where
  matched : Bool
  bindings : Entries String
  deriving Repr, DecidableEq, Inhabited

namespace Decision

/-- A decision as it is printed. -/
def lines (d : Decision) : List String :=
  (if d.matched then "match" else "no match") :: d.bindings.map fun (name, text) => s!"  {name} = {text}"

/-- Decides the block that a text holds in a context. -/
def ofText (config : Config) (ctx : Context) (text : String) : Except ConditionError Decision × List Log.Event :=
  let loaded := ConditionSet.compile config.mode text
  let events := ConditionSet.loadEvents config.mode text loaded
  match loaded with
  | .error e => (.error e, events)
  | .ok set =>
    let o := set.run ctx
    let decision := (o.decision config.onError).map fun matched =>
      ⟨matched, o.context.bindings.mapValues (·.value.display)⟩
    (decision, events ++ set.decisionEvents config.onError o)

end Decision

end ConditionLang
