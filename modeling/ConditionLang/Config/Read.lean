import ConditionLang.Config.Basic
import ConditionLang.Toml.Reader

/-!
# Reading configurations

A configuration is a TOML document with the sections `logging`, `lexer` and `eval` and no others; keys that a section does
not know are passed over. A section may also be an array, which gives its values in order, or a date, which gives none.
-/

namespace ConditionLang

-- Powers are those of the core library, whatever other instances there are.
attribute [local instance (high)] instPowNat

namespace Config

/-- The text that a value is. -/
def textOf : Toml.Value → Option String
  | .text s => some s
  | _ => none

/-- The truth value that a value is. -/
def truthOf : Toml.Value → Option Bool
  | .truth b => some b
  | _ => none

/-- The natural of 64 bits that a value is. -/
def seedOf : Toml.Value → Option (Option Nat)
  | .integer n => if 0 ≤ n ∧ n < 2 ^ (64 : Nat) then some (some n.toNat) else none
  | _ => none

/-- Whether a value is an array or a table without anything in it. -/
def isVoid : Toml.Value → Bool
  | .array [] | .table _ [] => true
  | _ => false

/-- The word that a value is, or that is the only key of a table and has nothing under it. -/
def wordOf : Toml.Value → Option String
  | .text s => some s
  | .table _ [(key, value)] => if isVoid value then some key else none
  | _ => none

/-- The layout that a value names. -/
def layoutOf (v : Toml.Value) : Option Log.Layout := do
  match ← wordOf v with
  | "plain" => some .plain
  | "json" => some .json
  | _ => none

/-- The policy that a value names. -/
def policyOf (v : Toml.Value) : Option ErrorPolicy := do
  match ← wordOf v with
  | "no_match" => some .noMatch
  | "fail" => some .fail
  | _ => none

/-- The table of texts that a value is. -/
def textsOf : Toml.Value → Option (Entries String)
  | .table _ entries => entries.mapM fun (key, value) => do return (key, ← textOf value)
  | _ => none

/-- The value in a section under a key, or at a place of an array. -/
def field? (section? : Option Toml.Value) (place : Nat) (key : String) : Option (Option Toml.Value) :=
  match section? with
  | none | some (.moment _) => some none
  | some (.table _ entries) => some (Entries.get? key entries)
  | some (.array items) | some (.tables items) => some items[place]?
  | some _ => none

/-- What a section sets under a key, or else what the standard is. -/
def setting {α : Type} (section? : Option Toml.Value) (place : Nat) (key : String) (decode : Toml.Value → Option α)
    (standard : α) : Option α := do
  match ← field? section? place key with
  | some v => decode v
  | none => some standard

/-- The names of the sections. -/
def sections : List String := ["logging", "lexer", "eval"]

/-- The configuration that a table holds. -/
def ofTable? (table : Entries Toml.Value) : Option Config := do
  if !table.all (sections.contains ·.1) then none
  let logging := table.get? "logging"
  let lexer := table.get? "lexer"
  let eval := table.get? "eval"
  let level ← setting logging 0 "level" textOf standard.logging.level
  let modules ← setting logging 1 "modules" textsOf standard.logging.modules
  let file ← setting logging 2 "file" (fun v => (textOf v).map some) standard.logging.file
  let layout ← setting logging 3 "format" layoutOf standard.logging.layout
  let strict ← setting lexer 0 "strict" truthOf standard.strict
  let onError ← setting eval 0 "on_error" policyOf standard.onError
  let seed ← setting eval 1 "seed" seedOf standard.seed
  return ⟨⟨level, modules, file, layout⟩, strict, onError, seed⟩

/-- The configuration that a text holds. -/
def read (text : String) : Except ConfigError Config :=
  match (Toml.read? text.toList).bind ofTable? with
  | none => .error .unreadable
  | some c =>
    match c.error? with
    | some e => .error e
    | none => .ok c

end Config

end ConditionLang
