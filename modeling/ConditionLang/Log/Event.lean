import ConditionLang.Config.Basic

/-!
# Log events

What a command reports while it works. An event is what happened; its level, the module that it is filtered by, its domain
and the text and fields that are written are functions of it.
-/

namespace ConditionLang

namespace Log

/-- The value of a field of an event. -/
inductive FieldValue where
  | number (n : Nat)
  | truth (b : Bool)
  | text (s : String)
  deriving Repr, DecidableEq, Inhabited

inductive Event where
  | configured (mode : LexMode) (onError : ErrorPolicy)
  /-- A character that lenient lexing passes over. -/
  | skipped (position : Nat) (character : Char)
  | warned (line : Nat) (finding : Finding)
  | loaded (lines warnings : Nat)
  /-- A step of a run. -/
  | stepped (step : LineStep)
  | decided (lines : Nat) (matched : Bool)
  /-- A failure that counts as a verdict that is not met. -/
  | failed (error : LineError)
  | checked (file : String) (errors warnings : Nat)
  deriving Repr, Inhabited

namespace Event

/-- How serious an event is. -/
def level : Event → Level
  | configured _ _ | skipped _ _ | decided _ _ => .debug
  | warned _ _ | failed _ => .warn
  | loaded _ _ | checked _ _ _ => .info
  | stepped _ => .trace

/-- The module that an event is filtered by. -/
def module : Event → String
  | configured _ _ => "mockcond"
  | skipped _ _ => "mc_lang::lexer"
  | warned _ _ | loaded _ _ => "mc_core::condition_set"
  | stepped _ | decided _ _ | failed _ => "mc_core::block"
  | checked _ _ _ => "mockcond::check"

/-- What an event is about. -/
def domain : Event → String
  | configured _ _ => "sys"
  | skipped _ _ | warned _ _ | loaded _ _ | checked _ _ _ => "load"
  | stepped _ | decided _ _ | failed _ => "eval"

/-- The text of an event. -/
def message : Event → String
  | configured _ _ => "configuration loaded"
  | skipped _ _ => "skipping unrecognized character"
  | warned _ _ => "condition lint"
  | loaded _ _ => "condition block compiled"
  | stepped (.skipped _) => "skipping AND line after false result"
  | stepped (.evaluated _ _ _) => "condition line evaluated"
  | decided _ _ => "condition block evaluated"
  | failed _ => "condition evaluation failed, block does not match"
  | checked _ _ _ => "condition file checked"

/-- How events name a lexer mode. -/
def modeName : LexMode → String
  | .lenient => "Lenient"
  | .strict => "Strict"

/-- How events name a policy. -/
def policyName : ErrorPolicy → String
  | .noMatch => "NoMatch"
  | .fail => "Fail"

/-- The fields of an event, in the order in which they are written. -/
def fields [PatternReports] : Event → List (String × FieldValue)
  | configured mode onError => [("mode", .text (modeName mode)), ("on_error", .text (policyName onError))]
  | skipped position character => [("position", .number position), ("character", .text character.toString)]
  | warned line finding => [("line", .number line), ("warning", .text finding.describe)]
  | loaded lines warnings => [("lines", .number lines), ("warnings", .number warnings)]
  | stepped (.skipped line) => [("line", .number line)]
  | stepped (.evaluated line isOr verdict) => [("line", .number line), ("or", .truth isOr), ("verdict", .truth verdict)]
  | decided lines matched => [("lines", .number lines), ("matched", .truth matched)]
  | failed e => [("line", .number e.line), ("error", .text e.error.message)]
  | checked file errors warnings =>
    [("file", .text file), ("errors", .number errors), ("warnings", .number warnings)]

end Event

end Log

end ConditionLang
