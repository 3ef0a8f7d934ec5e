import ConditionLang.Condition.Set
import ConditionLang.Log.Level

/-!
# Configuration

What a configuration file can set, and what holds where it sets nothing. A configuration whose values are of the right
types may still be refused: levels must be known words, and names of modules and files must not be empty.
-/

namespace ConditionLang

namespace Log

/-- How log events are written. -/
inductive Layout where
  | plain
  | json
  deriving Repr, DecidableEq, Inhabited

/-- Where log events go and which. -/
structure Settings where
  /-- The word for the general threshold. -/
  level : String
  /-- The words for the thresholds of single modules. -/
  modules : Entries String
  /-- A file that events are written to besides standard error. -/
  file : Option String
  layout : Layout
  deriving Repr, Inhabited

end Log

structure Config where
  logging : Log.Settings
  /-- Whether characters that start no token are refused. -/
  strict : Bool
  onError : ErrorPolicy
  /-- The seed of random draws. -/
  seed : Option Nat
  deriving Repr, Inhabited

/-- Why a configuration is refused. -/
inductive ConfigError where
  /-- The text is no document of the right form. -/
  | unreadable
  | unknownLevel (level : String)
  | unnamedModule
  | unknownModuleLevel (module level : String)
  | unnamedFile
  deriving Repr, DecidableEq, Inhabited

namespace ConfigError

/-- The words for levels as messages list them. -/
def levelWords : String :=
  "[" ++ ", ".intercalate (Log.Threshold.words.map fun (word, _) => Text.quoted word) ++ "]"

/-- The message of an error. -/
def message : ConfigError → String
  | .unreadable => "the configuration is not a document of the expected form"
  | .unknownLevel level => s!"logging.level must be one of {levelWords}, got {Text.quoted level}"
  | .unnamedModule => "logging.modules: module name must not be empty"
  | .unknownModuleLevel module level =>
    s!"logging.modules.{module}: level must be one of {levelWords}, got {Text.quoted level}"
  | .unnamedFile => "logging.file must not be empty when set"

end ConfigError

namespace Config

/-- The configuration that sets nothing. -/
def standard : Config :=
  ⟨⟨"info", [], none, .plain⟩, false, .noMatch, none⟩

/-- How the configuration has conditions read. -/
def mode (c : Config) : LexMode :=
  if c.strict then .strict else .lenient

/-- What is wrong with a module's name and threshold. -/
def moduleError? (module level : String) : Option ConfigError :=
  if (Text.trim module.toList).isEmpty then some .unnamedModule
  else if (Log.Threshold.ofWord? level).isNone then some (.unknownModuleLevel module level)
  else none

/-- The first thing for which a configuration is refused. -/
def error? (c : Config) : Option ConfigError :=
  if (Log.Threshold.ofWord? c.logging.level).isNone then some (.unknownLevel c.logging.level)
  else
    match c.logging.modules.findSome? fun (module, level) => moduleError? module level with
    | some e => some e
    | none => if c.logging.file = some "" then some .unnamedFile else none

end Config

end ConditionLang
