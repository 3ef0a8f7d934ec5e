/-!
# Levels of log events

The level of an event tells how serious it is; a threshold tells which events are let through. Words for thresholds are
read in any case.
-/

namespace ConditionLang

namespace Log

/-- How serious an event is. -/
inductive Level where
  | error | warn | info | debug | trace
  deriving Repr, DecidableEq, Inhabited

namespace Level

/-- The name of a level. -/
def name : Level → String
  | error => "ERROR"
  | warn => "WARN"
  | info => "INFO"
  | debug => "DEBUG"
  | trace => "TRACE"

/-- How much is said at a level: the more, the less serious. -/
def verbosity : Level → Nat
  | error => 1
  | warn => 2
  | info => 3
  | debug => 4
  | trace => 5

end Level

/-- Up to which level events are let through; `none` lets nothing through. -/
abbrev Threshold := Option Level

namespace Threshold

/-- Whether an event of a level is let through. -/
def admits (t : Threshold) (level : Level) : Bool :=
  t.any fun most => level.verbosity ≤ most.verbosity

/-- The words for thresholds. -/
def words : List (String × Threshold) :=
  [("trace", some .trace), ("debug", some .debug), ("info", some .info), ("warn", some .warn), ("error", some .error),
    ("off", none)]

/-- The threshold that a word stands for. -/
def ofWord? (word : String) : Option Threshold :=
  words.lookup word.toLower

end Threshold

end Log

end ConditionLang
