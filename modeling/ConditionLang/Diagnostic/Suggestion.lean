import ConditionLang.Builtin
import ConditionLang.Text.EditDistance
import ConditionLang.Unicode.Case

/-!
# Suggestions for unknown functions

The built-in nearest to a name, whose case does not count. Of several equally near the first in the registry is taken,
and none if all are farther away than `maxDistance`.
-/

namespace ConditionLang

namespace Suggestion

/-- How far away a name may be to be suggested. -/
def maxDistance : Nat := 3

/-- The distance of a name to a built-in, the case of the name ignored. -/
def distance (name candidate : String) : Nat :=
  Text.editDistance (Unicode.lower name.toList) candidate.toList

/-- The nearer of the best candidate so far and another one. -/
def nearer (name : String) (best : Option String) (candidate : String) : Option String :=
  if maxDistance < distance name candidate then best
  else
    match best with
    | some b => if distance name candidate < distance name b then some candidate else best
    | none => some candidate

/-- The built-in that may have been meant by a name. -/
def closest? (name : String) : Option String :=
  Builtin.names.foldl (nearer name) none

end Suggestion

end ConditionLang
