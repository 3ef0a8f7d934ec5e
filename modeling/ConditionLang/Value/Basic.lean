import ConditionLang.Entries
import ConditionLang.Number.Decimal

/-!
# Values

What a condition computes with. A value that was looked up and not found is `missing`; as an operand of `==` it equals
the empty text, `False` and another missing value, and values of different kinds are otherwise unequal.
-/

namespace ConditionLang

inductive Value where
  | number (value : Float)
  | truth (value : Bool)
  | text (value : String)
  | sequence (items : List Value)
  /-- A table with named entries, which are in ascending order of their keys. -/
  | map (entries : List (String × Value))
  /-- The numbers from `first` to `last`, both included. -/
  | range (first last : Float)
  | missing
  deriving Repr, Inhabited

/-- The kinds of values that messages tell apart. -/
inductive Kind where
  | number
  | truth
  | text
  | table
  | range
  | missing
  deriving Repr, DecidableEq, Inhabited

/-- How messages name a kind. -/
def Kind.describe : Kind → String
  | .number => "number"
  | .truth => "boolean"
  | .text => "string"
  | .table => "table"
  | .range => "range"
  | .missing => "missing value"

namespace Value

/-- The kind of a value; sequences and maps are both tables. -/
def kind : Value → Kind
  | .number _ => .number
  | .truth _ => .truth
  | .text _ => .text
  | .sequence _ | .map _ => .table
  | .range _ _ => .range
  | .missing => .missing

/-- The number that a value is. -/
def number? : Value → Option Float
  | .number x => some x
  | _ => none

/-- The truth value that a value is. -/
def truth? : Value → Option Bool
  | .truth b => some b
  | _ => none

/-- The text that a value is. -/
def text? : Value → Option String
  | .text s => some s
  | _ => none

/-- Whether a lookup found nothing. -/
def isMissing (v : Value) : Bool :=
  v.kind == .missing

/-- Whether a value is a sequence or a map. -/
def isTable (v : Value) : Bool :=
  v.kind == .table

/-- The map of texts by their keys. -/
def ofTexts (texts : Entries String) : Value :=
  .map (texts.mapValues .text)

mutual

/-- The text that concatenation and templates put in place of a value. -/
def display : Value → String
  | .number x => Number.text x
  | .truth b => if b then "true" else "false"
  | .text s => s
  | .sequence items => "[" ++ ", ".intercalate (displayItems items) ++ "]"
  | .map entries => "\x7b" ++ ", ".intercalate (displayEntries entries) ++ "\x7d"
  | .range first last => Number.text first ++ ".." ++ Number.text last
  | .missing => ""

/-- The texts of the items of a sequence. -/
def displayItems : List Value → List String
  | [] => []
  | item :: items => item.display :: displayItems items

/-- The texts of the entries of a map. -/
def displayEntries : List (String × Value) → List String
  | [] => []
  | (key, value) :: entries => (key ++ " = " ++ value.display) :: displayEntries entries

end

mutual

/-- Equality as `==` decides it. -/
def equals : Value → Value → Bool
  | .missing, .missing => true
  | .missing, .text s | .text s, .missing => s.isEmpty
  | .missing, .truth b | .truth b, .missing => !b
  | .number x, .number y => x == y
  | .truth a, .truth b => a == b
  | .text s, .text t => s == t
  | .sequence items, .sequence others => equalItems items others
  | .map entries, .map others => equalEntries entries others
  | .range first last, .range first' last' => first == first' && last == last'
  | _, _ => false

/-- Whether sequences have equal items at every place. -/
def equalItems : List Value → List Value → Bool
  | [], [] => true
  | item :: items, other :: others => item.equals other && equalItems items others
  | _, _ => false

/-- Whether maps have the same keys and equal values under them. -/
def equalEntries : List (String × Value) → List (String × Value) → Bool
  | [], [] => true
  | (key, value) :: entries, (key', other) :: others =>
    key == key' && value.equals other && equalEntries entries others
  | _, _ => false

end

end Value

end ConditionLang
