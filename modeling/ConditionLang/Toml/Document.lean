import ConditionLang.Entries

/-!
# TOML documents

A document is a table of values. It is written as sections, each with a header that names a table, or a new table at the
end of an array; keys with dots reach into tables, too. What a header or a key may name depends on how the table that is
already there came about: no table is defined twice, a table in braces is closed, and keys with dots do not add to a
table that a header has defined.
-/

namespace ConditionLang

namespace Toml

/-- How a table came about. -/
inductive Origin where
  /-- Named by a header, or the document itself. -/
  | header
  /-- On the way to a table that a header names. -/
  | parent
  /-- On the way to a value with dots in its key. -/
  | dotted
  /-- Written in braces. -/
  | braces
  deriving Repr, DecidableEq, Inhabited

inductive Value where
  | text (value : String)
  | integer (value : Int)
  | float (value : Float)
  | truth (value : Bool)
  /-- A date, a time or both, as it is written. -/
  | moment (text : String)
  | array (items : List Value)
  /-- An array whose tables are named by headers. -/
  | tables (items : List Value)
  | table (origin : Origin) (entries : List (String × Value))
  deriving Repr, Inhabited

/-- A key with its dots. -/
structure Key where
  path : List String
  last : String
  deriving Repr, DecidableEq, Inhabited

/-- A header and the values below it. -/
structure Section where
  key : Key
  /-- Whether the header adds a table to an array, `[[key]]`. -/
  inArray : Bool
  pairs : List (Key × Value)
  deriving Repr, Inhabited

/-- A table under construction. -/
structure Table where
  origin : Origin
  entries : Entries Value
  deriving Repr, Inhabited

namespace Table

/-- The value that a table is. -/
def value (t : Table) : Value :=
  .table t.origin t.entries

/-- The table with a value under a key. -/
def set (t : Table) (key : String) (value : Value) : Table :=
  { t with entries := t.entries.insert key value }

/-- Changes the table at the end of a path, making the tables on the way that are missing. Of an array of tables the last
is meant. -/
def within (dotted : Bool) (change : Table → Option Table) : List String → Table → Option Table
  | [], t => change t
  | key :: path, t =>
    match t.entries.get? key with
    | none => do
      let inner ← within dotted change path ⟨if dotted then .dotted else .parent, []⟩
      return t.set key inner.value
    | some (.table origin entries) =>
      if origin = .braces ∨ dotted ∧ origin = .header then none
      else do
        let inner ← within dotted change path ⟨origin, entries⟩
        return t.set key inner.value
    | some (.tables items) =>
      match items.getLast? with
      | some (.table origin entries) => do
        let inner ← within dotted change path ⟨origin, entries⟩
        return t.set key (.tables (items.dropLast ++ [inner.value]))
      | _ => none
    | some _ => none

/-- Puts a value under a key that is not there yet. -/
def define (key : Key) (value : Value) : Table → Option Table :=
  within (!key.path.isEmpty) (fun t =>
    if (t.origin == .dotted) == key.path.isEmpty ∨ t.entries.hasKey key.last then none
    else some (t.set key.last value)) key.path

/-- Puts values under keys. -/
def defineAll (t : Table) (pairs : List (Key × Value)) : Option Table :=
  pairs.foldlM (fun t (key, value) => t.define key value) t

/-- Puts a section into a table. -/
def addSection (s : Section) : Table → Option Table :=
  within false (fun t =>
    match s.inArray, t.entries.get? s.key.last with
    | false, none => do return t.set s.key.last (← defineAll ⟨.header, []⟩ s.pairs).value
    | false, some (.table .parent entries) => do
      return t.set s.key.last (← defineAll ⟨.header, entries⟩ s.pairs).value
    | true, none => do return t.set s.key.last (.tables [(← defineAll ⟨.header, []⟩ s.pairs).value])
    | true, some (.tables items) => do
      return t.set s.key.last (.tables (items ++ [(← defineAll ⟨.header, []⟩ s.pairs).value]))
    | _, _ => none) s.key.path

end Table

/-- The table that a document holds: the values before the first header, and the sections. -/
def document? (pairs : List (Key × Value)) (sections : List Section) : Option (Entries Value) := do
  let t ← Table.defineAll ⟨.header, []⟩ pairs
  return (← sections.foldlM (fun t s => t.addSection s) t).entries

end Toml

end ConditionLang
