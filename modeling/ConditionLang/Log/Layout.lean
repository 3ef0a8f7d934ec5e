import ConditionLang.Log.Event

/-!
# Writing log events

A plain line shows the level, the domain in brackets, the text and the fields; on a terminal the level and the domain are
coloured. A JSON line is an object with the level and an object of fields, among them the domain and the text.
-/

namespace ConditionLang

namespace Log

namespace FieldValue

/-- The value of a field in a plain line. -/
def plain : FieldValue → String
  | .number n => toString n
  | .truth b => if b then "true" else "false"
  | .text s => s

end FieldValue

/-- A text between quotation marks as JSON writes it. -/
def jsonText (s : String) : String :=
  let escape (c : Char) : List Char :=
    if c = '"' || c = '\\' then ['\\', c]
    else if c = '\n' then ['\\', 'n']
    else if c = '\r' then ['\\', 'r']
    else if c = '\t' then ['\\', 't']
    else if c.toNat < 0x20 then
      "\\u00".toList ++ [Nat.digitChar (c.toNat / 16), Nat.digitChar (c.toNat % 16)]
    else [c]
  String.ofList ('"' :: s.toList.flatMap escape ++ ['"'])

/-- An object as JSON writes it, of members that are written already. -/
def jsonObject (members : List (String × String)) : String :=
  "\x7b" ++ ",".intercalate (members.map fun (key, value) => jsonText key ++ ":" ++ value) ++ "\x7d"

/-- The value of a field in a JSON line. -/
def FieldValue.json : FieldValue → String
  | .number n => toString n
  | .truth b => if b then "true" else "false"
  | .text s => jsonText s

namespace Level

/-- The name of a level, five characters wide. -/
def padded (l : Level) : String :=
  "".pushn ' ' (5 - l.name.length) ++ l.name

/-- The terminal's number for the colour of a level. -/
def colour : Level → Nat
  | error => 31
  | warn => 33
  | info => 32
  | debug => 34
  | trace => 35

end Level

namespace Event

/-- The text and the fields of an event. -/
def body [PatternReports] (e : Event) : String :=
  " ".intercalate (e.message :: e.fields.map fun (name, value) => name ++ "=" ++ value.plain)

/-- An event as a plain line. -/
def plain [PatternReports] (e : Event) : String :=
  s!"{e.level.padded} [{e.domain}] {e.body}"

/-- An event as a coloured line. -/
def coloured [PatternReports] (e : Event) : String :=
  s!"\x1b[{e.level.colour}m{e.level.padded}\x1b[0m \x1b[1;36m[{e.domain}]\x1b[0m {e.body}"

/-- The fields of an event in a JSON line. -/
def members [PatternReports] (e : Event) : List (String × FieldValue) :=
  ("message", .text e.message) :: ("domain", .text e.domain) :: e.fields

/-- An event as a JSON line with the time at which it happened. -/
def json [PatternReports] (timestamp : String) (e : Event) : String :=
  jsonObject [("timestamp", jsonText timestamp), ("level", jsonText e.level.name),
    ("fields", jsonObject (e.members.map fun (name, value) => (name, value.json)))]

end Event

end Log

end ConditionLang
