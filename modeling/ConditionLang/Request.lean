import ConditionLang.Value.Json

/-!
# Requests

The request that conditions are evaluated against. The names of headers are kept in lower case (ASCII letters), and so is
the name that one is looked up by, so headers are found in whatever case they are written (`header?_withHeader`).
-/

namespace ConditionLang

structure Request where
  method : String
  path : String
  query : Entries String
  /-- The headers under their names in lower case. -/
  headers : Entries String
  body : Value
  deriving Repr, Inhabited

namespace Request

/-- A request without query parameters, headers and body. -/
def ofTarget (method path : String) : Request :=
  ⟨method, path, [], [], .missing⟩

/-- The request with a header, in place of one of the same name. -/
def withHeader (r : Request) (name value : String) : Request :=
  { r with headers := r.headers.insert name.toLower value }

/-- The request with a query parameter, in place of one of the same key. -/
def withQuery (r : Request) (key value : String) : Request :=
  { r with query := r.query.insert key value }

/-- The request with a body. -/
def withBody (r : Request) (body : Value) : Request :=
  { r with body }

/-- The value of a body that may be JSON; a text that is not stays as it is. -/
def bodyOfText (text : String) : Value :=
  (Json.read? text.toList).getD (.text text)

/-- The value of a header. -/
def header? (r : Request) (name : String) : Option String :=
  r.headers.get? name.toLower

/-- The headers as a table. -/
def headersTable (r : Request) : Value :=
  .ofTexts r.headers

/-- The query parameters as a table. -/
def queryTable (r : Request) : Value :=
  .ofTexts r.query

/-- The whole request as a table. -/
def table (r : Request) : Value :=
  .map [("body", r.body), ("headers", r.headersTable), ("method", .text r.method), ("path", .text r.path),
    ("query", r.queryTable)]

/-- A header that is added is read under its name in any case, and the others as before. -/
theorem header?_withHeader (r : Request) (name value key : String) :
    (r.withHeader name value).header? key = if key.toLower = name.toLower then some value else r.header? key :=
  Entries.get?_insert ..

end Request

end ConditionLang
