import SearchDsl.Error
import SearchDsl.Loose
/-!
Answers of the JSON-lines service. Every request line gets one answer line: the value the
library computed, an error object naming the error kind with its message and context, or
`{"error": "DriverError"}` when the request itself cannot be mapped to a library call. The
wording of a JSON or YAML reader's complaint is not part of an answer, so errors of those kinds
carry no message and no detail.
-/

namespace SearchDsl.Service

abbrev Reply := Except String Json

def badRequest : Json := Json.mkObj [("error", .str "DriverError")]

def objOpt (pairs : List (String × Option Json)) : Json :=
  Json.mkObj (pairs.filterMap fun p => p.2.map fun v => (p.1, v))

/-- The context object of an error, holding the parts that are set. -/
def contextJson (c : ErrorContext) (withDetail : Bool) : Json :=
  objOpt [("clause", c.clause.map fun k => .str k.tag),
    ("mapping", c.mapping.map fun t => .str t.tag),
    ("role", c.role.map .str), ("field", c.field.map .str), ("param", c.param.map .str),
    ("received", c.received.map .str),
    ("detail", if withDetail then c.detail.map .str else none),
    ("json", c.json.map .str)]

def errorJson (e : Error) : Json :=
  if e.kind.isSyntax then
    Json.mkObj [("error", .str e.kind.name), ("context", contextJson e.context false)]
  else
    Json.mkObj [("error", .str e.kind.name), ("message", .str e.message),
      ("context", contextJson e.context true)]

def mappingEntryJson (e : Error) : Json :=
  if e.kind.isSyntax then
    Json.mkObj [("kind", .str e.kind.name), ("context", contextJson e.context false)]
  else
    Json.mkObj [("kind", .str e.kind.name), ("message", .str e.message),
      ("context", contextJson e.context true)]

def mappingErrorsJson (m : MappingErrors) : Json :=
  objOpt [("error", some (.str "MappingError")),
    ("message", if m.errors.any (·.kind.isSyntax) then none else some (.str m.message)),
    ("errors", some (.arr (m.errors.map mappingEntryJson)))]

def resultJson {α : Type} (r : Except Error α) (enc : α → Json) : Json :=
  match r with
  | .ok a => enc a
  | .error e => errorJson e

def floatJson (f : Float) : Json := if f.isFinite then .float f else .null

def optJson {α : Type} (enc : α → Json) : Option α → Json
  | some a => enc a
  | none => .null

def strsJson (xs : List String) : Json := .arr (xs.map .str)

def reqStr (req : Json) (key : String) : Except String String :=
  match req.get? key with
  | some (.str s) => .ok s
  | _ => .error ("expected a string at " ++ key)

def reqStrOpt (req : Json) (key : String) : Except String (Option String) :=
  match req.get? key with
  | some (.str s) => .ok (some s)
  | some .null | none => .ok none
  | _ => .error ("expected a string at " ++ key)

def absent : Json := .str "absent"

def reqGet (req : Json) (key : String) : Json := (req.get? key).getD .null

end SearchDsl.Service
