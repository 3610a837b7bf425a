import SearchDsl.Service.SearchOps
import SearchDsl.Service.MappingOps
import SearchDsl.Service.Values
/-!
Reading a value of a named type from JSON and writing it back, as a generic decoder of the type
would: the answer is the value written again, or a decoding failure whose message is what the
type's own reader says about the input.
-/

namespace SearchDsl.Service

def decoded (v : Json) : Json := Json.mkObj [("ok", v)]

def decodedOr {α : Type} (r : Except Error α) (enc : α → Json) : Json :=
  match r with
  | .ok a => decoded (enc a)
  | .error e => deserializeError (some e.message)

def decodedMapping {α : Type} (r : Except MappingErrors α) (enc : α → Json) : Json :=
  match r with
  | .ok a => decoded (enc a)
  | .error m => deserializeError (some m.message)

def decodedShape {α : Type} (r : Option α) (enc : α → Json) (expected : String) (v : Json) : Json :=
  match r with
  | some a => decoded (enc a)
  | none => deserializeError (some ("expected " ++ expected ++ ", got " ++ v.render))

/-- A value of the named type read from JSON and written again; none for an unknown type. -/
def decodeAs? (type : String) (v : Json) : Option Json :=
  match type with
  | "query" => some (decodedOr (Query.decode v) Query.toJson)
  | "clause" => some (decodedOr (Clause.ofEnvelope v) Clause.envelope)
  | "clauses" => some (decodedOr (Clause.decodeTopList v) fun cs => .arr (Clause.envelopes cs))
  | "rule" => some (decodedOr (Rule.decode v) Rule.toJson)
  | "script" => some (decodedOr (Script.decode v) Script.toJson)
  | "mapping" => some (decodedMapping (Mapping.decode v) Mapping.toJson)
  | "fields" => some (decodedMapping (Fields.decode v) Fields.toJson)
  | "mappings" => some (decodedMapping (Mappings.decode v) Mappings.toJson)
  | "scalar" => some (decodedShape (Scalar.ofJson? v) Scalar.toJson "a scalar" v)
  | "strings" => some (decodedShape (namesOfJson? v) namesJson "a string or an array of strings" v)
  | "source" => some (decodedOr (SourceFilter.decode v) SourceFilter.toJson)
  | "search" =>
    some (match Search.ofJson? v with
      | some s => searchText s
      | none => deserializeError none)
  | _ => none

def decodeOp (req : Json) : Reply := do
  let type ← reqStr req "type"
  match decodeAs? type (reqGet req "json") with
  | some a => .ok a
  | none => .error ("unknown type " ++ type)

end SearchDsl.Service
