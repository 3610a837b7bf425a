import SearchDsl.Service.QueryView
import SearchDsl.Json.Reader
/-!
Requests that read queries, clauses and clause lists from JSON.
-/

namespace SearchDsl.Service

def syntaxError : Error := Error.ofKind .invalidJson

def readText (s : String) : Except Error Json :=
  match Json.parse s with
  | some v => .ok v
  | none => .error syntaxError

def queryParseOp (req : Json) : Reply :=
  .ok (resultJson (Query.decode (reqGet req "json")) queryAnswer)

def queryParseTextOp (req : Json) : Reply := do
  let text ← reqStr req "text"
  .ok (resultJson (readText text >>= Query.decode) queryAnswer)

def clauseParseOp (req : Json) : Reply := do
  let kind ← reqStr req "kind"
  .ok (resultJson (QueryKind.parse kind >>= fun k => Clause.decodeBody k (reqGet req "json"))
    clauseAnswer)

def clauseEnvelopeOp (req : Json) : Reply :=
  .ok (resultJson (Clause.ofEnvelope (reqGet req "json")) clauseAnswer)

def clausesParseOp (req : Json) : Reply :=
  .ok (resultJson (Clause.decodeTopList (reqGet req "json")) clauseListAnswer)

def ruleParseOp (req : Json) : Reply :=
  .ok (resultJson (Rule.decode (reqGet req "json")) fun r =>
    Json.mkObj [("ok", r.toJson), ("kind", .str r.kind.tag)])

def intervalFilterParseOp (req : Json) : Reply :=
  .ok (resultJson (IntervalFilter.decode (reqGet req "json")) fun f =>
    Json.mkObj [("ok", f.toJson)])

def functionParseOp (req : Json) : Reply :=
  .ok (resultJson (ScoreFunction.decode (reqGet req "json")) fun f =>
    Json.mkObj [("ok", f.toJson), ("kind", .str f.kind.tag), ("weight", optJson .float f.weight?)])

def scriptParseOp (req : Json) : Reply :=
  .ok (resultJson (Script.decode (reqGet req "json")) fun s =>
    Json.mkObj [("ok", s.toJson), ("is_empty", .bool s.isEmpty)])

end SearchDsl.Service
