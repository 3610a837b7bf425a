import SearchDsl.Service.Values
import SearchDsl.Service.QueryOps
import SearchDsl.Service.QuerySession
import SearchDsl.Service.MappingSession
import SearchDsl.Service.Codec
import SearchDsl.Service.Conversions
import SearchDsl.Json.Reader
/-!
The service: one request per line, one answer per line. A request is a JSON object whose `op`
names the operation; a line that is not such an object, or names no operation, is answered with
the request error.
-/

namespace SearchDsl.Service

def keyedKind (name s : String) : Except Error String :=
  if name = "function_kind" then (FunctionKind.parse s).map FunctionKind.tag
  else (RuleKind.parse s).map RuleKind.tag

def enumOp (req : Json) : Reply := do
  let name ← reqStr req "enum"
  let v := reqGet req "value"
  match tagReader? name with
  | some r => tagEnumOp r v
  | none =>
    match name with
    | "field_type_params" =>
      let s ← match v with
        | .str s => .ok s
        | _ => .error "expected a type"
      .ok (resultJson (FieldType.parse s) fun t =>
        Json.mkObj [("params", strsJson (t.params.map MappingParam.key)),
          ("is_container", .bool t.isContainer)])
    | "function_kind" | "rule_kind" =>
      let s ← match v with
        | .str s => .ok s
        | _ => .error "expected a tag"
      .ok (Json.mkObj [("from_str", resultJson (keyedKind name s) .str)])
    | "param" =>
      let s ← match v with
        | .str s => .ok s
        | _ => .error "expected a key"
      .ok (Json.mkObj [("from_key", optJson (fun p => .str (Param.key p)) (Param.ofKey? s))])
    | "mapping_param" =>
      let s ← match v with
        | .str s => .ok s
        | _ => .error "expected a key"
      match MappingParam.ofKey? s with
      | some p =>
        .ok (Json.mkObj [("from_key", .str p.key),
          ("supported_by", strsJson ((FieldType.all.filter fun t => t.supports p).map FieldType.tag))])
      | none => .ok (Json.mkObj [("from_key", .null), ("supported_by", .null)])
    | _ => .error "unknown enum"

def enumDisplayOp (req : Json) : Reply := do
  let name ← reqStr req "enum"
  let v := reqGet req "value"
  match tagReader? name with
  | some r =>
    if name = "query_kind" ∨ name = "field_type" then
      let s ← match v with
        | .str s => .ok s
        | _ => .error "expected a tag"
      .ok (resultJson (r.parse s) fun tag => Json.mkObj [("display", .str tag)])
    else tagDisplayOp r v
  | none =>
    let s ← match v with
      | .str s => .ok s
      | _ => .error "expected a text"
    match name with
    | "function_kind" | "rule_kind" =>
      .ok (resultJson (keyedKind name s) fun tag => Json.mkObj [("display", .str tag)])
    | "mapping_param" =>
      .ok (Json.mkObj [("display", optJson (fun p => .str (MappingParam.key p)) (MappingParam.ofKey? s))])
    | "error_kind" =>
      .ok (Json.mkObj [("display", optJson (fun k => .str (ErrorKind.text k)) (ErrorKind.ofName? s))])
    | _ => .error "unknown enum"

def handler? : String → Option (Json → Reply)
  | "loose" => some looseOp
  | "enum" => some enumOp
  | "enum_display" => some enumDisplayOp
  | "query_parse" => some queryParseOp
  | "query_parse_str" => some queryParseTextOp
  | "clause_parse" => some clauseParseOp
  | "clause_envelope" => some clauseEnvelopeOp
  | "clauses_parse" => some clausesParseOp
  | "rule_parse" => some ruleParseOp
  | "interval_filter_parse" => some intervalFilterParseOp
  | "function_parse" => some functionParseOp
  | "script_parse" => some scriptParseOp
  | "build" => some buildOp
  | "query_build" => some queryBuildOp
  | "rule_build" => some ruleBuildOp
  | "build_typed" => some buildTypedOp
  | "query_build_typed" => some queryBuildTypedOp
  | "getters" => some gettersOp
  | "clauses_from_vec" => some clausesFromVecOp
  | "query_ops" => some queryOpsOp
  | "mapping_parse" => some mappingParseOp
  | "mappings_parse" => some mappingsParseOp
  | "mappings_parse_str" => some mappingsParseTextOp
  | "mapping_check" => some mappingCheckOp
  | "mapping_build" => some mappingBuildOp
  | "mapping_ops" => some mappingOpsOp
  | "mappings_build" => some mappingsBuildOp
  | "mappings_yaml" => some mappingsYamlOp
  | "search_parse" => some searchParseOp
  | "search_parse_str" => some searchParseTextOp
  | "source_parse" => some sourceParseOp
  | "search_build" => some searchBuildOp
  | "serde" => some decodeOp
  | "scalar_from" => some scalarFromOp
  | "loose_from" => some looseFromOp
  | "strings_from" => some stringsFromOp
  | "script_build" => some scriptBuildOp
  | _ => none

/-- The answer to one request. -/
def answer (req : Json) : Json :=
  match req.get? "op" with
  | some (.str op) =>
    match handler? op with
    | some h =>
      match h req with
      | .ok a => a
      | .error _ => badRequest
    | none => badRequest
  | _ => badRequest

def answerLine (line : String) : Option String :=
  if (Json.skipBlanks line.toList).isEmpty then none
  else
    match Json.parse line with
    | some req => some (answer req).render
    | none => some badRequest.render

end SearchDsl.Service
