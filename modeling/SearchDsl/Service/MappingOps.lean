import SearchDsl.Mapping.Document
import SearchDsl.Service.Records
import SearchDsl.Json.Reader
import SearchDsl.Yaml.Reader
/-!
Requests about field mappings and mapping documents: reading them, building them from records,
editing one step by step, and reading them back through their getters.
-/

namespace SearchDsl.Service

def validationJson (m : MappingErrors) : Json := if m.isEmpty then .null else mappingErrorsJson m

def mappingResultJson {α : Type} (r : Except MappingErrors α) (enc : α → Json) : Json :=
  match r with
  | .ok a => enc a
  | .error m => mappingErrorsJson m

def lookupPaths (req : Json) : Except String (List String) :=
  match reqGet req "lookup" with
  | .null => .ok []
  | .arr items => items.mapM fun
    | .str s => .ok s
    | _ => .error "expected a path"
  | _ => .error "expected an array at lookup"

def lookupJson (fs : Fields) (paths : List String) : Json :=
  .arr (paths.map fun p => optJson (fun m => .str m.type.tag) (fs.lookup p))

def fieldsView (fs : Fields) : Json :=
  Json.mkObj [("len", .int fs.len), ("is_empty", .bool fs.isEmpty), ("names", strsJson fs.names),
    ("items", .arr (fs.entries.map fun (n, m) => .arr [.str n, .str m.type.tag]))]

def mappingGetters (m : Mapping) : Json :=
  let text (p : MappingParam) : Json := match m.setting? p with
    | some (.text s) => .str s
    | _ => .null
  let real (p : MappingParam) : Json := match m.setting? p with
    | some (.real f) => .float f
    | _ => .null
  let flag (p : MappingParam) : Json := match m.setting? p with
    | some (.flag b) => .bool b
    | _ => .null
  let count (p : MappingParam) : Json := match m.setting? p with
    | some (.count n) => .int n
    | _ => .null
  let scalar (p : MappingParam) : Json := match m.setting? p with
    | some (.scalar s) => s.toJson
    | _ => .null
  let tag : Json := match m.setting? .dynamic with
    | some (.dynamic d) => .str (Tagged.tag d)
    | _ => .null
  Json.mkObj [("type", .str m.type.tag), ("analyzer", text .analyzer),
    ("search_analyzer", text .searchAnalyzer), ("normalizer", text .normalizer),
    ("format", text .format), ("path", text .path), ("boost", real .boost),
    ("doc_values", flag .docValues), ("index", flag .index), ("store", flag .store),
    ("enabled", flag .enabled), ("dims", count .dims), ("ignore_above", count .ignoreAbove),
    ("max_shingle_size", count .maxShingleSize), ("scaling_factor", real .scalingFactor),
    ("dynamic", tag),
    ("index_options", match m.setting? .indexOptions with
      | some (.indexOptions v) => .str (Tagged.tag v)
      | _ => .null),
    ("orientation", match m.setting? .orientation with
      | some (.orientation v) => .str (Tagged.tag v)
      | _ => .null),
    ("similarity", match m.setting? .similarity with
      | some (.similarity v) => .str (Tagged.tag v)
      | _ => .null),
    ("term_vector", match m.setting? .termVector with
      | some (.termVector v) => .str (Tagged.tag v)
      | _ => .null),
    ("null_value", scalar .nullValue), ("value", scalar .value),
    ("copy_to", match m.setting? .copyTo with
      | some (.names xs) => strsJson xs
      | _ => .null),
    ("meta", match m.setting? .metadata with
      | some (.metadata es) => Json.mkObj (es.map fun (k, v) => (k, .str v))
      | _ => Json.mkObj []),
    ("relations", match m.setting? .relations with
      | some (.relations es) => Json.mkObj (es.map fun (k, v) => (k, strsJson v))
      | _ => Json.mkObj []),
    ("fields", strsJson m.fields.names), ("properties", strsJson m.properties.names)]

def mappingParseOp (req : Json) : Reply := do
  let paths ← lookupPaths req
  .ok (mappingResultJson (Mapping.decode (reqGet req "json")) fun m =>
    Json.mkObj [("ok", m.toJson), ("type", .str m.type.tag),
      ("lookup", lookupJson m.properties paths), ("validate", validationJson m.validate)])

def mappingsAnswer (paths : List String) (d : Mappings) : Json :=
  Json.mkObj [("ok", d.toJson), ("lookup", lookupJson d.properties paths),
    ("validate", validationJson d.validate)]

def mappingsParseOp (req : Json) : Reply := do
  let paths ← lookupPaths req
  .ok (mappingResultJson (Mappings.decode (reqGet req "json")) (mappingsAnswer paths))

def mappingsParseTextOp (req : Json) : Reply := do
  let text ← reqStr req "text"
  let read : Except MappingErrors Mappings := match Json.parse text with
    | some v => Mappings.decode v
    | none => .error (.single (Error.ofKind .invalidJson))
  .ok (mappingResultJson read (mappingsAnswer []))

def mappingsYamlOp (req : Json) : Reply := do
  let text ← reqStr req "text"
  let read : Except MappingErrors Mappings := match Yaml.read text with
    | .ok v => Mappings.decode v
    | .error _ => .error (.single (Error.ofKind .invalidYaml))
  .ok (mappingResultJson read (mappingsAnswer []))

/-- `mapping_check`: a mapping's getters, or what its errors say about themselves. -/
def mappingCheckOp (req : Json) : Reply := do
  let names ← match reqGet req "contains" with
    | .arr items => items.mapM fun
      | .str s => .ok s
      | _ => .error "expected a kind name"
    | .null => .ok []
    | _ => .error "expected an array at contains"
  .ok (match Mapping.decode (reqGet req "json") with
    | .ok m => Json.mkObj [("getters", mappingGetters m), ("serialize", m.toJson)]
    | .error errs =>
      let kinds := errs.errors.map (·.kind)
      let contains := names.filterMap fun n =>
        (ErrorKind.ofName? n).map fun k => (n, Json.bool (kinds.contains k))
      Json.mkObj [("error", .str "MappingError"), ("api", Json.mkObj [("len", .int kinds.length),
        ("is_empty", .bool kinds.isEmpty), ("kinds", .arr (kinds.map fun k => .str k.name)),
        ("contains", Json.mkObj contains)])])

def mappingTextParams : List MappingParam :=
  [.analyzer, .searchAnalyzer, .searchQuoteAnalyzer, .normalizer, .format, .path]

/-- The JSON a record member gives a mapping parameter, checked for the member's kind. -/
def mappingRecordValue (p : MappingParam) (v : Json) : Reading Json :=
  if mappingTextParams.contains p then
    match v with
    | .str s => .ok (.str s)
    | _ => malformed ("expected a string at " ++ p.key)
  else
    match p with
    | .copyTo =>
      match namesOfJson? v with
      | some xs => .ok (strsJson xs)
      | none => malformed "expected names at copy_to"
    | .metadata =>
      match v with
      | .obj ms =>
        if ms.all fun (_, x) => x matches .str _ then .ok v else malformed "expected texts at meta"
      | _ => malformed "expected an object at meta"
    | .relations =>
      match v with
      | .obj ms => do
        let entries ← ms.mapM fun (k, x) =>
          match namesOfJson? x with
          | some xs => Except.ok (k, strsJson xs)
          | none => malformed "expected names at relations"
        pure (Json.mkObj entries)
      | _ => malformed "expected an object at relations"
    | .nullValue | .value => Scalar.toJson <$> scalarOf v
    | _ =>
      match Loose.ofJson v with
      | .ok (some l) => .ok l.toJson
      | _ => malformed ("expected a scalar at " ++ p.key)

def recordChildren (ms : Json.Members) (key : String) :
    Except String (Except MappingErrors (Option Fields)) :=
  match present? ms key with
  | none => .ok (.ok none)
  | some v => .ok ((Fields.decode v).map some)

/-- `mapping_build`: a mapping built from a record of parameter values. -/
def mappingBuildOp (req : Json) : Reply := do
  let tag ← reqStr req "type"
  let .obj ms := reqGet req "params" | .error "expected an object at params"
  let given ← (MappingParam.all.filter fun p => p ≠ .fields ∧ p ≠ .properties).filterMapM fun p =>
    match present? ms p.key with
    | none => .ok none
    | some v =>
      match mappingRecordValue p v with
      | .ok j => .ok (some (p, j))
      | .error (.malformed why) => .error why
      | .error (.failed _) => .error "unexpected failure"
  let fields ← recordChildren ms "fields"
  let properties ← recordChildren ms "properties"
  .ok (match FieldType.parse tag with
    | .error e => errorJson e
    | .ok t =>
      match fields, properties with
      | .error m, _ | _, .error m => mappingErrorsJson m
      | .ok fs, .ok ps => mappingResultJson (Mapping.build t given fs ps) fun m =>
        Json.mkObj [("ok", m.toJson)])

end SearchDsl.Service
