import SearchDsl.Service.Answer
import SearchDsl.Tag
/-!
Requests about single values: loose coercions and the tag sets.
-/

namespace SearchDsl.Service

def looseView (l : Loose) : Json :=
  Json.mkObj [("to_bool", optJson .bool l.toBool?), ("to_i64", optJson .int l.toI64?),
    ("to_f64", optJson floatJson l.toF64?), ("to_text", .str l.text), ("display", .str l.display)]

def looseOp (req : Json) : Reply :=
  match Loose.ofJson (reqGet req "value") with
  | .ok none => .ok (Json.mkObj [("none", .bool true)])
  | .ok (some l) => .ok (looseView l)
  | .error text => .ok (Json.mkObj [("rejected", .str text)])

/-- How a tag set reads text, and whether it reads other JSON through its loose text. -/
structure TagReader where
  parse : String → Except Error String
  looseInput : Bool

def TagReader.ofTagged (α : Type) [Tagged α] : TagReader :=
  ⟨fun s => (Tagged.parse (α := α) s).map Tagged.tag, true⟩

def tagReader? : String → Option TagReader
  | "operator" => some (.ofTagged Operator)
  | "zero_terms" => some (.ofTagged ZeroTerms)
  | "relation" => some (.ofTagged Relation)
  | "similarity" => some (.ofTagged Similarity)
  | "index_options" => some (.ofTagged IndexOptions)
  | "orientation" => some (.ofTagged Orientation)
  | "term_vector" => some (.ofTagged TermVector)
  | "boost_mode" => some (.ofTagged BoostMode)
  | "score_mode" => some (.ofTagged ScoreMode)
  | "modifier" => some (.ofTagged Modifier)
  | "dynamic" => some (.ofTagged Dynamic)
  | "multi_match_type" => some (.ofTagged MultiMatchType)
  | "spatial_relation" => some (.ofTagged SpatialRelation)
  | "rewrite" => some ⟨fun s => (Rewrite.parse s).map Rewrite.tag, false⟩
  | "query_kind" => some ⟨fun s => (QueryKind.parse s).map QueryKind.tag, false⟩
  | "field_type" => some ⟨fun s => (FieldType.parse s).map FieldType.tag, false⟩
  | _ => none

def deserializeError (msg : Option String) : Json :=
  objOpt [("error", some (.str "Deserialize")), ("message", msg.map .str)]

/-- A tag read from JSON the way a deserializer reads it. -/
def TagReader.deserialize (r : TagReader) (v : Json) : Json :=
  let text? : Option String :=
    if r.looseInput then
      match Loose.ofJson v with
      | .ok (some l) => some l.text
      | _ => none
    else v.str?
  match text? with
  | none => deserializeError none
  | some t =>
    match r.parse t with
    | .ok tag => .str tag
    | .error e => deserializeError (some e.message)

def tagEnumOp (r : TagReader) (v : Json) : Reply :=
  let fromStr : Json := match v with
    | .str s => resultJson (r.parse s) .str
    | _ => .null
  .ok (Json.mkObj [("from_str", fromStr), ("deserialize", r.deserialize v)])

/-- `enum_display` on a tag set: the canonical text of a tag, also as loose text. -/
def tagDisplayOp (r : TagReader) (v : Json) : Reply := do
  let s ← match v with
    | .str s => .ok s
    | _ => .error "expected a tag"
  match r.parse s with
  | .ok tag => .ok (Json.mkObj [("display", .str tag), ("loose", .str tag)])
  | .error e => .ok (errorJson e)

end SearchDsl.Service
