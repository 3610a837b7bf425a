import SearchDsl.Search.Request
import SearchDsl.Service.BuildOps
import SearchDsl.Service.QueryOps
/-!
Requests about search request bodies: reading one from JSON or text, reading a source filter,
and assembling a body from a query, records, paging, a source filter, sorts and fields.
-/

namespace SearchDsl.Service

def searchAnswer (s : Search) : Json :=
  Json.mkObj [("ok", s.toJson), ("query_kinds", kindsJson ((s.query.map Query.kinds).getD []))]

def searchParseOp (req : Json) : Reply :=
  .ok (resultJson (Search.decode (reqGet req "json")) searchAnswer)

def searchParseTextOp (req : Json) : Reply := do
  let text ← reqStr req "text"
  .ok (resultJson (readText text >>= Search.decode) searchAnswer)

def sourceParseOp (req : Json) : Reply :=
  .ok (resultJson (SourceFilter.decode (reqGet req "json")) fun f => Json.mkObj [("ok", f.toJson)])

def searchText (s : Search) : Json := Json.mkObj [("ok", s.toJson), ("text", .str s.text)]

/-- An unsigned offset or count member of a request. -/
def countAt (ms : Json.Members) (key : String) : Reading (Option Nat) :=
  match present? ms key with
  | none => .ok none
  | some v =>
    match Json.u64? v with
    | some n => .ok (some n)
    | none => malformed ("expected an unsigned integer at " ++ key)

/-- The source filter a request gives: a flag, a pattern, or patterns. -/
def sourceArg (v : Json) : Reading SourceFilter :=
  match v with
  | .bool on => .ok (.enabled on)
  | .str p => .ok (.field p)
  | .arr items =>
    match items.mapM Json.str? with
    | some ps => .ok (.fields ps)
    | none => malformed "expected patterns at source"
  | _ => malformed "expected a flag, a pattern or patterns at source"

def sortArg : Json → Reading SortClause
  | .arr [.str f, .str o] =>
    match SortOrder.ofTag? o with
    | some order => .ok (SortClause.byField f order)
    | none => malformed "expected asc or desc"
  | _ => malformed "expected a field and a direction"

/-- The body a request assembles, in the order its parts are given: the query, then the query
built from records (which replaces it), paging, the source filter, sorts and fields. -/
def assembleSearch (ms : Json.Members) : Reading Search := do
  let s : Search := {}
  let s ← match Json.Members.get? ms "query" with
    | none => pure s
    | some raw => do pure { s with query := some (← lift (Query.decode raw)) }
  let s ← match present? ms "query_params" with
    | none => pure s
    | some raw => lift (s.withQueryRecords (← readRecords raw))
  let start ← countAt ms "from"
  let size ← countAt ms "size"
  let s := { s with start := start <|> s.start, size := size <|> s.size }
  let s ← match present? ms "source" with
    | none => pure s
    | some raw => do pure { s with source := some (← sourceArg raw) }
  let sorts ← match present? ms "sort" with
    | none => pure []
    | some (.arr items) => items.mapM sortArg
    | some _ => malformed "expected an array at sort"
  let fields ← match present? ms "fields" with
    | none => pure []
    | some (.arr items) => items.mapM fun
      | .str f => pure (FieldAndFormat.name f)
      | _ => malformed "expected a field name"
    | some _ => malformed "expected an array at fields"
  pure { s with sort := s.sort ++ sorts, fields := s.fields ++ fields }

def searchBuildOp (req : Json) : Reply :=
  match req with
  | .obj ms => (assembleSearch ms).reply searchText
  | _ => .error "expected a request object"

end SearchDsl.Service
