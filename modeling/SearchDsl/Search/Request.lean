import SearchDsl.Search.Source
import SearchDsl.Query.Record
/-!
The body of a search request: one query beside paging, source filtering, returned fields,
sorting and response options; aggregations and runtime mappings are carried as given.

Apart from the query and the source filter, which are read by their own readers and keep their
errors, the members of a body are read by their JSON shapes alone: an offset is an unsigned
integer, a flag a boolean, a list an array. A member of the wrong shape makes the whole body
unreadable, with no more said. Unknown members are ignored; `aggregations` is another name of
`aggs`, and a body may not hold both.

A body is written two ways: as a JSON value, whose objects are sorted by key, and as text, whose
members follow the order of the body's parts.
-/

namespace SearchDsl

/-- An entry of `fields` or `docvalue_fields`: a field pattern, maybe with a format. -/
inductive FieldAndFormat where
  | name (pattern : String)
  | spec (field : String) (format : Option String)
  deriving Repr, Inhabited

/-- A point in time to search against. -/
structure PointInTime where
  id : String
  keepAlive : Option String := none
  deriving Repr, Inhabited

/-- The direction of a sort. -/
inductive SortOrder where
  | asc | desc
  deriving Repr, Inhabited, DecidableEq

/-- The options of a sort on one field. -/
structure SortOptions where
  order : Option SortOrder := none
  mode : Option String := none
  missing : Option Json := none
  unmappedType : Option String := none
  format : Option String := none
  deriving Repr, Inhabited

/-- How one field sorts: a direction, or options. -/
inductive SortSpec where
  | order (o : SortOrder)
  | options (o : SortOptions)
  deriving Repr, Inhabited

/-- One sort clause: a field name (or `_score`, `_doc`), or fields with their sorts. -/
inductive SortClause where
  | field (name : String)
  | object (entries : List (String × SortSpec))
  deriving Repr, Inhabited

/-- Whether to count hits exactly, or up to a number. -/
inductive TrackTotalHits where
  | flag (b : Bool)
  | count (n : Nat)
  deriving Repr, Inhabited

/-- A search request body. -/
structure Search where
  query : Option Query := none
  start : Option Nat := none
  size : Option Nat := none
  source : Option SourceFilter := none
  fields : List FieldAndFormat := []
  docvalueFields : List FieldAndFormat := []
  indicesBoost : List (String × Float) := []
  minScore : Option Float := none
  pit : Option PointInTime := none
  stats : List String := []
  terminateAfter : Option Nat := none
  timeout : Option String := none
  version : Option Bool := none
  explain : Option Bool := none
  seqNoPrimaryTerm : Option Bool := none
  runtimeMappings : Json.Members := []
  aggs : Json.Members := []
  sort : List SortClause := []
  trackTotalHits : Option TrackTotalHits := none
  deriving Repr, Inhabited

namespace Json

def u64? : Json → Option Nat
  | .int i => if 0 ≤ i ∧ i < Nat.pow 2 64 then some i.toNat else none
  | _ => none

def f64? : Json → Option Float
  | .int i => some (Loose.intToFloat i)
  | .float f => some f
  | _ => none

def bool? : Json → Option Bool
  | .bool b => some b
  | _ => none

def optional? {α : Type} (read : Json → Option α) : Json → Option (Option α)
  | .null => some none
  | v => (read v).map some

def items? {α : Type} (read : Json → Option α) : Json → Option (List α)
  | .arr items => items.mapM read
  | _ => none

mutual

def sortDeep : Json → Json
  | .arr items => .arr (sortItems items)
  | .obj ms => Json.mkObj (sortMembers ms)
  | v => v

def sortItems : List Json → List Json
  | [] => []
  | v :: rest => sortDeep v :: sortItems rest

def sortMembers : List (String × Json) → List (String × Json)
  | [] => []
  | (k, v) :: rest => (k, sortDeep v) :: sortMembers rest

end

end Json

namespace SortOrder

def tag : SortOrder → String
  | asc => "asc"
  | desc => "desc"

def ofTag? : String → Option SortOrder
  | "asc" => some asc
  | "desc" => some desc
  | _ => none

def ofJson? : Json → Option SortOrder
  | .str s => ofTag? s
  | .obj [(s, .null)] => ofTag? s
  | _ => none

end SortOrder

namespace FieldAndFormat

def ofJson? : Json → Option FieldAndFormat
  | .str s => some (name s)
  | .obj ms => do
    let field ← (Json.Members.get? ms "field").bind Json.str?
    let format ← match Json.Members.get? ms "format" with
      | none => some none
      | some v => Json.optional? Json.str? v
    pure (spec field format)
  | _ => none

def toJson : FieldAndFormat → Json
  | name s => .str s
  | spec field format => .obj ([("field", .str field)] ++ (format.map fun f => ("format", .str f)).toList)

end FieldAndFormat

namespace PointInTime

/-- A point in time: an object of `id` and `keep_alive`, or an array of them in that order. -/
def ofJson? : Json → Option PointInTime
  | .obj ms => do
    let id ← (Json.Members.get? ms "id").bind Json.str?
    let keepAlive ← match Json.Members.get? ms "keep_alive" with
      | none => some none
      | some v => Json.optional? Json.str? v
    pure ⟨id, keepAlive⟩
  | .arr [.str id] => some ⟨id, none⟩
  | .arr [.str id, k] => (Json.optional? Json.str? k).map fun keepAlive => ⟨id, keepAlive⟩
  | _ => none

def toJson (p : PointInTime) : Json :=
  .obj ([("id", .str p.id)] ++ (p.keepAlive.map fun k => ("keep_alive", .str k)).toList)

end PointInTime

namespace SortOptions

/-- Sort options from an object of named options, or from an array that gives them by position:
order, mode, missing, unmapped type and format. An absent or null option is unset. -/
def ofJson? : Json → Option SortOptions
  | .obj ms => ofSlots (Json.Members.get? ms "order") (Json.Members.get? ms "mode")
      (Json.Members.get? ms "missing") (Json.Members.get? ms "unmapped_type")
      (Json.Members.get? ms "format")
  | .arr items =>
    if items.length ≤ 5 then ofSlots items[0]? items[1]? items[2]? items[3]? items[4]? else none
  | _ => none
where
  ofSlots (order mode missing unmapped format : Option Json) : Option SortOptions := do
    let get {α : Type} (slot : Option Json) (read : Json → Option α) : Option (Option α) :=
      match slot with
      | none => some none
      | some v => Json.optional? read v
    pure { order := ← get order SortOrder.ofJson?, mode := ← get mode Json.str?,
           missing := ← get missing some, unmappedType := ← get unmapped Json.str?,
           format := ← get format Json.str? }

def toJson (o : SortOptions) : Json :=
  .obj ((o.order.map fun x => ("order", Json.str x.tag)).toList ++
    (o.mode.map fun x => ("mode", Json.str x)).toList ++ (o.missing.map fun x => ("missing", x)).toList ++
    (o.unmappedType.map fun x => ("unmapped_type", Json.str x)).toList ++
    (o.format.map fun x => ("format", Json.str x)).toList)

end SortOptions

def SortSpec.ofJson? (v : Json) : Option SortSpec :=
  match SortOrder.ofJson? v with
  | some o => some (.order o)
  | none => (SortOptions.ofJson? v).map .options

def SortSpec.toJson : SortSpec → Json
  | .order o => .str o.tag
  | .options o => o.toJson

namespace SortClause

def ofJson? : Json → Option SortClause
  | .str s => some (field s)
  | .obj ms =>
    (ms.mapM fun (kv : String × Json) => (SortSpec.ofJson? kv.2).map fun s => (kv.1, s)).map object
  | _ => none

def toJson : SortClause → Json
  | field s => .str s
  | object entries => .obj (entries.map fun (k, s) => (k, s.toJson))

def byField (f : String) (o : SortOrder) : SortClause := object [(f, .order o)]

end SortClause

namespace TrackTotalHits

def ofJson? : Json → Option TrackTotalHits
  | .bool b => some (flag b)
  | v => (Json.u64? v).map count

def toJson : TrackTotalHits → Json
  | flag b => .bool b
  | count n => .int n

end TrackTotalHits

namespace Search

/-- Read one member of a body into it; none when its value has the wrong shape. The query and
the source filter are read by their own readers, whose errors are not kept here. -/
def readMember (s : Search) (key : String) (v : Json) : Option Search :=
  match key with
  | "query" => do
    let q ← Json.optional? (fun j => (Query.decode j).toOption) v
    pure { s with query := q }
  | "from" => do pure { s with start := ← Json.optional? Json.u64? v }
  | "size" => do pure { s with size := ← Json.optional? Json.u64? v }
  | "_source" => do
    pure { s with source := ← Json.optional? (fun j => (SourceFilter.decode j).toOption) v }
  | "fields" => do pure { s with fields := ← Json.items? FieldAndFormat.ofJson? v }
  | "docvalue_fields" => do pure { s with docvalueFields := ← Json.items? FieldAndFormat.ofJson? v }
  | "indices_boost" => do
    let ms ← Json.members? v
    let boosts ← ms.mapM fun (kx : String × Json) => (Json.f64? kx.2).map fun f => (kx.1, f)
    pure { s with indicesBoost := boosts }
  | "min_score" => do pure { s with minScore := ← Json.optional? Json.f64? v }
  | "pit" => do pure { s with pit := ← Json.optional? PointInTime.ofJson? v }
  | "stats" => do pure { s with stats := ← Json.items? Json.str? v }
  | "terminate_after" => do pure { s with terminateAfter := ← Json.optional? Json.u64? v }
  | "timeout" => do pure { s with timeout := ← Json.optional? Json.str? v }
  | "version" => do pure { s with version := ← Json.optional? Json.bool? v }
  | "explain" => do pure { s with explain := ← Json.optional? Json.bool? v }
  | "seq_no_primary_term" => do pure { s with seqNoPrimaryTerm := ← Json.optional? Json.bool? v }
  | "runtime_mappings" => do pure { s with runtimeMappings := ← Json.members? v }
  | "aggs" | "aggregations" => do pure { s with aggs := ← Json.members? v }
  | "sort" => do pure { s with sort := ← Json.items? SortClause.ofJson? v }
  | "track_total_hits" => do pure { s with trackTotalHits := ← Json.optional? TrackTotalHits.ofJson? v }
  | _ => some s

/-- Read a body's members by their shapes; none when one has the wrong shape, or when both
`aggs` and `aggregations` are given. -/
def ofMembers? (ms : Json.Members) : Option Search :=
  if (Json.Members.get? ms "aggs").isSome && (Json.Members.get? ms "aggregations").isSome then none
  else ms.foldlM (fun s (k, v) => s.readMember k v) {}

def memberNames : List String :=
  ["query", "from", "size", "_source", "fields", "docvalue_fields", "indices_boost", "min_score",
   "pit", "stats", "terminate_after", "timeout", "version", "explain", "seq_no_primary_term",
   "runtime_mappings", "aggs", "sort", "track_total_hits"]

/-- Read a body from JSON by the shapes of its members alone: an object of members, or an array
giving the first members by position. -/
def ofJson? : Json → Option Search
  | .obj ms => ofMembers? ms
  | .arr items =>
    if items.length ≤ memberNames.length then
      (memberNames.zip items).foldlM (fun s (k, v) => s.readMember k v) {}
    else none
  | _ => none

/-- Read a body: an object whose source filter, if given, and query keep their own errors; the
other members are read by their shapes, a wrong one being a JSON error. -/
def decode (v : Json) : Except Error Search :=
  match v with
  | .obj ms => do
    if let some raw := Json.Members.get? ms "_source" then
      discard (SourceFilter.decode raw)
    let query ← match Json.Members.get? ms "query" with
      | none | some .null => pure none
      | some raw => some <$> Query.decode raw
    match ofMembers? (ms.filter fun (k, _) => k ≠ "query") with
    | some s => pure { s with query }
    | none => throw (Error.ofKind .invalidJson)
  | other => .error (((Error.ofKind .invalidParams).withDetail
      "expected a search request object").withJson other)

/-- The members of a body in the order of its parts; unset and empty parts are left out, and
so is a query without content. -/
def members (s : Search) : List (String × Json) :=
  let opt {α : Type} (key : String) (enc : α → Json) : Option α → List (String × Json)
    | some a => [(key, enc a)]
    | none => []
  let list {α : Type} (key : String) (enc : α → Json) : List α → List (String × Json)
    | [] => []
    | xs => [(key, .arr (xs.map enc))]
  opt "query" Query.toJson (s.query.filter fun q => !q.isEmpty) ++
    opt "from" (fun n => .int n) s.start ++ opt "size" (fun n => .int n) s.size ++
    opt "_source" SourceFilter.toJson s.source ++ list "fields" FieldAndFormat.toJson s.fields ++
    list "docvalue_fields" FieldAndFormat.toJson s.docvalueFields ++
    (if s.indicesBoost.isEmpty then []
      else [("indices_boost", Json.mkObj (s.indicesBoost.map fun (k, f) => (k, .float f)))]) ++
    opt "min_score" .float s.minScore ++ opt "pit" PointInTime.toJson s.pit ++
    list "stats" Json.str s.stats ++ opt "terminate_after" (fun n => .int n) s.terminateAfter ++
    opt "timeout" .str s.timeout ++ opt "version" .bool s.version ++
    opt "explain" .bool s.explain ++ opt "seq_no_primary_term" .bool s.seqNoPrimaryTerm ++
    (if s.runtimeMappings.isEmpty then [] else [("runtime_mappings", .obj s.runtimeMappings)]) ++
    (if s.aggs.isEmpty then [] else [("aggs", .obj s.aggs)]) ++
    list "sort" SortClause.toJson s.sort ++ opt "track_total_hits" TrackTotalHits.toJson s.trackTotalHits

def toJson (s : Search) : Json := Json.sortDeep (.obj s.members)

def text (s : Search) : String := Json.render (.obj s.members)

def withQueryRecords (s : Search) (rs : List ClauseRecord) : Except Error Search :=
  (Query.ofRecords rs).map fun q => { s with query := some q }

end Search

end SearchDsl
