import SearchDsl.Service.Records
import SearchDsl.Service.Getters
/-!
Requests that build clauses, queries and intervals rules from records and specs.
-/

namespace SearchDsl.Service

def builtAnswer (kind : QueryKind) (c : Clause) : Json :=
  match clauseAnswer c with
  | .obj ms => Json.mkObj (ms ++ [("record_kind", .str kind.tag)])
  | j => j

def buildOp (req : Json) : Reply :=
  (readRecord (reqGet req "params") >>= fun r => (lift r.build).map fun c => (r.kind, c)).reply
    fun (k, c) => builtAnswer k c

def functionsAlone : ClauseRecord → Json
  | .functionScore _ functions _ =>
    .arr (functions.map fun f => resultJson f.build functionView)
  | _ => .null

/-- `build_typed`: the clause of a record, with the query it makes and that query's getters. -/
def buildTypedOp (req : Json) : Reply :=
  (readRecord (reqGet req "params") >>= fun r => (lift r.build).map fun c => (r, c)).reply
    fun (r, c) =>
      let q := Query.ofClause c
      match clauseAnswer c with
      | .obj ms => Json.mkObj (ms ++ [("query", q.toJson), ("getters", queryGetters q c.kind),
          ("functions_alone", functionsAlone r)])
      | j => j

def gettersOp (req : Json) : Reply :=
  .ok (resultJson (Clause.ofEnvelope (reqGet req "json")) fun c =>
    let q := Query.ofClause c
    Json.mkObj [("getters", queryGetters q c.kind), ("len", .int q.len)])

/-- `clauses_from_vec`: clause bodies by kind, as a clause list without its empty clauses. -/
def clausesFromVecOp (req : Json) : Reply := do
  let .arr items := reqGet req "json" | .error "expected an array at json"
  let pairs ← items.mapM fun item => do
    let .obj ms := item | .error "expected an object"
    let kind ← reqStr (.obj ms) "kind"
    pure (kind, (Json.Members.get? ms "body").getD .null)
  let built : Except Error (List Clause) :=
    pairs.mapM fun (kind, body) => QueryKind.parse kind >>= fun k => Clause.decodeBody k body
  .ok (resultJson built fun cs =>
    let kept := cs.filter fun c => !c.isEmpty
    Json.mkObj [("ok", .arr (Clause.envelopes kept)), ("view", listView kept)])

def queryBuildOp (req : Json) : Reply :=
  (readRecords (reqGet req "params") >>= fun rs => lift (Query.ofRecords rs)).reply queryAnswer

/-- `query_build_typed`: the query of one record, a list of records, or none. -/
def queryBuildTypedOp (req : Json) : Reply :=
  let records : Reading (List ClauseRecord) := match reqGet req "params" with
    | .null => .ok []
    | v => readRecords v
  (records >>= fun rs => (lift (Query.ofRecords rs)).map fun q => (rs.isEmpty, q)).reply
    fun (empty, q) =>
      match queryAnswer q with
      | .obj ms => Json.mkObj (ms ++ [("params_empty", .bool empty),
          ("clauses", .arr (Clause.envelopes q.clauses))])
      | j => j

def ruleBuildOp (req : Json) : Reply :=
  (readRule (reqGet req "rule")).reply fun r =>
    Json.mkObj [("ok", r.toJson), ("kind", .str r.kind.tag)]

/-- The script a request makes: inline text, a stored script, or text standing for an inline
script, in that priority, with its language and its parameters in key order. -/
def scriptArg (ms : Json.Members) : Reading Script := do
  let script : Script ← match ← textAt? ms "inline", ← textAt? ms "stored", ← textAt? ms "from_str" with
    | some source, _, _ => pure { source }
    | none, some id, _ => pure { id }
    | none, none, some source => pure { source }
    | none, none, none => pure {}
  let script := match ← textAt? ms "lang" with
    | some lang => script.withLang lang
    | none => script
  match present? ms "params" with
  | none => pure script
  | some (.obj ps) => pure (ps.foldl (fun s (kv : String × Json) => s.withParam kv.1 kv.2) script)
  | some _ => malformed "expected an object at params"

/-- `script_build`: a script made by its constructors, and the `script` clause of it. -/
def scriptBuildOp (req : Json) : Reply :=
  match req with
  | .obj ms =>
    (scriptArg ms).reply fun s =>
      Json.mkObj [("ok", s.toJson), ("is_empty", .bool s.isEmpty), ("serialize", s.toJson),
        ("query", resultJson (ScriptQuery.build (some s) []) fun q => (Clause.script q).envelope)]
  | _ => .error "expected a request object"

end SearchDsl.Service
