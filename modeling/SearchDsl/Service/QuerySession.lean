import SearchDsl.Service.BuildOps
import SearchDsl.Query.Edit
/-!
A session of steps on one query: storing and removing clauses, editing a stored clause through
its setters and parameters, and reading it back through its views and getters. Each step
answers with its result or its error, and with the state of the query after it; a step that
fails changes nothing.
-/

namespace SearchDsl.Service

/-- A step's entry: its result or its error, with the query's state after it. -/
def stepEntry (q : Query) (outcome : Reading Json) : Json :=
  let state : List (String × Json) :=
    [("query", q.toJson), ("len", .int q.len), ("is_empty", .bool q.isEmpty)]
  match outcome with
  | .ok r => Json.mkObj (("result", r) :: state)
  | .error (.malformed _) => Json.mkObj (("error", .str "DriverError") :: state)
  | .error (.failed e) =>
    match errorJson e with
    | .obj ms => Json.mkObj (ms ++ state)
    | j => j

def kindAt (ms : Json.Members) : Reading QueryKind := do
  let some tag ← textAt? ms "kind" | malformed "a step names a kind"
  lift (QueryKind.parse tag)

def memberAt (ms : Json.Members) (key : String) : Reading Json :=
  match Json.Members.get? ms key with
  | some v => .ok v
  | none => malformed ("missing " ++ key)

def scalarArg (ms : Json.Members) (key : String) : Reading Scalar := do
  let some s ← scalarAt ms key | malformed ("missing " ++ key)
  pure s

def indexAt (ms : Json.Members) (key : String) : Reading Nat := do
  match ← integerAt ms key with
  | some i => if 0 ≤ i then pure i.toNat else malformed ("negative " ++ key)
  | none => malformed ("missing " ++ key)

/-- The edit a setter call makes, its argument read as the setter takes it; a method that the
kind does not have is a malformed step. -/
def editOf (k : QueryKind) (method : String) (ms : Json.Members) : Reading ClauseEdit := do
  let arg := (Json.Members.get? ms "arg").getD .null
  let bool? := BoolRole.all.find? fun r => method = "push_" ++ r.key
  let boolRemove? := BoolRole.all.find? fun r => method = "remove_" ++ r.key
  match k, method with
  | .term, "set_field" => .setField <$> textAt ms "arg"
  | .term, "set_value" => .setValue <$> scalarArg ms "arg"
  | .terms, "push_value" => .pushValue <$> scalarArg ms "arg"
  | .termPrefix, "set_value" | .wildcard, "set_value" => .setPattern <$> textAt ms "arg"
  | .regexp, "set_flags" => .setFlags <$> textAt ms "arg"
  | .ids, "push" => .pushId <$> textAt ms "arg"
  | .matchText, "set_query" | .matchPhrase, "set_query" => .setQuery <$> scalarArg ms "arg"
  | .multiMatch, "set_match_type" => do
    let tag ← textAt ms "arg"
    .setMatchType <$> lift (Tagged.parse tag)
  | .disMax, "push_query" => .pushQuery <$> lift (Clause.ofEnvelope arg)
  | .disMax, "remove_query" => .removeQuery <$> indexAt ms "arg"
  | .boosting, "set_negative_boost" => do
    let some l ← looseAt ms "arg" | malformed "missing arg"
    pure (.setNegativeBoost l)
  | .boosting, "set_positive" => .setPositive <$> lift (Query.decode arg)
  | .boosting, "set_negative" => .setNegative <$> lift (Query.decode arg)
  | .constantScore, "set_filter" => .setFilter <$> lift (Query.decode arg)
  | .functionScore, "push_function" => .pushFunction <$> lift (ScoreFunction.decode arg)
  | .intervals, "set_rule" => .setRule <$> lift (Rule.decode arg)
  | .range, m =>
    match BoundSide.all.find? fun b => m = "set_" ++ b.key with
    | some side => .setBound side <$> scalarAt ms "arg"
    | none => malformed ("no method " ++ m)
  | .bool, m =>
    match bool?, boolRemove? with
    | some r, _ => .pushRole r <$> lift (Clause.ofEnvelope arg)
    | none, some r => .removeRole r <$> indexAt ms "arg"
    | none, none => malformed ("no method " ++ m)
  | _, m => malformed ("no method " ++ m)

/-- The clause list a role step names: a role of `bool`, or the clauses of `dis_max`. -/
def roleList (c : Clause) (role : String) : Reading (List Clause × (List Clause → Clause)) :=
  match c with
  | .bool .. =>
    match BoolRole.ofKey? role with
    | some r => .ok (c.role r, c.setRole r)
    | none => malformed ("no role " ++ role)
  | .disMax qs ps => .ok (qs, fun cs => .disMax cs ps)
  | _ => malformed "a role step needs bool or dis_max"

def storeClause (q : Query) (c : Clause) : Query × Json :=
  let (q', old) := q.set c
  (q', optJson (fun c => .str c.kind.tag) old)

def withStored (q : Query) (ms : Json.Members) (f : QueryKind → Clause → Reading (Query × Json)) :
    Reading (Query × Json) := do
  let k ← kindAt ms
  match q.get? k with
  | none => pure (q, absent)
  | some c => f k c

/-- One step: the query after it and its result. -/
def stepBy (q : Query) (what : String) (ms : Json.Members) : Reading (Query × Json) :=
  match what with
  | "set_json" => do
    let c ← lift (Clause.ofEnvelope ((Json.Members.get? ms "clause").getD .null))
    pure (storeClause q c)
  | "set_built" | "set_typed" => do
    let r ← readRecord ((Json.Members.get? ms "params").getD .null)
    let c ← lift r.build
    pure (storeClause q c)
  | "remove" => do
    let k ← kindAt ms
    let (q', old) := q.remove k
    pure (q', optJson Clause.envelope old)
  | "clear" => pure (.empty, .null)
  | "get" => do
    let k ← kindAt ms
    pure (q, optJson Clause.body (q.get? k))
  | "params" | "view" => withStored q ms fun _ c => pure (q, clauseView c)
  | "getters" => do
    let k ← kindAt ms
    pure (q, queryGetters q k)
  | "clauses" => pure (q, kindsJson q.kinds)
  | "clear_clause" => withStored q ms fun k _ => pure (q.modify k Clause.clear, .null)
  | "set_param" => withStored q ms fun k c => do
    let some key ← textAt? ms "param" | malformed "a step names a param"
    let some p := Param.ofKey? key | malformed ("unknown param " ++ key)
    let raw := (← flagAt ms "raw").getD false
    let v ← looseAt ms "value"
    if !raw && !k.params.contains p then malformed ("undeclared param " ++ key)
    else
      let ps ← lift (c.params.accept p v (if raw then none else some k))
      pure (q.modify k (·.setParams ps), .null)
  | "call" => withStored q ms fun k c => do
    let some method ← textAt? ms "method" | malformed "a step names a method"
    let e ← editOf k method ms
    let (c', removed) ← lift (c.edit e)
    pure (q.modify k fun _ => c', optJson Clause.envelope removed)
  | "set_scalar" =>
    match q.get? .range with
    | none => pure (q, absent)
    | some c => do
      let some side := BoundSide.ofKey? (← textAt ms "bound") | malformed "unknown bound"
      let (c', _) ← lift (c.edit (.setBound side (← scalarAt ms "arg")))
      pure (q.modify .range fun _ => c', .null)
  | "role_iter" => withStored q ms fun _ c => do
    let (cs, _) ← roleList c (← textAt ms "role")
    pure (q, listView cs)
  | "role_get" => withStored q ms fun _ c => do
    let (cs, _) ← roleList c (← textAt ms "role")
    let i ← indexAt ms "index"
    pure (q, optJson Clause.envelope cs[i]?)
  | "role_clear" => withStored q ms fun k c => do
    let (_, rebuild) ← roleList c (← textAt ms "role")
    pure (q.modify k fun _ => rebuild [], .null)
  | other => malformed ("unknown step " ++ other)

/-- Run one step; a failed step leaves the query as it was. -/
def runStep (q : Query) (step : Json) : Query × Json :=
  let outcome : Reading (Query × Json) := match step with
    | .obj ms =>
      match Json.Members.get? ms "do" with
      | some (.str what) => stepBy q what ms
      | _ => malformed "a step names what it does"
    | _ => malformed "a step is an object"
  match outcome with
  | .ok (q', r) => (q', stepEntry q' (.ok r))
  | .error f => (q, stepEntry q (.error f))

def runSteps (q : Query) : List Json → List Json
  | [] => []
  | step :: rest =>
    let (q', entry) := runStep q step
    entry :: runSteps q' rest

def queryOpsOp (req : Json) : Reply := do
  let .arr steps := reqGet req "ops" | .error "expected an array at ops"
  .ok (match Query.decode (reqGet req "init") with
    | .ok q => Json.mkObj [("steps", .arr (runSteps q steps))]
    | .error e => errorJson e)

end SearchDsl.Service
