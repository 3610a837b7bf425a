import SearchDsl.Query.TermLevel
/-!
Full-text clauses: analyzed matches on one field (`match`, `match_bool_prefix`, `match_phrase`,
`match_phrase_prefix`), a match over several fields (`multi_match`) and the two query-syntax
clauses. A field clause is empty without a field; the others are empty without a query text. A
body that sets parameters but lacks its query text is an error.
-/

namespace SearchDsl

/-- The analyzed field clauses: a field and the query to analyze. -/
structure MatchQuery where
  field : String := ""
  query : Option Scalar := none
  params : Params := {}
  deriving Repr, Inhabited

namespace MatchQuery

def isEmpty (q : MatchQuery) : Bool := q.field.isEmpty

def queryText (q : MatchQuery) : String := (q.query.map Scalar.text).getD ""

def body (k : QueryKind) (q : MatchQuery) : Json :=
  if q.isEmpty then .null
  else Shape.wrapField q.field
    (Shape.opt "query" (q.query.map Scalar.toJson) ++ q.params.members k.params)

def lacksQuery : Option Scalar → Bool
  | none => true
  | some s => s.isEmpty

def decode (k : QueryKind) (v : Json) : Except Error MatchQuery := do
  match ← Shape.fieldKeyed v (some "query") with
  | none => pure {}
  | some (field, ms) =>
    let query ← (Shape.scalar? ms "query").mapError (·.withField field)
    let params ← (Params.ofMembers k.params (some k) ms).mapError (·.withField field)
    if lacksQuery query then throw ((Error.ofKind .valueRequired).withField field)
    pure ⟨field, query, params⟩

def build (k : QueryKind) (field : String) (query : Option Scalar) (given : ParamInput) :
    Except Error MatchQuery := do
  requireField k field
  if lacksQuery query then throw (Error.atField k field (Error.ofKind .valueRequired))
  let params ← (Params.ofGiven k.params (some k) given).mapError (Error.atField k field)
  pure ⟨field, query, params⟩

def setQuery (q : MatchQuery) (s : Scalar) : MatchQuery := { q with query := some s }

end MatchQuery

/-- `multi_match`: a match over several fields. The type is kept only when it is not
`best_fields`. -/
structure MultiMatchQuery where
  query : String := ""
  fields : List String := []
  matchType : Option MultiMatchType := none
  params : Params := {}
  deriving Repr, Inhabited

namespace MultiMatchQuery

def isEmpty (q : MultiMatchQuery) : Bool := q.query.isEmpty

def typeOf (l : Loose) : Except Error (Option MultiMatchType) :=
  match Tagged.parse (α := MultiMatchType) l.text with
  | .ok t => .ok (if t = .bestFields then none else some t)
  | .error e => .error (e.withParam "type")

def body (q : MultiMatchQuery) : Json :=
  if q.isEmpty then .null
  else Json.mkObj ((("query", .str q.query)) ::
    (if q.fields.isEmpty then [] else [("fields", namesJson q.fields)]) ++
    Shape.opt "type" (q.matchType.map fun t => .str (Tagged.tag t)) ++
    q.params.members QueryKind.multiMatch.params)

def readType (ms : Json.Members) : Except Error (Option MultiMatchType) :=
  match Json.Members.get? ms "type" with
  | none => .ok none
  | some raw =>
    match Loose.ofJson raw with
    | .error received =>
      .error (((Error.ofKind .invalidParams).withParam "type").withReceived received)
    | .ok none => .ok none
    | .ok (some l) => typeOf l

def decode (v : Json) : Except Error MultiMatchQuery := do
  match ← Shape.flat v with
  | none => pure {}
  | some ms =>
    let query ← Shape.text ms "query"
    let fields ← Shape.names ms "fields"
    let matchType ← readType ms
    let params ← Params.ofMembers QueryKind.multiMatch.params (some .multiMatch) ms
    if query.isEmpty && !(params.isDefault && fields.isEmpty) then
      throw (Error.ofKind .valueRequired)
    pure ⟨query, fields, matchType, params⟩

def build (query : String) (fields : List String) (matchType : Option Loose)
    (given : ParamInput) : Except Error MultiMatchQuery := do
  if query.isEmpty then throw ((Error.ofKind .valueRequired).withClause .multiMatch)
  let t ← match matchType with
    | some l => (typeOf l).mapError (·.withClause .multiMatch)
    | none => pure none
  let params ← Params.ofGiven QueryKind.multiMatch.params (some .multiMatch) given
  pure ⟨query, fields, t, params⟩

def setMatchType (q : MultiMatchQuery) (t : MultiMatchType) : MultiMatchQuery :=
  { q with matchType := if t = .bestFields then none else some t }

end MultiMatchQuery

/-- `query_string`: a query in the full query syntax. -/
structure QueryStringQuery where
  query : String := ""
  defaultField : String := ""
  fields : List String := []
  params : Params := {}
  deriving Repr, Inhabited

namespace QueryStringQuery

def isEmpty (q : QueryStringQuery) : Bool := q.query.isEmpty

def body (q : QueryStringQuery) : Json :=
  if q.isEmpty then .null
  else Json.mkObj ((("query", .str q.query)) :: Shape.nonEmpty "default_field" q.defaultField ++
    (if q.fields.isEmpty then [] else [("fields", namesJson q.fields)]) ++
    q.params.members QueryKind.queryString.params)

def decode (v : Json) : Except Error QueryStringQuery := do
  match ← Shape.flat v with
  | none => pure {}
  | some ms =>
    let query ← Shape.text ms "query"
    let defaultField ← Shape.text ms "default_field"
    let fields ← Shape.names ms "fields"
    let params ← Params.ofMembers QueryKind.queryString.params (some .queryString) ms
    if query.isEmpty && !params.isDefault then throw (Error.ofKind .valueRequired)
    pure ⟨query, defaultField, fields, params⟩

def build (query defaultField : String) (fields : List String) (given : ParamInput) :
    Except Error QueryStringQuery := do
  if query.isEmpty then throw ((Error.ofKind .valueRequired).withClause .queryString)
  let params ← Params.ofGiven QueryKind.queryString.params (some .queryString) given
  pure ⟨query, defaultField, fields, params⟩

end QueryStringQuery

/-- `simple_query_string`: a query in the forgiving syntax, with optional syntax flags. -/
structure SimpleQueryStringQuery where
  query : String := ""
  fields : List String := []
  flags : String := ""
  params : Params := {}
  deriving Repr, Inhabited

namespace SimpleQueryStringQuery

def isEmpty (q : SimpleQueryStringQuery) : Bool := q.query.isEmpty

def body (q : SimpleQueryStringQuery) : Json :=
  if q.isEmpty then .null
  else Json.mkObj ((("query", .str q.query)) ::
    (if q.fields.isEmpty then [] else [("fields", namesJson q.fields)]) ++
    Shape.nonEmpty "flags" q.flags ++ q.params.members QueryKind.simpleQueryString.params)

def decode (v : Json) : Except Error SimpleQueryStringQuery := do
  match ← Shape.flat v with
  | none => pure {}
  | some ms =>
    let query ← Shape.text ms "query"
    let fields ← Shape.names ms "fields"
    let flags ← Shape.text ms "flags"
    let params ← Params.ofMembers QueryKind.simpleQueryString.params (some .simpleQueryString) ms
    if query.isEmpty && !params.isDefault then throw (Error.ofKind .valueRequired)
    pure ⟨query, fields, flags, params⟩

def build (query : String) (fields : List String) (flags : String) (given : ParamInput) :
    Except Error SimpleQueryStringQuery := do
  if query.isEmpty then throw ((Error.ofKind .valueRequired).withClause .simpleQueryString)
  let params ← Params.ofGiven QueryKind.simpleQueryString.params (some .simpleQueryString) given
  pure ⟨query, fields, flags, params⟩

end SimpleQueryStringQuery

end SearchDsl
