import SearchDsl.Query.Clause
/-!
Reading queries, clauses and clause lists from JSON.

* `Query.decode` reads an object of clause bodies by kind, in key order; the first error wins,
  an unknown kind is an error, and a later clause of a kind replaces an earlier one.
* `Clause.decodeBody` reads the body of a clause of a known kind; its errors name the kind and
  the body.
* `Clause.decodeList` reads a clause list: an array of envelopes or one envelope object. Null
  items and unknown kinds are skipped, empty clauses dropped, and an error names the item's
  position in its role (`must[2]`).

The readers call each other through nested values, so they are one family, total by the size
of the JSON they read: each call goes into a value inside the one it reads, or to a reader of
lower rank on the same value.
-/

namespace SearchDsl

/-- The negative boost of a loose value: in (0, 1]. A missing value is shown as `nothing`. -/
def negativeBoostOf (v : Option Loose) : Except Error Float :=
  let fail (received : String) : Error :=
    (((Error.ofKind .invalidNegativeBoost).withClause .boosting).withParam "negative_boost").withReceived
      received
  match v with
  | none => .error (fail "nothing")
  | some l =>
    match l.toF64? with
    | some b => if b > 0 && b ≤ 1 then .ok b else .error (fail l.display)
    | none => .error (fail l.display)

/-- The function keys, and a weight that is not null, written in a `function_score` body itself:
the one function they make, if any. -/
def shorthandOf (ms : Json.Members) : Json.Members :=
  let keyed := shorthandKeys.filterMap fun k => (Json.Members.get? ms k).map fun v => (k, v)
  let weight := match Json.Members.get? ms "weight" with
    | none | some .null => []
    | some w => [("weight", w)]
  Json.Members.ofList (keyed ++ weight)

def ScoreFunction.ofShorthand (sh : Json.Members) : Except Error ScoreFunction :=
  let read : Except Error ScoreFunction := do
    let body ← FunctionBody.decodeIn sh
    let params ← FunctionBody.readWeight body sh
    pure (.mk body none params)
  read.mapError fun e => (e.withClause .functionScore).withJson (.obj sh)

def notAnObject (v : Json) : Error :=
  ((Error.ofKind .invalidParams).withDetail "expected an object").withReceived v.render

mutual

/-- Read a query: an object of clause bodies by kind; null is the empty query. -/
def Query.decode (v : Json) : Except Error Query :=
  match v with
  | .null => .ok .empty
  | .obj ms => Query.decodeMembers v ms .empty
  | other => .error (((Error.ofKind .invalidParams).withDetail "expected a query object").withJson other)
termination_by 4 * sizeOf v + 3

def Query.decodeMembers (whole : Json) (ms : Json.Members) (acc : Query) : Except Error Query :=
  match ms with
  | [] => .ok acc
  | (key, body) :: rest => do
    let k ← (QueryKind.parse key).mapError (·.withJson whole)
    let c ← Clause.decodeBody k body
    Query.decodeMembers whole rest (acc.set c).1
termination_by 4 * sizeOf ms

/-- A nested query slot of a body, errors naming the role; absent or without content is none. -/
def Query.decodeSlot (ms : Json.Members) (role : String) : Except Error (Option Query) :=
  match h : Json.Members.get? ms role with
  | none => .ok none
  | some v =>
    have := Json.Members.sizeOf_lt_of_get? h
    match Query.decode v with
    | .ok q => .ok (if q.isEmpty then none else some q)
    | .error e => .error (e.withRole role)
termination_by 4 * sizeOf ms

def Clause.decodeBody (k : QueryKind) (body : Json) : Except Error Clause :=
  (Clause.decodeKind k body).mapError fun e => (e.withClause k).withJson body
termination_by 4 * sizeOf body + 3

def Clause.decodeKind (k : QueryKind) (body : Json) : Except Error Clause :=
  match k with
  | .term => (TermQuery.decode body).map .term
  | .terms => (TermsQuery.decode body).map .terms
  | .matchText => (MatchQuery.decode .matchText body).map .matchText
  | .matchAll => (BareQuery.decode .matchAll body).map .matchAll
  | .matchNone => (BareQuery.decode .matchNone body).map .matchNone
  | .matchBoolPrefix => (MatchQuery.decode .matchBoolPrefix body).map .matchBoolPrefix
  | .matchPhrase => (MatchQuery.decode .matchPhrase body).map .matchPhrase
  | .matchPhrasePrefix => (MatchQuery.decode .matchPhrasePrefix body).map .matchPhrasePrefix
  | .multiMatch => (MultiMatchQuery.decode body).map .multiMatch
  | .queryString => (QueryStringQuery.decode body).map .queryString
  | .simpleQueryString => (SimpleQueryStringQuery.decode body).map .simpleQueryString
  | .fieldExists => (ExistsQuery.decode body).map .fieldExists
  | .termPrefix => (PatternQuery.decode .termPrefix body).map .termPrefix
  | .wildcard => (PatternQuery.decode .wildcard body).map .wildcard
  | .regexp => (RegexpQuery.decode body).map .regexp
  | .fuzzy => (PatternQuery.decode .fuzzy body).map .fuzzy
  | .range => (RangeQuery.decode body).map .range
  | .ids => (IdsQuery.decode body).map .ids
  | .script => (ScriptQuery.decode body).map .script
  | .intervals => (IntervalsQuery.decode body).map .intervals
  | .bool => Clause.decodeCompound .bool body
  | .boosting => Clause.decodeCompound .boosting body
  | .constantScore => Clause.decodeCompound .constantScore body
  | .disMax => Clause.decodeCompound .disMax body
  | .functionScore => Clause.decodeCompound .functionScore body
  | .scriptScore => Clause.decodeCompound .scriptScore body
termination_by 4 * sizeOf body + 2

def Clause.decodeCompound (k : QueryKind) (body : Json) : Except Error Clause :=
  match body with
  | .null => .ok (Clause.empty k)
  | .obj ms => Clause.decodeCompoundMembers k ms
  | other => .error (notAnObject other)
termination_by 4 * sizeOf body + 1

def Clause.decodeCompoundMembers (k : QueryKind) (ms : Json.Members) : Except Error Clause :=
  match k with
  | .bool => do
    let must ← Clause.decodeRole ms "must"
    let filter ← Clause.decodeRole ms "filter"
    let should ← Clause.decodeRole ms "should"
    let mustNot ← Clause.decodeRole ms "must_not"
    let params ← Params.ofMembers QueryKind.bool.params (some .bool) ms
    pure (.bool must filter should mustNot params)
  | .boosting => do
    let positive ← Query.decodeSlot ms "positive"
    let negative ← Query.decodeSlot ms "negative"
    let raw := Json.Members.get? ms "negative_boost"
    match positive, negative, raw with
    | none, none, none => pure (Clause.empty .boosting)
    | none, _, _ => throw (Error.ofKind .positiveRequired)
    | some _, none, _ => throw (Error.ofKind .negativeRequired)
    | some p, some n, raw => do
      let loose ← match raw with
        | some r =>
          match Loose.ofJson r with
          | .ok l => pure l
          | .error received => throw (((Error.ofKind .invalidNegativeBoost).withParam
              "negative_boost").withReceived received)
        | none => pure none
      let nb ← negativeBoostOf loose
      let params ← Params.ofMembers QueryKind.boosting.params (some .boosting) ms
      pure (.boosting (some p) (some n) nb params)
  | .constantScore => do
    let filter ← Query.decodeSlot ms "filter"
    let params ← Params.ofMembers QueryKind.constantScore.params (some .constantScore) ms
    pure (.constantScore filter params)
  | .disMax => do
    let queries ← Clause.decodeRole ms "queries"
    let params ← Params.ofMembers QueryKind.disMax.params (some .disMax) ms
    pure (.disMax queries params)
  | .functionScore => do
    let listed ← ScoreFunction.decodeSlotList ms
    let functions ← match shorthandOf ms with
      | [] => pure listed
      | sh => do pure (listed ++ [← ScoreFunction.ofShorthand sh])
    let query ← Query.decodeSlot ms "query"
    let params ← Params.ofMembers QueryKind.functionScore.params (some .functionScore) ms
    pure (.functionScore query functions params)
  | .scriptScore => do
    let query ← Query.decodeSlot ms "query"
    let script ← match Json.Members.get? ms "script" with
      | some raw => Script.decode raw
      | none => pure {}
    match query, script.isEmpty with
    | none, true => pure (Clause.empty .scriptScore)
    | none, false => throw (Error.ofKind .queryRequired)
    | some _, true => throw (Error.ofKind .scriptRequired)
    | some q, false => do
      let params ← Params.ofMembers QueryKind.scriptScore.params (some .scriptScore) ms
      pure (.scriptScore (some q) script params)
  | k => .ok (Clause.empty k)
termination_by 4 * sizeOf ms + 1

/-- The clause list under a role of a body; absent is none. -/
def Clause.decodeRole (ms : Json.Members) (role : String) : Except Error (List Clause) :=
  match h : Json.Members.get? ms role with
  | none => .ok []
  | some v =>
    have := Json.Members.sizeOf_lt_of_get? h
    Clause.decodeList v role
termination_by 4 * sizeOf ms

/-- Read a clause list: an array of envelopes, or one envelope object, which takes the role
itself. The empty role names no role. -/
def Clause.decodeList (v : Json) (role : String) : Except Error (List Clause) :=
  match v with
  | .null => .ok []
  | .arr items => Clause.decodeItems items role 0 []
  | .obj ms => (Clause.pushMembers ms []).mapError fun e => if role = "" then e else e.withRole role
  | other =>
    let e := ((Error.ofKind .invalidParams).withDetail "expected a clause or an array of clauses").withJson other
    .error (if role = "" then e else e.withRole role)
termination_by 4 * sizeOf v + 2

def Clause.decodeItems (items : List Json) (role : String) (i : Nat) (acc : List Clause) :
    Except Error (List Clause) :=
  match items with
  | [] => .ok acc
  | item :: rest => do
    let acc ← (Clause.pushItem item acc).mapError (·.withRole (itemRole role i))
    Clause.decodeItems rest role (i + 1) acc
termination_by 4 * sizeOf items

def Clause.pushItem (item : Json) (acc : List Clause) : Except Error (List Clause) :=
  match item with
  | .null => .ok acc
  | .obj ms => Clause.pushMembers ms acc
  | other => .error (((Error.ofKind .invalidParams).withDetail "expected a clause object").withJson other)
termination_by 4 * sizeOf item + 1

def Clause.pushMembers (ms : Json.Members) (acc : List Clause) : Except Error (List Clause) :=
  match ms with
  | [] => .ok acc
  | (key, body) :: rest =>
    match QueryKind.ofTag? key with
    | none => Clause.pushMembers rest acc
    | some k => do
      let c ← Clause.decodeBody k body
      Clause.pushMembers rest (Clause.pushTo acc c)
termination_by 4 * sizeOf ms

/-- The `functions` of a `function_score` body; absent or null is none. -/
def ScoreFunction.decodeSlotList (ms : Json.Members) : Except Error (List ScoreFunction) :=
  match h : Json.Members.get? ms "functions" with
  | none | some .null => .ok []
  | some (.arr items) =>
    have := Json.Members.sizeOf_lt_of_get? h
    have : sizeOf items < sizeOf (Json.arr items) := by simp
    ScoreFunction.decodeItems items 0
  | some other => .error (Shape.invalidSlot "functions" other)
termination_by 4 * sizeOf ms

def ScoreFunction.decodeItems (items : List Json) (i : Nat) : Except Error (List ScoreFunction) :=
  match items with
  | [] => .ok []
  | item :: rest => do
    let f ← (ScoreFunction.decode item).mapError (·.withRole (itemRole "functions" i))
    let fs ← ScoreFunction.decodeItems rest (i + 1)
    pure (f :: fs)
termination_by 4 * sizeOf items

def ScoreFunction.decode (v : Json) : Except Error ScoreFunction :=
  match v with
  | .obj ms =>
    (ScoreFunction.decodeMembers ms).mapError fun e => (e.withClause .functionScore).withJson v
  | other => .error (((Error.ofKind .invalidParams).withDetail "expected a function object").withJson other)
termination_by 4 * sizeOf v + 2

def ScoreFunction.decodeMembers (ms : Json.Members) : Except Error ScoreFunction := do
  let body ← FunctionBody.decodeIn ms
  let filter ← Query.decodeSlot ms "filter"
  let params ← FunctionBody.readWeight body ms
  pure (.mk body filter params)
termination_by 4 * sizeOf ms + 1

end

/-- Read a clause envelope: an object with exactly one key, a clause kind. -/
def Clause.ofEnvelope (v : Json) : Except Error Clause :=
  match v with
  | .obj [(key, body)] => do
    let k ← (QueryKind.parse key).mapError (·.withJson v)
    Clause.decodeBody k body
  | _ => .error (((Error.ofKind .invalidParams).withDetail "expected a single-kind clause object").withJson v)

def Clause.decodeTopList (v : Json) : Except Error (List Clause) := Clause.decodeList v ""

end SearchDsl
