import SearchDsl.Query.Decode
/-!
Parameter records: what a builder of a clause is given, before any check. A record names its
payload and gives loose values for parameters; building it checks the payload, coerces the
values, builds nested records, and yields the clause or the first error. A list of records
builds a query, where a later clause of a kind replaces an earlier one; a list role builds a
clause list, naming the failing record's position in the role.
-/

namespace SearchDsl

/-- What a scoring function record computes, before any check. -/
inductive FunctionSpec where
  | decay (curve : DecayCurve) (field : String) (origin scale offset : Option Scalar)
      (decay : Option Loose) (multiValueMode : String)
  | fieldValueFactor (field : String) (factor missing modifier : Option Loose)
  | scriptScore (script : Option Script)
  | randomScore (seed : Option Scalar) (field : String)
  | weight
  deriving Repr, Inhabited

mutual

/-- The parameter record of a clause. -/
inductive ClauseRecord where
  | term (field : String) (value : Option Scalar) (given : ParamInput)
  | terms (field : String) (values : List Scalar) (lookup : Option TermsLookup)
      (given : ParamInput)
  | pattern (k : QueryKind) (field value : String) (given : ParamInput)
  | regexp (field value flags : String) (given : ParamInput)
  | range (field : String) (bounds : Bounds) (given : ParamInput)
  | fieldExists (field : String) (given : ParamInput)
  | ids (values : List String) (given : ParamInput)
  | textMatch (k : QueryKind) (field : String) (query : Option Scalar) (given : ParamInput)
  | multiMatch (query : String) (fields : List String) (matchType : Option Loose)
      (given : ParamInput)
  | queryString (query defaultField : String) (fields : List String) (given : ParamInput)
  | simpleQueryString (query : String) (fields : List String) (flags : String)
      (given : ParamInput)
  | bare (k : QueryKind) (given : ParamInput)
  | script (script : Option Script) (given : ParamInput)
  | intervals (field : String) (rule : Option Rule) (given : ParamInput)
  | bool (must filter should mustNot : List ClauseRecord) (given : ParamInput)
  | boosting (positive negative : Option (List ClauseRecord)) (negativeBoost : Option Loose)
      (given : ParamInput)
  | constantScore (filter : Option (List ClauseRecord)) (given : ParamInput)
  | disMax (queries : List ClauseRecord) (given : ParamInput)
  | functionScore (query : Option (List ClauseRecord)) (functions : List FunctionRecord)
      (given : ParamInput)
  | scriptScore (query : Option (List ClauseRecord)) (script : Option Script) (given : ParamInput)
  deriving Repr, Inhabited

/-- The record of a scoring function: what it computes, its filter and its weight. -/
inductive FunctionRecord where
  | mk (spec : FunctionSpec) (filter : Option (List ClauseRecord)) (weight : Option Loose)
  deriving Repr, Inhabited

end

namespace ClauseRecord

/-- The clause kind a record builds. -/
def kind : ClauseRecord → QueryKind
  | term .. => .term | terms .. => .terms | pattern k .. => k | regexp .. => .regexp
  | range .. => .range | fieldExists .. => .fieldExists | ids .. => .ids
  | textMatch k .. => k | multiMatch .. => .multiMatch | queryString .. => .queryString
  | simpleQueryString .. => .simpleQueryString | bare k .. => k | script .. => .script
  | intervals .. => .intervals | bool .. => .bool | boosting .. => .boosting
  | constantScore .. => .constantScore | disMax .. => .disMax
  | functionScore .. => .functionScore | scriptScore .. => .scriptScore

end ClauseRecord

/-- A scoring function's body from its spec: a decay needs its field, origin and scale; a field
factor its field; a script score a script; a bare weight its weight. -/
def FunctionSpec.build (spec : FunctionSpec) (weight : Option Loose) : Except Error FunctionBody :=
  match spec with
  | .decay curve field origin scale offset rate mode => do
    let (origin, scale) ← DecayFunction.validate curve.kind field origin scale
    let rate ← DecayFunction.decayOf rate
    pure (.decay ⟨curve, field, origin, scale, offset, rate, mode⟩)
  | .fieldValueFactor field factor missing modifier => do
    if field.isEmpty then
      throw (((Error.ofKind .fieldRequired).withClause .functionScore).withParam "field_value_factor")
    let factor ← FactorFunction.floatOf "factor" factor
    let missing ← FactorFunction.floatOf "missing" missing
    let params ← Params.ofGiven Param.factorList (some .functionScore)
      (modifier.toList.map fun l => (.modifier, l))
    pure (.fieldValueFactor ⟨field, factor.filter (· != 1.0), missing, params⟩)
  | .scriptScore script => (Script.required script).map .scriptScore
  | .randomScore seed field => pure (.randomScore ⟨seed, field⟩)
  | .weight =>
    match weight with
    | none => throw ((Error.ofKind .weightRequired).withClause .functionScore)
    | some _ => pure .weight

mutual

/-- Build the clause of a record. -/
def ClauseRecord.build : ClauseRecord → Except Error Clause
  | .term field value given => (TermQuery.build field value given).map .term
  | .terms field values lookup given => (TermsQuery.build field values lookup given).map .terms
  | .pattern k field value given =>
    (PatternQuery.build k field value given).map fun q =>
      match k with
      | .wildcard => .wildcard q
      | .fuzzy => .fuzzy q
      | _ => .termPrefix q
  | .regexp field value flags given => (RegexpQuery.build field value flags given).map .regexp
  | .range field bounds given => (RangeQuery.build field bounds given).map .range
  | .fieldExists field given => (ExistsQuery.build field given).map .fieldExists
  | .ids values given => (IdsQuery.build values given).map .ids
  | .textMatch k field query given =>
    (MatchQuery.build k field query given).map fun q =>
      match k with
      | .matchBoolPrefix => .matchBoolPrefix q
      | .matchPhrase => .matchPhrase q
      | .matchPhrasePrefix => .matchPhrasePrefix q
      | _ => .matchText q
  | .multiMatch query fields t given => (MultiMatchQuery.build query fields t given).map .multiMatch
  | .queryString query df fields given =>
    (QueryStringQuery.build query df fields given).map .queryString
  | .simpleQueryString query fields flags given =>
    (SimpleQueryStringQuery.build query fields flags given).map .simpleQueryString
  | .bare k given =>
    (BareQuery.build k given).map fun q => if k = .matchNone then .matchNone q else .matchAll q
  | .script script given => (ScriptQuery.build script given).map .script
  | .intervals field rule given => (IntervalsQuery.build field rule given).map .intervals
  | .bool must filter should mustNot given => do
    let params ← Params.ofGiven QueryKind.bool.params (some .bool) given
    let must ← ClauseRecord.buildRole "must" must 0
    let filter ← ClauseRecord.buildRole "filter" filter 0
    let should ← ClauseRecord.buildRole "should" should 0
    let mustNot ← ClauseRecord.buildRole "must_not" mustNot 0
    pure (.bool must filter should mustNot params)
  | .boosting positive negative nb given => do
    let p ← ClauseRecord.buildSlot "positive" positive
    let some p := p | throw ((Error.ofKind .positiveRequired).withClause .boosting)
    let n ← ClauseRecord.buildSlot "negative" negative
    let some n := n | throw ((Error.ofKind .negativeRequired).withClause .boosting)
    let nb ← negativeBoostOf nb
    let params ← Params.ofGiven QueryKind.boosting.params (some .boosting) given
    pure (.boosting (some p) (some n) nb params)
  | .constantScore filter given => do
    let f ← ClauseRecord.buildSlot "filter" filter
    let some f := f
      | throw (((Error.ofKind .queryRequired).withClause .constantScore).withRole "filter")
    let params ← Params.ofGiven QueryKind.constantScore.params (some .constantScore) given
    pure (.constantScore (some f) params)
  | .disMax queries given => do
    let params ← Params.ofGiven QueryKind.disMax.params (some .disMax) given
    let queries ← ClauseRecord.buildRole "queries" queries 0
    pure (.disMax queries params)
  | .functionScore query functions given => do
    let query ← ClauseRecord.buildSlot "query" query
    let functions ← FunctionRecord.buildList functions 0
    let params ← Params.ofGiven QueryKind.functionScore.params (some .functionScore) given
    pure (.functionScore query functions params)
  | .scriptScore query script given => do
    let q ← ClauseRecord.buildSlot "query" query
    let some q := q | throw ((Error.ofKind .queryRequired).withClause .scriptScore)
    let script ← (Script.required script).mapError (·.withClause .scriptScore)
    let params ← Params.ofGiven QueryKind.scriptScore.params (some .scriptScore) given
    pure (.scriptScore (some q) script params)

/-- Build the records of a list role in order; empty clauses are dropped, and an error names
the record's kind and position. -/
def ClauseRecord.buildRole (role : String) : List ClauseRecord → Nat → Except Error (List Clause)
  | [], _ => .ok []
  | r :: rest, i => do
    let c ← r.build.mapError fun e => (e.withClause r.kind).withRole (itemRole role i)
    let cs ← ClauseRecord.buildRole role rest (i + 1)
    pure (if c.isEmpty then cs else c :: cs)

def ClauseRecord.buildQuery : List ClauseRecord → Query → Except Error Query
  | [], q => .ok q
  | r :: rest, q => do
    let c ← r.build
    ClauseRecord.buildQuery rest (q.set c).1

def ClauseRecord.buildSlot (role : String) : Option (List ClauseRecord) → Except Error (Option Query)
  | none => .ok none
  | some rs => do
    let q ← (ClauseRecord.buildQuery rs .empty).mapError (·.withRole role)
    pure (if q.isEmpty then none else some q)

/-- Build a scoring function: its body, its weight, then its filter. -/
def FunctionRecord.build : FunctionRecord → Except Error ScoreFunction
  | .mk spec filter weight => do
    let body ← spec.build weight
    let params ← Params.ofGiven Param.functionList (some .functionScore)
      (weight.toList.map fun l => (.weight, l))
    let filter ← ClauseRecord.buildSlot "filter" filter
    pure (.mk body filter params)

/-- Build scoring functions in order, an error naming the function's position. -/
def FunctionRecord.buildList : List FunctionRecord → Nat → Except Error (List ScoreFunction)
  | [], _ => .ok []
  | f :: rest, i => do
    let g ← f.build.mapError fun e => (e.withClause .functionScore).withRole (itemRole "functions" i)
    let gs ← FunctionRecord.buildList rest (i + 1)
    pure (g :: gs)

end

def Query.ofRecords (rs : List ClauseRecord) : Except Error Query := ClauseRecord.buildQuery rs .empty

end SearchDsl
