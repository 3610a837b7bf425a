import SearchDsl.Param.Basic
/-!
Reading parameter values. A loose value becomes a parameter's setting when the parameter's rule
accepts it; a value equal to the default clears the setting instead, and a value the rule refuses
is an error naming the parameter, the clause kind that owns it and the value as received. Texts
are kept as given (a `minimum_should_match` text is trimmed), flags and counts are coerced
losslessly, floats must be finite and inside the parameter's range, tags are read by their set.

* `Params.accept` changes the one parameter it is given, or fails and changes nothing.
* `Params.read` reads the declared parameters present in a JSON object, in declaration order.
-/

namespace SearchDsl

namespace Param

def context (p : Param) (owner : Option QueryKind) (e : Error) : Error :=
  let e := e.withParam p.key
  match owner with
  | some k => e.withClause k
  | none => e

def tagSetting {α : Type} [Tagged α] [DecidableEq α] (context : Error → Error) (l : Loose)
    (default : α) (mk : α → Setting) : Except Error (Option Setting) :=
  match Tagged.parse (α := α) l.text with
  | .ok v => .ok (if v = default then none else some (mk v))
  | .error e => .error (context e)

/-- The setting a loose value gives a parameter: `some` to store, `none` for the default. -/
def coerce (p : Param) (l : Loose) (owner : Option QueryKind) : Except Error (Option Setting) :=
  let fail (k : ErrorKind) : Error := p.context owner ((Error.ofKind k).withReceived l.display)
  let text : Option Setting := if l.text.isEmpty then none else some (.text l.text)
  let flag (default : Bool) : Except Error (Option Setting) :=
    match l.toBool? with
    | some b => .ok (if b = default then none else some (.flag b))
    | none => .error (fail .invalidParams)
  let count (least default : Int) (k : ErrorKind) : Except Error (Option Setting) :=
    match l.toI64? with
    | some n =>
      if least ≤ n then .ok (if n = default then none else some (.count n)) else .error (fail k)
    | none => .error (fail k)
  let real (ok : Float → Bool) (default : Float) (k : ErrorKind) : Except Error (Option Setting) :=
    match l.toF64? with
    | some f => if ok f then .ok (if f == default then none else some (.real f)) else .error (fail k)
    | none => .error (fail k)
  let finite : Except Error Float :=
    match l.toF64? with
    | some f => .ok f
    | none => .error (fail .invalidParams)
  match p with
  | .boost => real (fun f => f ≥ 0) 1.0 .invalidBoost
  | .analyzer | .quoteAnalyzer | .fuzziness | .name | .timeZone | .format => .ok text
  | .caseInsensitive | .lenient | .analyzeWildcard => flag false
  | .transpositions | .fuzzyTranspositions | .autoGenerateSynonymsPhraseQuery
  | .allowLeadingWildcard => flag true
  | .fuzzyRewrite | .rewrite =>
    match Rewrite.parse l.text with
    | .ok r => .ok (if r = .constantScore then none else some (.rewrite r))
    | .error e => .error (p.context owner e)
  | .maxExpansions =>
    count 1 50 (if owner = some .fuzzy then .invalidFuzzyMaxExpansions else .invalidMaxExpansions)
  | .fuzzyMaxExpansions => count 1 50 .invalidFuzzyMaxExpansions
  | .prefixLength | .fuzzyPrefixLength => count 0 0 .invalidPrefixLength
  | .operator | .defaultOperator => tagSetting (p.context owner) l Operator.or .operator
  | .minimumShouldMatch =>
    match l with
    | .int i => .ok (some (.text (toString i)))
    | .str s =>
      let t := Text.trim s
      .ok (if t.isEmpty then none else some (.text t))
    | _ => .error (fail .invalidParams)
  | .slop => count 0 0 .invalidParams
  | .relation => tagSetting (p.context owner) l Relation.intersects .relation
  | .zeroTermsQuery => tagSetting (p.context owner) l ZeroTerms.none .zeroTerms
  | .cutoffFrequency =>
    match l with
    | .int i => .ok (some (.number (.int i)))
    | _ => finite.map fun f => some (.number (.float f))
  | .scoreMode => tagSetting (p.context owner) l ScoreMode.multiply .scoreMode
  | .boostMode => tagSetting (p.context owner) l BoostMode.multiply .boostMode
  | .minScore => finite.map fun f => if f > 0 then some (.real f) else none
  | .maxBoost => real (fun f => f ≥ 0) maxBoostDefault .invalidBoost
  | .maxDeterminizedStates => count 1 10000 .invalidParams
  | .modifier => tagSetting (p.context owner) l Modifier.none .modifier
  | .weight => finite.map fun f => some (.real f)
  | .tieBreaker => real (fun f => 0 ≤ f && f ≤ 1) 0.0 .invalidTieBreaker

end Param

abbrev ParamInput := List (Param × Loose)

namespace Params

/-- Give a parameter a value, or with `none` return it to its default. A refused value is an
error and leaves the settings as they were. -/
def accept (ps : Params) (p : Param) (v : Option Loose) (owner : Option QueryKind) :
    Except Error Params :=
  match v with
  | none => .ok (ps.reset p)
  | some l => (p.coerce l owner).map (ps.put p)

/-- Read one parameter from a JSON object when its key is present; an array or object is refused
with its JSON text, `null` returns the parameter to its default. -/
def readOne (owner : Option QueryKind) (ms : Json.Members) (ps : Params) (p : Param) :
    Except Error Params :=
  match Json.Members.get? ms p.key with
  | none => .ok ps
  | some raw =>
    match Loose.ofJson raw with
    | .error received => .error (p.context owner ((Error.ofKind .invalidParams).withReceived received))
    | .ok v => ps.accept p v owner

def read (ps : Params) (declared : List Param) (owner : Option QueryKind) (ms : Json.Members) :
    Except Error Params :=
  declared.foldlM (readOne owner ms) ps

def applyAll (ps : Params) (declared : List Param) (owner : Option QueryKind)
    (given : ParamInput) : Except Error Params :=
  declared.foldlM (fun ps p =>
    match given.lookup p with
    | none => .ok ps
    | some l => ps.accept p (some l) owner) ps

def ofMembers (declared : List Param) (owner : Option QueryKind) (ms : Json.Members) :
    Except Error Params :=
  Params.read {} declared owner ms

def ofGiven (declared : List Param) (owner : Option QueryKind) (given : ParamInput) :
    Except Error Params :=
  Params.applyAll {} declared owner given

end Params

end SearchDsl
