import SearchDsl.Query.Record
import SearchDsl.Time
import SearchDsl.Service.Answer
/-!
Reading parameter records and intervals rule specs from requests.

A record is an object naming its clause kind under `kind`, with the payload and the parameters
of that kind under their own names (`name` for the `_name` parameter). A rule spec names one
rule kind and holds the arguments of that kind's constructor and setters, which are applied in
a fixed order, so a spec fails with the error of the first call that fails.

Two things can go wrong while reading: the request is malformed (a member of the wrong JSON
type), or a library call made while reading fails. The first is the request's fault and the
second is the answer.
-/

namespace SearchDsl.Service

/-- Why a record or spec could not be read. -/
inductive RecordFault where
  | malformed (why : String)
  | failed (e : Error)
  deriving Repr, Inhabited

abbrev Reading := Except RecordFault

def malformed {α : Type} (why : String) : Reading α := .error (.malformed why)

def lift {α : Type} (r : Except Error α) : Reading α := r.mapError .failed

def Reading.reply {α : Type} (r : Reading α) (enc : α → Json) : Reply :=
  match r with
  | .ok a => Except.ok (enc a)
  | .error (.malformed why) => Except.error why
  | .error (.failed e) => Except.ok (errorJson e)

def present? (ms : Json.Members) (key : String) : Option Json :=
  match Json.Members.get? ms key with
  | some .null | none => none
  | some v => some v

def textAt (ms : Json.Members) (key : String) : Reading String :=
  match present? ms key with
  | none => .ok ""
  | some (.str s) => .ok s
  | some _ => malformed ("expected a string at " ++ key)

def textAt? (ms : Json.Members) (key : String) : Reading (Option String) :=
  match present? ms key with
  | none => .ok none
  | some (.str s) => .ok (some s)
  | some _ => malformed ("expected a string at " ++ key)

def looseAt (ms : Json.Members) (key : String) : Reading (Option Loose) :=
  match present? ms key with
  | none => .ok none
  | some v =>
    match Loose.ofJson v with
    | .ok l => .ok l
    | .error _ => malformed ("expected a scalar at " ++ key)

def flagAt (ms : Json.Members) (key : String) : Reading (Option Bool) :=
  match present? ms key with
  | none => .ok none
  | some (.bool b) => .ok (some b)
  | some _ => malformed ("expected a bool at " ++ key)

def integerAt (ms : Json.Members) (key : String) : Reading (Option Int) :=
  match present? ms key with
  | none => .ok none
  | some (.int i) => .ok (some i)
  | some _ => malformed ("expected an integer at " ++ key)

/-- A scalar value: a JSON scalar, or an instant written as an object with an RFC 3339 time. -/
def scalarOf (v : Json) : Reading Scalar :=
  match v with
  | .obj [("time", .str s)] =>
    match Instant.parse? s with
    | some t => .ok (.time t)
    | none => malformed ("not an RFC 3339 time: " ++ s)
  | v =>
    match Scalar.ofJson? v with
    | some s => .ok s
    | none => malformed "expected a scalar"

def scalarAt (ms : Json.Members) (key : String) : Reading (Option Scalar) :=
  match present? ms key with
  | none => .ok none
  | some v => some <$> scalarOf v

/-- A names member: one text or an array of texts. -/
def namesAt (ms : Json.Members) (key : String) : Reading (List String) :=
  match present? ms key with
  | none => .ok []
  | some v =>
    match namesOfJson? v with
    | some xs => .ok xs
    | none => malformed ("expected names at " ++ key)

def itemsAt (ms : Json.Members) (key : String) : Reading (List Json) :=
  match present? ms key with
  | none => .ok []
  | some (.arr items) => .ok items
  | some _ => malformed ("expected an array at " ++ key)

def membersAt? (ms : Json.Members) (key : String) : Reading (Option Json.Members) :=
  match present? ms key with
  | none => .ok none
  | some (.obj inner) => .ok (some inner)
  | some _ => malformed ("expected an object at " ++ key)

def scriptAt (ms : Json.Members) (key : String) : Reading (Option Script) :=
  match present? ms key with
  | none => .ok none
  | some v => some <$> lift (Script.decode v)

def textParams : List Param := [.name, .analyzer, .quoteAnalyzer, .format, .timeZone]

def recordKey (p : Param) : String := if p = .name then "name" else p.key

/-- The given parameters of a record: those of the declared list that it holds. -/
def givenAt (ms : Json.Members) (declared : List Param) : Reading ParamInput :=
  declared.filterMapM fun p => do
    let key := recordKey p
    if textParams.contains p then
      pure ((← textAt? ms key).map fun s => (p, .str s))
    else
      pure ((← looseAt ms key).map fun l => (p, l))

def lookupAt (ms : Json.Members) : Reading (Option TermsLookup) := do
  match ← membersAt? ms "lookup" with
  | none => pure none
  | some l =>
    pure (some ⟨← textAt l "index", ← textAt l "id", ← textAt l "path", ← textAt l "routing"⟩)

def ruleSpecKind? : String → Option RuleKind
  | "match" => some .matchText
  | "prefix" => some .termPrefix
  | "wildcard" => some .wildcard
  | "fuzzy" => some .fuzzy
  | "all_of" => some .allOf
  | "any_of" => some .anyOf
  | _ => none

def specTextKey : RuleKind → String
  | .matchText => "query"
  | .termPrefix => "prefix"
  | .wildcard => "pattern"
  | _ => "term"

def setIf {α : Type} (r : Rule) (v : Option α) (f : Rule → α → Rule) : Rule :=
  match v with
  | some a => f r a
  | none => r

/-- Apply the setters of a leaf rule's parameters, in the order the rule declares them. -/
def applySetters (r : Rule) (ms : Json.Members) : List Param → Reading Rule
  | [] => .ok r
  | p :: rest => do
    let r ← match ← looseAt ms p.key with
      | some l => lift (r.accept p (some l))
      | none => pure r
    applySetters r ms rest

mutual

/-- Build a rule from its spec: one key naming the kind, or `parse` holding rule JSON. -/
def readRule (v : Json) : Reading Rule :=
  match v with
  | .obj [("parse", j)] => lift (Rule.decode j)
  | .obj [(key, .obj ms)] =>
    match ruleSpecKind? key with
    | some k => readRuleBody k ms
    | none => malformed ("unknown rule spec " ++ key)
  | _ => malformed "expected a rule spec"
termination_by 4 * sizeOf v + 2

def readRuleBody (k : RuleKind) (ms : Json.Members) : Reading Rule :=
  match k with
  | .allOf | .anyOf => do
    let rules ← readRulesAt ms "intervals"
    let r ← lift (Rule.ofChildren k rules)
    let r := setIf r (← integerAt ms "max_gaps") Rule.withMaxGaps
    let r := setIf r (← flagAt ms "ordered") Rule.withOrdered
    let r ← readFilterAt r ms
    let pushed ← readRulesAt ms "push"
    pure (pushed.foldl Rule.push r)
  | .matchText => do
    let r ← lift (Rule.ofQuery (← textAt ms "query"))
    let r := setIf r (← integerAt ms "max_gaps") Rule.withMaxGaps
    let r := setIf r (← flagAt ms "ordered") Rule.withOrdered
    let r := setIf r (← textAt? ms "use_field") Rule.withUseField
    let r ← readFilterAt r ms
    applySetters r ms Param.analyzedRuleList
  | _ => do
    let r ← lift (Rule.ofPattern k (← textAt ms (specTextKey k)))
    let r := setIf r (← textAt? ms "use_field") Rule.withUseField
    applySetters r ms (if k = .fuzzy then Param.fuzzyRuleList else Param.analyzedRuleList)
termination_by 4 * sizeOf ms + 1

/-- Build rules from an array of specs, in order. -/
def readRuleItems (items : List Json) : Reading (List Rule) :=
  match items with
  | [] => .ok []
  | spec :: rest => do
    let r ← readRule spec
    let rs ← readRuleItems rest
    pure (r :: rs)
termination_by 4 * sizeOf items + 3

/-- Build the rules of an array of specs held by a member; absent is none. -/
def readRulesAt (ms : Json.Members) (key : String) : Reading (List Rule) :=
  match h : Json.Members.get? ms key with
  | none | some .null => .ok []
  | some (.arr items) =>
    have : sizeOf (Json.arr items) < sizeOf ms := Json.Members.sizeOf_lt_of_get? h
    have : sizeOf items < sizeOf (Json.arr items) := by simp
    readRuleItems items
  | some _ => malformed ("expected an array at " ++ key)
termination_by 4 * sizeOf ms

/-- Give a rule the filter its spec holds, if any: a script, or a relation to a second rule. -/
def readFilterAt (r : Rule) (ms : Json.Members) : Reading Rule :=
  match h : Json.Members.get? ms "filter" with
  | none | some .null => .ok r
  | some (.obj fs) =>
    have : sizeOf (Json.obj fs) < sizeOf ms := Json.Members.sizeOf_lt_of_get? h
    have : sizeOf fs < sizeOf (Json.obj fs) := by simp
    match hs : Json.Members.get? fs "script", Json.Members.get? fs "relation" with
    | some s, _ => do
      let s ← lift (Script.decode s)
      pure (r.withFilter (.script s))
    | none, some (.str relation) =>
      match hr : Json.Members.get? fs "rule" with
      | some spec =>
        have := Json.Members.sizeOf_lt_of_get? hr
        do
          let other ← readRule spec
          let f ← lift (IntervalFilter.relate relation other)
          pure (r.withFilter f)
      | none => malformed "a filter relation needs a rule"
    | _, _ => malformed "expected a filter spec"
  | some _ => malformed "expected a filter spec"
termination_by 4 * sizeOf ms

end

def functionSpecKind? (name : String) : Option FunctionKind :=
  FunctionKind.all.find? fun k => k.tag = name

mutual

def readRecord (v : Json) : Reading ClauseRecord :=
  match v with
  | .obj ms => readRecordMembers ms
  | _ => malformed "expected a record object"
termination_by 4 * sizeOf v + 2

def readRecordMembers (ms : Json.Members) : Reading ClauseRecord := do
  let some tag ← textAt? ms "kind" | malformed "a record names its kind"
  let k ← lift (QueryKind.parse tag)
  let given ← givenAt ms k.params
  match k with
  | .term => pure (.term (← textAt ms "field") (← scalarAt ms "value") given)
  | .terms => do
    let values ← (← itemsAt ms "values").mapM scalarOf
    pure (.terms (← textAt ms "field") values (← lookupAt ms) given)
  | .termPrefix | .wildcard | .fuzzy =>
    pure (.pattern k (← textAt ms "field") (← textAt ms "value") given)
  | .regexp =>
    pure (.regexp (← textAt ms "field") (← textAt ms "value") (← textAt ms "flags") given)
  | .range => do
    let bounds : Bounds :=
      ⟨← scalarAt ms "gt", ← scalarAt ms "gte", ← scalarAt ms "lt", ← scalarAt ms "lte"⟩
    pure (.range (← textAt ms "field") bounds given)
  | .fieldExists => pure (.fieldExists (← textAt ms "field") given)
  | .ids => pure (.ids (← namesAt ms "values") given)
  | .matchText | .matchBoolPrefix | .matchPhrase | .matchPhrasePrefix =>
    pure (.textMatch k (← textAt ms "field") (← scalarAt ms "query") given)
  | .multiMatch =>
    pure (.multiMatch (← textAt ms "query") (← namesAt ms "fields") (← looseAt ms "type") given)
  | .queryString =>
    pure (.queryString (← textAt ms "query") (← textAt ms "default_field") (← namesAt ms "fields")
      given)
  | .simpleQueryString =>
    pure (.simpleQueryString (← textAt ms "query") (← namesAt ms "fields") (← textAt ms "flags")
      given)
  | .matchAll | .matchNone => pure (.bare k given)
  | .script => pure (.script (← scriptAt ms "script") given)
  | .intervals => do
    let rule ← match h : Json.Members.get? ms "rule" with
      | none | some .null => pure none
      | some spec =>
        have := Json.Members.sizeOf_lt_of_get? h
        some <$> readRule spec
    pure (.intervals (← textAt ms "field") rule given)
  | .bool => do
    let must ← readRoleAt ms "must"
    let filter ← readRoleAt ms "filter"
    let should ← readRoleAt ms "should"
    let mustNot ← readRoleAt ms "must_not"
    pure (.bool must filter should mustNot given)
  | .boosting => do
    let positive ← readSlotAt ms "positive"
    let negative ← readSlotAt ms "negative"
    pure (.boosting positive negative (← looseAt ms "negative_boost") given)
  | .constantScore => pure (.constantScore (← readSlotAt ms "filter") given)
  | .disMax => pure (.disMax (← readRoleAt ms "queries") given)
  | .functionScore => do
    let query ← readSlotAt ms "query"
    let functions ← match h : Json.Members.get? ms "functions" with
      | none | some .null => pure []
      | some (.arr items) =>
        have : sizeOf (Json.arr items) < sizeOf ms := Json.Members.sizeOf_lt_of_get? h
        have : sizeOf items < sizeOf (Json.arr items) := by simp
        readFunctionItems items
      | some _ => malformed "expected an array at functions"
    pure (.functionScore query functions given)
  | .scriptScore => do
    let query ← readSlotAt ms "query"
    pure (.scriptScore query (← scriptAt ms "script") given)
termination_by 4 * sizeOf ms + 1

def readRecords (v : Json) : Reading (List ClauseRecord) :=
  match v with
  | .arr items => readRecordItems items
  | .obj ms => (fun r => [r]) <$> readRecordMembers ms
  | _ => malformed "expected records"
termination_by 4 * sizeOf v + 3

def readRecordItems (items : List Json) : Reading (List ClauseRecord) :=
  match items with
  | [] => .ok []
  | v :: rest => do
    let r ← readRecord v
    let rs ← readRecordItems rest
    pure (r :: rs)
termination_by 4 * sizeOf items + 3

/-- The records of a list role; absent is none. -/
def readRoleAt (ms : Json.Members) (key : String) : Reading (List ClauseRecord) :=
  match h : Json.Members.get? ms key with
  | none | some .null => .ok []
  | some v =>
    have := Json.Members.sizeOf_lt_of_get? h
    readRecords v
termination_by 4 * sizeOf ms

/-- The records of a query slot: absent is no query, `[]` a query without records. -/
def readSlotAt (ms : Json.Members) (key : String) : Reading (Option (List ClauseRecord)) :=
  match h : Json.Members.get? ms key with
  | none | some .null => .ok none
  | some v =>
    have := Json.Members.sizeOf_lt_of_get? h
    some <$> readRecords v
termination_by 4 * sizeOf ms

def readFunction (v : Json) : Reading FunctionRecord :=
  match v with
  | .obj ms => readFunctionMembers ms
  | _ => malformed "expected a function record"
termination_by 4 * sizeOf v + 2

def readFunctionMembers (ms : Json.Members) : Reading FunctionRecord := do
  let name ← textAt ms "function"
  let some k := functionSpecKind? name | malformed ("unknown function " ++ name)
  let spec ← match k with
    | .exp | .gauss | .linear => do
      let curve : DecayCurve := match k with
        | .exp => .exp
        | .linear => .linear
        | _ => .gauss
      pure (FunctionSpec.decay curve (← textAt ms "field") (← scalarAt ms "origin")
        (← scalarAt ms "scale") (← scalarAt ms "offset") (← looseAt ms "decay")
        (← textAt ms "multi_value_mode"))
    | .fieldValueFactor =>
      pure (.fieldValueFactor (← textAt ms "field") (← looseAt ms "factor")
        (← looseAt ms "missing") (← looseAt ms "modifier"))
    | .scriptScore => pure (.scriptScore (← scriptAt ms "script"))
    | .randomScore => pure (.randomScore (← scalarAt ms "seed") (← textAt ms "field"))
    | .weight => pure .weight
  let filter ← readSlotAt ms "filter"
  pure (.mk spec filter (← looseAt ms "weight"))
termination_by 4 * sizeOf ms + 1

def readFunctionItems (items : List Json) : Reading (List FunctionRecord) :=
  match items with
  | [] => .ok []
  | v :: rest => do
    let f ← readFunction v
    let fs ← readFunctionItems rest
    pure (f :: fs)
termination_by 4 * sizeOf items + 3

end

end SearchDsl.Service
