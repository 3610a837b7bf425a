import SearchDsl.Json.Writer
import SearchDsl.Query.Kind
import SearchDsl.Mapping.FieldType
/-!
Errors of building, changing and reading clauses, rules and mappings. An error is a cause
(`ErrorKind`) with a context saying where it arose. Context is added from the inside out: the
innermost clause, mapping type, field, parameter and JSON fragment win, roles are joined outer
first, and the received value and detail are those of the last call. A mapping reports every
error it finds, in the order found.
-/

namespace SearchDsl

/-- What went wrong. -/
inductive ErrorKind where
  | fieldRequired | valueRequired | queryRequired
  | invalidBoost | invalidNegativeBoost | invalidTieBreaker | invalidPrefixLength
  | invalidMaxExpansions | invalidFuzzyMaxExpansions | invalidMaxShingleSize | invalidDims
  | invalidRewrite | invalidRelation | invalidZeroTermQuery | invalidScoreMode | invalidBoostMode
  | invalidModifier | invalidDynamic | invalidTermVector | invalidIndexOptions | invalidOperator
  | invalidSimilarity | invalidOrientation | invalidMultiMatchType | invalidSpatialRelation
  | invalidSourceKind | invalidParams | invalidType | unsupportedKind | missingType
  | intervalsRequired | positiveRequired | negativeRequired | originRequired | scaleRequired
  | weightRequired | scriptRequired | pathRequired | idRequired | indexRequired | dimsRequired
  | metaLimitExceeded
  | invalidJson | invalidYaml
  deriving DecidableEq, Repr, Inhabited

namespace ErrorKind

def all : List ErrorKind :=
  [fieldRequired, valueRequired, queryRequired, invalidBoost, invalidNegativeBoost,
    invalidTieBreaker, invalidPrefixLength, invalidMaxExpansions, invalidFuzzyMaxExpansions,
    invalidMaxShingleSize, invalidDims, invalidRewrite, invalidRelation, invalidZeroTermQuery,
    invalidScoreMode, invalidBoostMode, invalidModifier, invalidDynamic, invalidTermVector,
    invalidIndexOptions, invalidOperator, invalidSimilarity, invalidOrientation,
    invalidMultiMatchType, invalidSpatialRelation, invalidSourceKind, invalidParams, invalidType,
    unsupportedKind, missingType, intervalsRequired, positiveRequired, negativeRequired,
    originRequired, scaleRequired, weightRequired, scriptRequired, pathRequired, idRequired,
    indexRequired, dimsRequired, metaLimitExceeded, invalidJson, invalidYaml]

def name : ErrorKind → String
  | fieldRequired => "FieldRequired" | valueRequired => "ValueRequired"
  | queryRequired => "QueryRequired" | invalidBoost => "InvalidBoost"
  | invalidNegativeBoost => "InvalidNegativeBoost" | invalidTieBreaker => "InvalidTieBreaker"
  | invalidPrefixLength => "InvalidPrefixLength" | invalidMaxExpansions => "InvalidMaxExpansions"
  | invalidFuzzyMaxExpansions => "InvalidFuzzyMaxExpansions"
  | invalidMaxShingleSize => "InvalidMaxShingleSize" | invalidDims => "InvalidDims"
  | invalidRewrite => "InvalidRewrite" | invalidRelation => "InvalidRelation"
  | invalidZeroTermQuery => "InvalidZeroTermQuery" | invalidScoreMode => "InvalidScoreMode"
  | invalidBoostMode => "InvalidBoostMode" | invalidModifier => "InvalidModifier"
  | invalidDynamic => "InvalidDynamic" | invalidTermVector => "InvalidTermVector"
  | invalidIndexOptions => "InvalidIndexOptions" | invalidOperator => "InvalidOperator"
  | invalidSimilarity => "InvalidSimilarity" | invalidOrientation => "InvalidOrientation"
  | invalidMultiMatchType => "InvalidMultiMatchType"
  | invalidSpatialRelation => "InvalidSpatialRelation" | invalidSourceKind => "InvalidSourceKind"
  | invalidParams => "InvalidParams" | invalidType => "InvalidType"
  | unsupportedKind => "UnsupportedKind" | missingType => "MissingType"
  | intervalsRequired => "IntervalsRequired" | positiveRequired => "PositiveRequired"
  | negativeRequired => "NegativeRequired" | originRequired => "OriginRequired"
  | scaleRequired => "ScaleRequired" | weightRequired => "WeightRequired"
  | scriptRequired => "ScriptRequired" | pathRequired => "PathRequired"
  | idRequired => "IdRequired" | indexRequired => "IndexRequired"
  | dimsRequired => "DimsRequired" | metaLimitExceeded => "MetaLimitExceeded"
  | invalidJson => "InvalidJson" | invalidYaml => "InvalidYaml"

def ofName? (s : String) : Option ErrorKind := all.find? fun k => k.name = s

/-- The sentence that opens the message of an error of this kind. -/
def text : ErrorKind → String
  | fieldRequired => "field is required"
  | valueRequired => "value is required"
  | queryRequired => "query is required"
  | invalidBoost => "invalid boost"
  | invalidNegativeBoost => "negative_boost must be in (0, 1]"
  | invalidTieBreaker => "tie_breaker must be in [0, 1]"
  | invalidPrefixLength => "invalid prefix_length"
  | invalidMaxExpansions => "invalid max_expansions"
  | invalidFuzzyMaxExpansions => "invalid fuzzy max_expansions"
  | invalidMaxShingleSize => "max_shingle_size must be 2, 3 or 4"
  | invalidDims => "dims must be a positive integer"
  | invalidRewrite => "invalid rewrite"
  | invalidRelation => "invalid relation"
  | invalidZeroTermQuery => "invalid zero_terms_query"
  | invalidScoreMode => "invalid score_mode"
  | invalidBoostMode => "invalid boost_mode"
  | invalidModifier => "invalid modifier"
  | invalidDynamic => "invalid dynamic"
  | invalidTermVector => "invalid term_vector"
  | invalidIndexOptions => "invalid index_options"
  | invalidOperator => "invalid operator"
  | invalidSimilarity => "invalid similarity"
  | invalidOrientation => "invalid orientation"
  | invalidMultiMatchType => "invalid multi_match type"
  | invalidSpatialRelation => "invalid spatial relation"
  | invalidSourceKind => "invalid _source"
  | invalidParams => "invalid params"
  | invalidType => "invalid type"
  | unsupportedKind => "unsupported kind"
  | missingType => "missing type"
  | intervalsRequired => "intervals are required"
  | positiveRequired => "positive is required"
  | negativeRequired => "negative is required"
  | originRequired => "origin is required"
  | scaleRequired => "scale is required"
  | weightRequired => "weight is required"
  | scriptRequired => "script is required"
  | pathRequired => "path is required"
  | idRequired => "id is required"
  | indexRequired => "index is required"
  | dimsRequired => "dims is required"
  | metaLimitExceeded => "meta limit exceeded"
  | invalidJson => "invalid json"
  | invalidYaml => "invalid yaml"

def isSyntax : ErrorKind → Bool
  | invalidJson | invalidYaml => true
  | _ => false

end ErrorKind

/-- Where an error arose. -/
structure ErrorContext where
  clause : Option QueryKind := none
  mapping : Option FieldType := none
  role : Option String := none
  field : Option String := none
  param : Option String := none
  received : Option String := none
  detail : Option String := none
  json : Option String := none
  deriving Repr, Inhabited

/-- An error: its kind and where it arose. -/
structure Error where
  kind : ErrorKind
  context : ErrorContext := {}
  deriving Repr, Inhabited

def maxFragment : Nat := 256

def takeBytes : List Char → Nat → List Char
  | [], _ => []
  | c :: rest, budget =>
    if c.utf8Size ≤ budget then c :: takeBytes rest (budget - c.utf8Size) else []

/-- The compact JSON text of a value, cut after `maxFragment` bytes at a character boundary and
marked with `...` when cut. -/
def fragment (j : Json) : String :=
  let t := j.render
  if t.utf8ByteSize ≤ maxFragment then t
  else String.ofList (takeBytes t.toList maxFragment) ++ "..."

/-- The text of the context: each part that is set, in a fixed order. -/
def ErrorContext.text (c : ErrorContext) : String :=
  (c.clause.map fun k => " [" ++ k.tag ++ "]").getD "" ++
  (c.mapping.map fun t => " [type " ++ t.tag ++ "]").getD "" ++
  (c.role.map fun r => " in " ++ r).getD "" ++
  (c.field.map fun f => " field \"" ++ f ++ "\"").getD "" ++
  (c.param.map fun p => " param \"" ++ p ++ "\"").getD "" ++
  (c.received.map fun r => " received " ++ r).getD "" ++
  (c.detail.map fun d => ": " ++ d).getD "" ++
  (c.json.map fun j => " (json: " ++ j ++ ")").getD ""

namespace Error

def ofKind (kind : ErrorKind) : Error := ⟨kind, {}⟩

def withClause (e : Error) (k : QueryKind) : Error :=
  { e with context.clause := e.context.clause.orElse fun _ => some k }

def withMapping (e : Error) (t : FieldType) : Error :=
  { e with context.mapping := e.context.mapping.orElse fun _ => some t }

/-- Put an outer role in front of the role found so far. -/
def withRole (e : Error) (role : String) : Error :=
  { e with context.role := some (match e.context.role with
    | some inner => role ++ "." ++ inner
    | none => role) }

def withField (e : Error) (f : String) : Error :=
  { e with context.field := e.context.field.orElse fun _ => some f }

def withParam (e : Error) (p : String) : Error :=
  { e with context.param := e.context.param.orElse fun _ => some p }

def withReceived (e : Error) (r : String) : Error :=
  { e with context.received := some r }

def withDetail (e : Error) (d : String) : Error :=
  { e with context.detail := some d }

/-- Keep the JSON fragment of the innermost value that failed. -/
def withJson (e : Error) (j : Json) : Error :=
  match e.context.json with
  | some _ => e
  | none => { e with context.json := some (fragment j) }

def message (e : Error) : String := e.kind.text ++ e.context.text

def underField (name : String) (e : Error) : Error :=
  match e.context.field with
  | some inner => { e with context.field := some (name ++ "." ++ inner) }
  | none => e.withField name

@[simp] theorem withClause_clause (e : Error) (k : QueryKind) :
    (e.withClause k).context.clause = e.context.clause.orElse fun _ => some k := rfl

@[simp] theorem withRole_role (e : Error) (r : String) :
    (e.withRole r).context.role = some ((e.context.role.map fun i => r ++ "." ++ i).getD r) := by
  cases h : e.context.role <;> simp [withRole, h]

end Error

/-- Every error found while building or reading mappings, in the order found. -/
structure MappingErrors where
  errors : List Error := []
  deriving Repr, Inhabited

namespace MappingErrors

def single (e : Error) : MappingErrors := ⟨[e]⟩

def push (m : MappingErrors) (e : Error) : MappingErrors := ⟨m.errors ++ [e]⟩

def append (m n : MappingErrors) : MappingErrors := ⟨m.errors ++ n.errors⟩

def isEmpty (m : MappingErrors) : Bool := m.errors.isEmpty

def absorb (m : MappingErrors) (name : String) (inner : MappingErrors) : MappingErrors :=
  ⟨m.errors ++ inner.errors.map (Error.underField name)⟩

def message (m : MappingErrors) : String :=
  toString m.errors.length ++ " mapping error(s): " ++ "; ".intercalate (m.errors.map Error.message)

def toExcept {α : Type} (m : MappingErrors) (a : α) : Except MappingErrors α :=
  if m.errors.isEmpty then .ok a else .error m

end MappingErrors

end SearchDsl
