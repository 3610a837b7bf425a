import SearchDsl.Param.Coerce
import SearchDsl.Param.Declared
import SearchDsl.Query.Shape
/-!
Term-level clauses: exact values, patterns and ranges on one field, field presence, and document
ids. Each clause reads its body, writes it back, and is built from a field, its payload and
given parameter values. A clause without a field (without ids, for `ids`) is empty: it writes
`null` and a query drops it. Errors of a body name the field; errors of a build also name the
clause kind.
-/

namespace SearchDsl

/-- `term`: documents whose field holds exactly a value. -/
structure TermQuery where
  field : String := ""
  value : Option Scalar := none
  params : Params := {}
  deriving Repr, Inhabited

namespace TermQuery

def isEmpty (q : TermQuery) : Bool := q.field.isEmpty

def body (q : TermQuery) : Json :=
  if q.isEmpty then .null
  else Shape.wrapField q.field
    (Shape.opt "value" (q.value.map Scalar.toJson) ++ q.params.members QueryKind.term.params)

/-- Read a body: the field with its value and parameters, or a bare value. -/
def decode (v : Json) : Except Error TermQuery := do
  match ← Shape.fieldKeyed v (some "value") with
  | none => pure {}
  | some (field, ms) =>
    let value ← (Shape.scalar? ms "value").mapError (·.withField field)
    let params ← (Params.ofMembers QueryKind.term.params (some .term) ms).mapError (·.withField field)
    match value with
    | none => throw ((Error.ofKind .valueRequired).withField field)
    | some _ => pure ⟨field, value, params⟩

/-- Build from a field and a value, both required. -/
def build (field : String) (value : Option Scalar) (given : ParamInput) :
    Except Error TermQuery := do
  requireField .term field
  match value with
  | none => throw (Error.atField .term field (Error.ofKind .valueRequired))
  | some v =>
    let params ← (Params.ofGiven QueryKind.term.params (some .term) given).mapError
      (Error.atField .term field)
    pure ⟨field, some v, params⟩

def setField (q : TermQuery) (field : String) : Except Error TermQuery := do
  requireField .term field
  pure { q with field }

def setValue (q : TermQuery) (v : Scalar) : TermQuery := { q with value := some v }

end TermQuery

/-- The field of another document that holds the terms. -/
structure TermsLookup where
  index : String := ""
  id : String := ""
  path : String := ""
  routing : String := ""
  deriving Repr, Inhabited, DecidableEq

namespace TermsLookup

def validate (l : TermsLookup) : Except Error TermsLookup :=
  if l.index.isEmpty then .error (Error.ofKind .indexRequired)
  else if l.id.isEmpty then .error (Error.ofKind .idRequired)
  else if l.path.isEmpty then .error (Error.ofKind .pathRequired)
  else .ok l

def toJson (l : TermsLookup) : Json :=
  Json.mkObj ([("index", .str l.index), ("id", .str l.id), ("path", .str l.path)] ++
    Shape.nonEmpty "routing" l.routing)

def decode (ms : Json.Members) : Except Error TermsLookup := do
  let index ← Shape.text ms "index"
  let id ← Shape.text ms "id"
  let path ← Shape.text ms "path"
  let routing ← Shape.text ms "routing"
  validate ⟨index, id, path, routing⟩

end TermsLookup

/-- Where the terms of a `terms` clause come from. -/
inductive TermsSource where
  | values (vs : List Scalar)
  | lookup (l : TermsLookup)
  deriving Repr, Inhabited

/-- `terms`: documents whose field holds any of several values. -/
structure TermsQuery where
  field : String := ""
  source : TermsSource := .values []
  params : Params := {}
  deriving Repr, Inhabited

namespace TermsQuery

def isEmpty (q : TermsQuery) : Bool := q.field.isEmpty

def sourceJson : TermsSource → Json
  | .values vs => .arr (vs.map Scalar.toJson)
  | .lookup l => l.toJson

def body (q : TermsQuery) : Json :=
  if q.isEmpty then .null
  else Json.mkObj (q.params.members QueryKind.terms.params ++ [(q.field, sourceJson q.source)])

/-- The terms of one value: an array of scalars, a lookup object, null for none, or a single
scalar. -/
def decodeSource (field : String) (v : Json) : Except Error TermsSource :=
  let invalid (item : Json) : Error := ((Error.ofKind .invalidParams).withReceived item.render).withField field
  let one (item : Json) : Except Error Scalar :=
    match Scalar.ofJson? item with
    | some s => .ok s
    | none => .error (invalid item)
  match v with
  | .arr items => (items.mapM one).map .values
  | .obj ms => ((TermsLookup.decode ms).mapError (·.withField field)).map .lookup
  | .null => .ok (.values [])
  | other => (one other).map fun s => .values [s]

/-- Read a flat body: the parameters, then the one key that is not a parameter, which is the
field. A body with no such key is empty. -/
def decode (v : Json) : Except Error TermsQuery := do
  match ← Shape.flat v with
  | none => pure {}
  | some ms =>
    let params ← Params.ofMembers QueryKind.terms.params (some .terms) ms
    let declared := QueryKind.terms.params.map Param.key
    match ms.filter fun m => !declared.contains m.1 with
    | [] => pure { params }
    | [(field, terms)] =>
      let source ← decodeSource field terms
      pure ⟨field, source, params⟩
    | (first, _) :: (second, _) :: _ => throw (Shape.severalFields first second)

/-- Build from a field and inline values, or from a lookup, which wins when given. -/
def build (field : String) (values : List Scalar) (lookup : Option TermsLookup)
    (given : ParamInput) : Except Error TermsQuery := do
  requireField .terms field
  let source ← match lookup with
    | some l => (l.validate.mapError (Error.atField .terms field)).map .lookup
    | none => pure (.values values)
  let params ← (Params.ofGiven QueryKind.terms.params (some .terms) given).mapError
    (Error.atField .terms field)
  pure ⟨field, source, params⟩

def pushValue (q : TermsQuery) (v : Scalar) : TermsQuery :=
  match q.source with
  | .values vs => { q with source := .values (vs ++ [v]) }
  | .lookup _ => { q with source := .values [v] }

end TermsQuery

/-- `prefix`, `wildcard` and `fuzzy`: terms that start with, match or are near a text. -/
structure PatternQuery where
  field : String := ""
  value : String := ""
  params : Params := {}
  deriving Repr, Inhabited

namespace PatternQuery

def isEmpty (q : PatternQuery) : Bool := q.field.isEmpty

def body (k : QueryKind) (q : PatternQuery) : Json :=
  if q.isEmpty then .null
  else Shape.wrapField q.field ((("value", .str q.value)) :: q.params.members k.params)

def decode (k : QueryKind) (v : Json) : Except Error PatternQuery := do
  match ← Shape.fieldKeyed v (some "value") with
  | none => pure {}
  | some (field, ms) =>
    let value ← (Shape.text ms "value").mapError (·.withField field)
    let params ← (Params.ofMembers k.params (some k) ms).mapError (·.withField field)
    if value.isEmpty then throw ((Error.ofKind .valueRequired).withField field)
    pure ⟨field, value, params⟩

def build (k : QueryKind) (field value : String) (given : ParamInput) :
    Except Error PatternQuery := do
  requireField k field
  if value.isEmpty then throw (Error.atField k field (Error.ofKind .valueRequired))
  let params ← (Params.ofGiven k.params (some k) given).mapError (Error.atField k field)
  pure ⟨field, value, params⟩

def setValue (q : PatternQuery) (value : String) : PatternQuery := { q with value }

end PatternQuery

/-- `regexp`: terms matching a regular expression, with optional operator flags. -/
structure RegexpQuery where
  field : String := ""
  value : String := ""
  flags : String := ""
  params : Params := {}
  deriving Repr, Inhabited

namespace RegexpQuery

def isEmpty (q : RegexpQuery) : Bool := q.field.isEmpty

def body (q : RegexpQuery) : Json :=
  if q.isEmpty then .null
  else Shape.wrapField q.field ((("value", .str q.value)) :: Shape.nonEmpty "flags" q.flags ++
    q.params.members QueryKind.regexp.params)

def decode (v : Json) : Except Error RegexpQuery := do
  match ← Shape.fieldKeyed v (some "value") with
  | none => pure {}
  | some (field, ms) =>
    let value ← (Shape.text ms "value").mapError (·.withField field)
    let flags ← (Shape.text ms "flags").mapError (·.withField field)
    let params ← (Params.ofMembers QueryKind.regexp.params (some .regexp) ms).mapError
      (·.withField field)
    if value.isEmpty then throw ((Error.ofKind .valueRequired).withField field)
    pure ⟨field, value, flags, params⟩

def build (field value flags : String) (given : ParamInput) : Except Error RegexpQuery := do
  requireField .regexp field
  if value.isEmpty then throw (Error.atField .regexp field (Error.ofKind .valueRequired))
  let params ← (Params.ofGiven QueryKind.regexp.params (some .regexp) given).mapError
    (Error.atField .regexp field)
  pure ⟨field, value, flags, params⟩

def setValue (q : RegexpQuery) (value : String) : RegexpQuery := { q with value }

def setFlags (q : RegexpQuery) (flags : String) : RegexpQuery := { q with flags }

end RegexpQuery

/-- The four bounds of a range, each optional. -/
structure Bounds where
  gt : Option Scalar := none
  gte : Option Scalar := none
  lt : Option Scalar := none
  lte : Option Scalar := none
  deriving Repr, Inhabited

namespace Bounds

def members (b : Bounds) : List (String × Json) :=
  Shape.opt "gt" (b.gt.map Scalar.toJson) ++ Shape.opt "gte" (b.gte.map Scalar.toJson) ++
    Shape.opt "lt" (b.lt.map Scalar.toJson) ++ Shape.opt "lte" (b.lte.map Scalar.toJson)

def decode (ms : Json.Members) : Except Error Bounds := do
  let gt ← Shape.scalar? ms "gt"
  let gte ← Shape.scalar? ms "gte"
  let lt ← Shape.scalar? ms "lt"
  let lte ← Shape.scalar? ms "lte"
  pure ⟨gt, gte, lt, lte⟩

end Bounds

/-- `range`: values between bounds. -/
structure RangeQuery where
  field : String := ""
  bounds : Bounds := {}
  params : Params := {}
  deriving Repr, Inhabited

namespace RangeQuery

def isEmpty (q : RangeQuery) : Bool := q.field.isEmpty

def body (q : RangeQuery) : Json :=
  if q.isEmpty then .null
  else Shape.wrapField q.field (q.bounds.members ++ q.params.members QueryKind.range.params)

def decode (v : Json) : Except Error RangeQuery := do
  match ← Shape.fieldKeyed v none with
  | none => pure {}
  | some (field, ms) =>
    let bounds ← (Bounds.decode ms).mapError (·.withField field)
    let params ← (Params.ofMembers QueryKind.range.params (some .range) ms).mapError
      (·.withField field)
    pure ⟨field, bounds, params⟩

def build (field : String) (bounds : Bounds) (given : ParamInput) : Except Error RangeQuery := do
  requireField .range field
  let params ← (Params.ofGiven QueryKind.range.params (some .range) given).mapError
    (Error.atField .range field)
  pure ⟨field, bounds, params⟩

end RangeQuery

/-- `exists`: documents with any value in a field. -/
structure ExistsQuery where
  field : String := ""
  params : Params := {}
  deriving Repr, Inhabited

namespace ExistsQuery

def isEmpty (q : ExistsQuery) : Bool := q.field.isEmpty

def body (q : ExistsQuery) : Json :=
  if q.isEmpty then .null
  else Json.mkObj (("field", .str q.field) :: q.params.members QueryKind.fieldExists.params)

/-- Read a flat body; parameters without a field are an error. -/
def decode (v : Json) : Except Error ExistsQuery := do
  match ← Shape.flat v with
  | none => pure {}
  | some ms =>
    let field ← Shape.text ms "field"
    let params ← Params.ofMembers QueryKind.fieldExists.params (some .fieldExists) ms
    if field.isEmpty && !params.isDefault then throw (Error.ofKind .fieldRequired)
    pure ⟨field, params⟩

def build (field : String) (given : ParamInput) : Except Error ExistsQuery := do
  requireField .fieldExists field
  let params ← Params.ofGiven QueryKind.fieldExists.params (some .fieldExists) given
  pure ⟨field, params⟩

end ExistsQuery

/-- `ids`: documents by id. -/
structure IdsQuery where
  values : List String := []
  params : Params := {}
  deriving Repr, Inhabited

namespace IdsQuery

def isEmpty (q : IdsQuery) : Bool := q.values.isEmpty

def body (q : IdsQuery) : Json :=
  if q.isEmpty then .null
  else Json.mkObj (("values", namesJson q.values) :: q.params.members QueryKind.ids.params)

def idOf (item : Json) : Except Error String :=
  match item with
  | .str s => .ok s
  | .int i => .ok (toString i)
  | .float f => .ok (Decimal.jsonText f)
  | other => .error (Shape.invalidSlot "values" other)

def decode (v : Json) : Except Error IdsQuery := do
  match ← Shape.flat v with
  | none => pure {}
  | some ms =>
    let values ← match Json.Members.get? ms "values" with
      | none | some .null => pure []
      | some (.arr items) => items.mapM idOf
      | some (.str s) => pure [s]
      | some other => throw (Shape.invalidSlot "values" other)
    let params ← Params.ofMembers QueryKind.ids.params (some .ids) ms
    pure ⟨values, params⟩

def build (values : List String) (given : ParamInput) : Except Error IdsQuery := do
  let params ← Params.ofGiven QueryKind.ids.params (some .ids) given
  pure ⟨values, params⟩

def push (q : IdsQuery) (id : String) : IdsQuery := { q with values := q.values ++ [id] }

end IdsQuery

end SearchDsl
