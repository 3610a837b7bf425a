import SearchDsl.Mapping.FieldType
import SearchDsl.Loose
import SearchDsl.Scalar
import SearchDsl.Tag
import SearchDsl.Error
/-!
Stored values of mapping parameters. Unlike query parameters, a mapping parameter is kept as
given, defaults included: a mapping that says `"index": true` writes it back. A value is coerced
from JSON once, when it is set: texts and flags loosely, counts as non-negative integers, tags
by their spellings, `meta` within its size limits. The one value that is not stored is a
`max_shingle_size` of 0, which asks for the engine default.
-/

namespace SearchDsl

def maxMetaEntries : Nat := 5

def maxMetaKeyLength : Nat := 20

def maxMetaValueLength : Nat := 50

/-- The stored value of a mapping parameter other than its child mappings. -/
inductive FieldSetting where
  | text (s : String)
  | real (f : Float)
  | flag (b : Bool)
  | count (n : Int)
  | dynamic (d : Dynamic)
  | indexOptions (v : IndexOptions)
  | orientation (v : Orientation)
  | similarity (v : Similarity)
  | termVector (v : TermVector)
  | scalar (s : Scalar)
  | names (xs : List String)
  | metadata (entries : List (String × String))
  | relations (entries : List (String × List String))
  deriving Repr, Inhabited

def namesValueJson : List String → Json
  | [single] => .str single
  | xs => namesJson xs

namespace FieldSetting

/-- The JSON of a stored value; empty `meta` and `relations` are not written. -/
def toJson? : FieldSetting → Option Json
  | text s => some (.str s)
  | real f => some (.float f)
  | flag b => some (.bool b)
  | count n => some (.int n)
  | dynamic d => some d.toJson
  | indexOptions v => some (.str (Tagged.tag v))
  | orientation v => some (.str (Tagged.tag v))
  | similarity v => some (.str (Tagged.tag v))
  | termVector v => some (.str (Tagged.tag v))
  | scalar s => some s.toJson
  | names xs => some (namesValueJson xs)
  | metadata [] | relations [] => none
  | metadata entries => some (Json.mkObj (entries.map fun (k, v) => (k, .str v)))
  | relations entries => some (Json.mkObj (entries.map fun (k, v) => (k, namesValueJson v)))

end FieldSetting

/-- Check the size limits of `meta` entries: how many, and how long each key and value is. -/
def validateMeta (entries : List (String × String)) : Except Error Unit :=
  let exceeded (detail : String) : Error :=
    ((Error.ofKind .metaLimitExceeded).withParam "meta").withDetail detail
  if entries.length > maxMetaEntries then
    .error (exceeded (toString entries.length ++ " entries, at most " ++ toString maxMetaEntries ++
      " allowed"))
  else
    entries.forM fun (k, v) =>
      if k.length > maxMetaKeyLength then
        .error (exceeded ("key " ++ Text.quoted k ++ " longer than " ++ toString maxMetaKeyLength ++
          " characters"))
      else if v.length > maxMetaValueLength then
        .error (exceeded ("value of " ++ Text.quoted k ++ " longer than " ++
          toString maxMetaValueLength ++ " characters"))
      else .ok ()

def shingleSizeOf (size : Int) : Except Error (Option Int) :=
  if size = 0 then .ok none
  else if 2 ≤ size ∧ size ≤ 4 then .ok (some size)
  else .error (((Error.ofKind .invalidMaxShingleSize).withParam "max_shingle_size").withReceived
    (toString size))

namespace MappingParam

def refuse (p : MappingParam) (kind : ErrorKind) (v : Json) : Error :=
  ((Error.ofKind kind).withParam p.key).withReceived v.render

def looseOf (p : MappingParam) (v : Json) : Except Error Loose :=
  match Loose.ofJson v with
  | .ok (some l) => .ok l
  | _ => .error (p.refuse .invalidParams v)

def require {α : Type} (p : MappingParam) (kind : ErrorKind) (v : Json) (a : Option α) :
    Except Error α :=
  match a with
  | some a => .ok a
  | none => .error (p.refuse kind v)

def tagOf (α : Type) [Tagged α] (p : MappingParam) (v : Json) : Except Error α := do
  let l ← p.looseOf v
  (Tagged.parse l.text).mapError (·.withParam p.key)

/-- The stored value of a JSON value that is not null; none when the value asks for no setting:
a `max_shingle_size` of 0, or an empty `meta` or `relations`, which is the same as none. Child
mappings are read by the mapping itself, not here. -/
def settingOf (p : MappingParam) (v : Json) : Except Error (Option FieldSetting) := do
  let flag : Except Error (Option FieldSetting) := do
    let l ← p.looseOf v
    pure (some (.flag (← p.require .invalidParams v l.toBool?)))
  let count : Except Error (Option FieldSetting) := do
    let l ← p.looseOf v
    pure (some (.count (← p.require .invalidParams v (l.toI64?.filter (0 ≤ ·)))))
  match p with
  | analyzer | searchAnalyzer | searchQuoteAnalyzer | normalizer | format | path =>
    pure (some (.text (← p.looseOf v).text))
  | boost => do
    let l ← p.looseOf v
    pure (some (.real (← p.require .invalidBoost v (l.toF64?.filter (0 ≤ ·)))))
  | scalingFactor => do
    let l ← p.looseOf v
    pure (some (.real (← p.require .invalidParams v (l.toF64?.filter (0 < ·)))))
  | coerce | docValues | eagerGlobalOrdinals | enabled | ignoreMalformed | ignoreZValue | index
  | norms | positiveScoreImpact | preservePositionIncrements | preserveSeparators
  | splitQueriesOnWhitespace | store => flag
  | dims => do
    let l ← p.looseOf v
    pure (some (.count (← p.require .invalidDims v (l.toI64?.filter (0 < ·)))))
  | depthLimit | ignoreAbove | maxInputLength | positionIncrementGap => count
  | maxShingleSize => do
    let l ← p.looseOf v
    let size ← p.require .invalidMaxShingleSize v l.toI64?
    pure ((← shingleSizeOf size).map .count)
  | dynamic => pure (some (.dynamic (← tagOf Dynamic p v)))
  | indexOptions => pure (some (.indexOptions (← tagOf IndexOptions p v)))
  | orientation => pure (some (.orientation (← tagOf Orientation p v)))
  | similarity => pure (some (.similarity (← tagOf Similarity p v)))
  | termVector => pure (some (.termVector (← tagOf TermVector p v)))
  | nullValue | value => pure (some (.scalar (← p.require .invalidParams v (Scalar.ofJson? v))))
  | copyTo => pure (some (.names (← p.require .invalidParams v (namesOfJson? v))))
  | metadata =>
    match v with
    | .obj ms => do
      -- entries are collected into a map: sorted by key, each key once
      let entries ← (Json.Members.ofList ms).mapM fun (k, x) =>
        match x with
        | .str s => .ok (k, s)
        | other => .error ((((Error.ofKind .invalidParams).withParam "meta").withDetail
            ("value of " ++ Text.quoted k ++ " must be a string")).withReceived other.render)
      validateMeta entries
      pure (if entries.isEmpty then none else some (.metadata entries))
    | _ => .error (p.refuse .invalidParams v)
  | relations =>
    match v with
    | .obj ms => do
      let entries ← (Json.Members.ofList ms).mapM fun (k, x) =>
        (p.require .invalidParams v (namesOfJson? x)).map fun xs => (k, xs)
      pure (if entries.isEmpty then none else some (.relations entries))
    | _ => .error (p.refuse .invalidParams v)
  | fields | properties =>
    .error ((p.refuse .invalidParams v).withDetail "child mappings are parsed by the mapping itself")

end MappingParam

end SearchDsl
