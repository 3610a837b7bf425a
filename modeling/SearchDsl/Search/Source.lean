import SearchDsl.Error
import SearchDsl.Scalar
/-!
Source filtering of a search: whether hits carry their stored document, and which of its fields.
It is a flag, one field pattern, a list of patterns, or patterns to include and to exclude.
-/

namespace SearchDsl

/-- What part of each hit's stored document a search returns. -/
inductive SourceFilter where
  | enabled (on : Bool)
  | field (pattern : String)
  | fields (patterns : List String)
  | filter (includes excludes : List String)
  deriving Repr, Inhabited, DecidableEq

namespace SourceFilter

/-- The JSON of a filter; an empty include or exclude list is not written. -/
def toJson : SourceFilter → Json
  | enabled on => .bool on
  | field p => .str p
  | fields ps => namesJson ps
  | filter includes excludes =>
    Json.mkObj ((if includes.isEmpty then [] else [("includes", namesJson includes)]) ++
      (if excludes.isEmpty then [] else [("excludes", namesJson excludes)]))

/-- Read a filter: a flag, a pattern, an array of patterns, or an object of `includes` and
`excludes` (also spelled `include` and `exclude`), each a pattern or an array of them. Any other
shape is refused, naming the whole value. -/
def decode (v : Json) : Except Error SourceFilter :=
  let invalid : Error := ((Error.ofKind .invalidSourceKind).withParam "_source").withReceived v.render
  let patterns : Json → Except Error (List String)
    | .null => .ok []
    | .str s => .ok [s]
    | .arr items => items.mapM fun
      | .str s => .ok s
      | _ => .error invalid
    | _ => .error invalid
  let pick (ms : Json.Members) (plural singular : String) : Except Error (List String) :=
    match Json.Members.get? ms plural with
    | some raw => patterns raw
    | none =>
      match Json.Members.get? ms singular with
      | some raw => patterns raw
      | none => .ok []
  match v with
  | .bool on => .ok (enabled on)
  | .str p => .ok (field p)
  | .arr _ => fields <$> patterns v
  | .obj ms => do
    let includes ← pick ms "includes" "include"
    let excludes ← pick ms "excludes" "exclude"
    pure (filter includes excludes)
  | _ => .error invalid

end SourceFilter

end SearchDsl
