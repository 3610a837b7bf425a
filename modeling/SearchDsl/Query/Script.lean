import SearchDsl.Query.Shape
import SearchDsl.Param.Coerce
import SearchDsl.Param.Declared
/-!
Scripts, the `script` clause, and the clauses without payload (`match_all`, `match_none`). A
script is inline (`source`) or stored (`id`); one with neither is empty. A bare text stands for
an inline script. A clause without payload is present as soon as its body is an object, so `{}`
is a present `match_all` and only `null` is empty.
-/

namespace SearchDsl

/-- An inline or stored script, its language and its parameters. -/
structure Script where
  source : String := ""
  id : String := ""
  lang : String := ""
  params : Json.Members := []
  deriving Repr, Inhabited

namespace Script

def isEmpty (s : Script) : Bool := s.source.isEmpty && s.id.isEmpty

def toJson (s : Script) : Json :=
  Json.mkObj (Shape.nonEmpty "source" s.source ++ Shape.nonEmpty "id" s.id ++
    Shape.nonEmpty "lang" s.lang ++ (if s.params.isEmpty then [] else [("params", .obj s.params)]))

/-- Read a script: null is empty, a text is inline, an object has its parts. -/
def decode (v : Json) : Except Error Script :=
  match v with
  | .null => .ok {}
  | .str source => .ok { source }
  | .obj ms => do
    let params ← match Json.Members.get? ms "params" with
      | none | some .null => pure []
      | some (.obj ps) => pure ps
      | some other => throw (Shape.invalidSlot "params" other)
    let source ← Shape.text ms "source"
    let id ← Shape.text ms "id"
    let lang ← Shape.text ms "lang"
    pure ⟨source, id, lang, params⟩
  | other => .error (Shape.invalidSlot "script" other)

def required : Option Script → Except Error Script
  | some s => if s.isEmpty then .error (Error.ofKind .scriptRequired) else .ok s
  | none => .error (Error.ofKind .scriptRequired)

def withLang (s : Script) (lang : String) : Script := { s with lang }

def withParam (s : Script) (key : String) (v : Json) : Script :=
  { s with params := s.params.insert key v }

end Script

/-- `script`: documents for which a script is true. -/
structure ScriptQuery where
  script : Script := {}
  params : Params := {}
  deriving Repr, Inhabited

namespace ScriptQuery

def isEmpty (q : ScriptQuery) : Bool := q.script.isEmpty

def body (q : ScriptQuery) : Json :=
  if q.isEmpty then .null
  else Json.mkObj (("script", q.script.toJson) :: q.params.members QueryKind.script.params)

def decode (v : Json) : Except Error ScriptQuery := do
  match ← Shape.flat v with
  | none => pure {}
  | some ms =>
    let script ← match Json.Members.get? ms "script" with
      | some raw => Script.decode raw
      | none => pure {}
    let params ← Params.ofMembers QueryKind.script.params (some .script) ms
    if script.isEmpty && !params.isDefault then throw (Error.ofKind .scriptRequired)
    pure ⟨script, params⟩

def build (script : Option Script) (given : ParamInput) : Except Error ScriptQuery := do
  let script ← (Script.required script).mapError (·.withClause .script)
  let params ← Params.ofGiven QueryKind.script.params (some .script) given
  pure ⟨script, params⟩

end ScriptQuery

/-- `match_all` and `match_none`: clauses with parameters only. -/
structure BareQuery where
  present : Bool := false
  params : Params := {}
  deriving Repr, Inhabited

namespace BareQuery

def isEmpty (q : BareQuery) : Bool := !q.present

def body (k : QueryKind) (q : BareQuery) : Json :=
  if q.isEmpty then .null else Json.mkObj (q.params.members k.params)

def decode (k : QueryKind) (v : Json) : Except Error BareQuery := do
  match ← Shape.flat v with
  | none => pure {}
  | some ms =>
    let params ← Params.ofMembers k.params (some k) ms
    pure ⟨true, params⟩

def build (k : QueryKind) (given : ParamInput) : Except Error BareQuery := do
  let params ← Params.ofGiven k.params (some k) given
  pure ⟨true, params⟩

end BareQuery

end SearchDsl
