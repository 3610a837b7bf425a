import SearchDsl.Query.Script
/-!
Scoring functions of `function_score`, apart from their filter. A function is a decay around an
origin (`exp`, `gauss`, `linear`), a factor of a numeric field, a script, a random score, or a
bare weight. In JSON a function object holds one function key beside the shared `filter` and
`weight`; a bare weight function has no key of its own.
-/

namespace SearchDsl

/-- The key of a scoring function. -/
inductive FunctionKind where
  | exp | gauss | linear | fieldValueFactor | scriptScore | randomScore | weight
  deriving DecidableEq, Repr, Inhabited

namespace FunctionKind

def all : List FunctionKind := [exp, gauss, linear, fieldValueFactor, scriptScore, randomScore, weight]

def keyed : List FunctionKind := [exp, gauss, linear, fieldValueFactor, scriptScore, randomScore]

def tag : FunctionKind → String
  | exp => "exp" | gauss => "gauss" | linear => "linear"
  | fieldValueFactor => "field_value_factor" | scriptScore => "script_score"
  | randomScore => "random_score" | weight => "weight"

def parse (s : String) : Except Error FunctionKind :=
  match all.find? fun k => k.tag = s with
  | some k => .ok k
  | none => .error ((Error.ofKind .unsupportedKind).withReceived (Text.quoted s))

end FunctionKind

/-- The curve of a decay function. -/
inductive DecayCurve where
  | exp | gauss | linear
  deriving DecidableEq, Repr, Inhabited

def DecayCurve.kind : DecayCurve → FunctionKind
  | .exp => .exp
  | .gauss => .gauss
  | .linear => .linear

/-- A score that decays with the distance of a field's value from an origin. The decay at
`scale` distance is kept only when it is not 0.5. -/
structure DecayFunction where
  curve : DecayCurve := .gauss
  field : String := ""
  origin : Scalar := .str ""
  scale : Scalar := .str ""
  offset : Option Scalar := none
  decay : Option Float := none
  multiValueMode : String := ""
  deriving Repr, Inhabited

namespace DecayFunction

def toJson (d : DecayFunction) : Json :=
  Json.mkObj ((d.field, Json.mkObj ([("origin", d.origin.toJson), ("scale", d.scale.toJson)] ++
      Shape.opt "offset" (d.offset.map Scalar.toJson) ++ Shape.opt "decay" (d.decay.map .float))) ::
    Shape.nonEmpty "multi_value_mode" d.multiValueMode)

/-- The field, origin and scale a decay needs, checked in that order. -/
def validate (k : FunctionKind) (field : String) (origin scale : Option Scalar) :
    Except Error (Scalar × Scalar) :=
  if field.isEmpty then .error ((Error.ofKind .fieldRequired).withParam k.tag)
  else
    match origin.filter (!·.isEmpty), scale.filter (!·.isEmpty) with
    | none, _ => .error ((Error.ofKind .originRequired).withField field)
    | some _, none => .error ((Error.ofKind .scaleRequired).withField field)
    | some o, some s => .ok (o, s)

/-- The decay of a loose value: strictly between 0 and 1, none for 0.5. -/
def decayOf : Option Loose → Except Error (Option Float)
  | none => .ok none
  | some l =>
    match l.toF64? with
    | some d =>
      if d > 0 && d < 1 then .ok (if d == 0.5 then none else some d)
      else .error (((Error.ofKind .invalidParams).withParam "decay").withReceived l.display)
    | none => .error (((Error.ofKind .invalidParams).withParam "decay").withReceived l.display)

/-- Read a decay body: one field holding origin, scale, offset and decay, and optionally
`multi_value_mode` beside it. -/
def decode (c : DecayCurve) (v : Json) : Except Error DecayFunction := do
  let k := c.kind
  let ms ← match v with
    | .obj ms => pure ms
    | other => throw (Shape.invalidSlot k.tag other)
  let multiValueMode ← Shape.text ms "multi_value_mode"
  let (field, inner) ← match ms.filter fun m => m.1 ≠ "multi_value_mode" with
    | [(field, .obj inner)] => pure (field, inner)
    | [] => throw ((Error.ofKind .fieldRequired).withParam k.tag)
    | _ => throw (((Error.ofKind .invalidParams).withParam k.tag).withDetail
        "expected a single field holding origin and scale")
  let origin ← (Shape.scalar? inner "origin").mapError (·.withField field)
  let scale ← (Shape.scalar? inner "scale").mapError (·.withField field)
  let offset ← (Shape.scalar? inner "offset").mapError (·.withField field)
  let raw ← match Json.Members.get? inner "decay" with
    | some raw =>
      match Loose.ofJson raw with
      | .ok l => pure l
      | .error received =>
        throw (((Error.ofKind .invalidParams).withParam "decay").withReceived received)
    | none => pure none
  let decay ← (decayOf raw).mapError (·.withField field)
  let (origin, scale) ← validate k field origin scale
  pure ⟨c, field, origin, scale, offset, decay, multiValueMode⟩

end DecayFunction

/-- A score from a numeric field: its value times `factor`, with `missing` for documents
without one. The factor is kept only when it is not 1. -/
structure FactorFunction where
  field : String := ""
  factor : Option Float := none
  missing : Option Float := none
  params : Params := {}
  deriving Repr, Inhabited

namespace FactorFunction

def toJson (f : FactorFunction) : Json :=
  Json.mkObj (("field", .str f.field) :: Shape.opt "factor" (f.factor.map .float) ++
    Shape.opt "missing" (f.missing.map .float) ++ f.params.members Param.factorList)

def decode (v : Json) : Except Error FactorFunction := do
  let ms ← match v with
    | .obj ms => pure ms
    | other => throw (Shape.invalidSlot "field_value_factor" other)
  let field ← Shape.text ms "field"
  let factor ← Shape.float? ms "factor"
  let missing ← Shape.float? ms "missing"
  if field.isEmpty then throw ((Error.ofKind .fieldRequired).withParam "field_value_factor")
  let params ← Params.ofMembers Param.factorList (some .functionScore) ms
  pure ⟨field, factor.filter (· != 1.0), missing, params⟩

def floatOf (key : String) : Option Loose → Except Error (Option Float)
  | none => .ok none
  | some l =>
    match l.toF64? with
    | some f => .ok (some f)
    | none => .error (((Error.ofKind .invalidParams).withParam key).withReceived l.display)

end FactorFunction

/-- Random scores, reproducible with a seed and a field. -/
structure RandomFunction where
  seed : Option Scalar := none
  field : String := ""
  deriving Repr, Inhabited

namespace RandomFunction

def toJson (r : RandomFunction) : Json :=
  Json.mkObj (Shape.opt "seed" (r.seed.map Scalar.toJson) ++ Shape.nonEmpty "field" r.field)

def decode (v : Json) : Except Error RandomFunction := do
  match ← Shape.flat v with
  | none => pure {}
  | some ms =>
    let seed ← Shape.scalar? ms "seed"
    let field ← Shape.text ms "field"
    pure ⟨seed, field⟩

end RandomFunction

/-- What a scoring function computes. -/
inductive FunctionBody where
  | decay (d : DecayFunction)
  | fieldValueFactor (f : FactorFunction)
  | scriptScore (s : Script)
  | randomScore (r : RandomFunction)
  | weight
  deriving Repr, Inhabited

namespace FunctionBody

def kind : FunctionBody → FunctionKind
  | decay d => d.curve.kind
  | fieldValueFactor _ => .fieldValueFactor
  | scriptScore _ => .scriptScore
  | randomScore _ => .randomScore
  | weight => .weight

def toJson? : FunctionBody → Option Json
  | decay d => some d.toJson
  | fieldValueFactor f => some f.toJson
  | scriptScore s => some (.obj [("script", s.toJson)])
  | randomScore r => some r.toJson
  | weight => none

/-- The body of a script score function: an object whose `script` must not be empty. -/
def decodeScript (v : Json) : Except Error Script := do
  let s ← match v with
    | .obj ms =>
      match Json.Members.get? ms "script" with
      | some raw => Script.decode raw
      | none => pure {}
    | other => throw (Shape.invalidSlot "script_score" other)
  Script.required (some s)

/-- The body of a function object: the one function key it holds, or a bare weight when it
holds none. -/
def decodeIn (ms : Json.Members) : Except Error FunctionBody :=
  let present := FunctionKind.keyed.filterMap fun k =>
    (Json.Members.get? ms k.tag).map fun raw => (k, raw)
  match present with
  | _ :: (second, _) :: _ =>
    .error (((Error.ofKind .invalidParams).withParam second.tag).withDetail
      "a function object holds a single function")
  | [(.exp, raw)] => (DecayFunction.decode .exp raw).map decay
  | [(.gauss, raw)] => (DecayFunction.decode .gauss raw).map decay
  | [(.linear, raw)] => (DecayFunction.decode .linear raw).map decay
  | [(.fieldValueFactor, raw)] => (FactorFunction.decode raw).map fieldValueFactor
  | [(.scriptScore, raw)] => (decodeScript raw).map scriptScore
  | [(.randomScore, raw)] => (RandomFunction.decode raw).map randomScore
  | _ => .ok weight

def readWeight (body : FunctionBody) (ms : Json.Members) : Except Error Params := do
  let params ← Params.ofMembers Param.functionList (some .functionScore) ms
  match body, params.weight? with
  | .weight, none => throw (Error.ofKind .weightRequired)
  | _, _ => pure params

end FunctionBody

def shorthandKeys : List String :=
  ["exp", "gauss", "linear", "field_value_factor", "script_score", "random_score"]

end SearchDsl
