import SearchDsl.Service.Values
import SearchDsl.Scalar
/-!
Requests that make a payload value, a loose value or a list of names from a value of a given
source type, and show every view of the result. The source types are the machine types a caller
may hold: texts, flags, integers of fixed width, doubles and singles, instants, or JSON.
-/

namespace SearchDsl.Service

def integerIn (lo hi : Int) : Json → Except String Int
  | .int i => if lo ≤ i ∧ i < hi then .ok i else .error "integer out of range"
  | _ => .error "expected an integer"

/-- A double, given as a JSON number or as the text of a NaN or an infinity. -/
def doubleOf : Json → Except String Float
  | .int i => .ok (Loose.intToFloat i)
  | .float f => .ok f
  | .str "NaN" => .ok (0.0 / 0.0)
  | .str "inf" => .ok (Decimal.infinity false)
  | .str "-inf" => .ok (Decimal.infinity true)
  | _ => .error "expected a double"

def textOf : Json → Except String String
  | .str s => .ok s
  | _ => .error "expected a string"

def payloadView (s : Scalar) : Json :=
  Json.mkObj [("json", s.toJson), ("serialize", s.toJson), ("display", .str s.text),
    ("as_str", optJson .str s.asStr?), ("as_f64", optJson floatJson s.asFloat?),
    ("is_empty", .bool s.isEmpty)]

/-- The payload value made from a value of a source type; a JSON value that is no scalar is a
failed decoding. -/
def scalarFrom (source : String) (v : Json) : Except String Json :=
  match source with
  | "str" | "string" => (payloadView ∘ .str) <$> textOf v
  | "bool" =>
    match v with
    | .bool b => .ok (payloadView (.bool b))
    | _ => .error "expected a bool"
  | "i32" => (fun i => payloadView (.num (.int i))) <$> integerIn (-(Nat.pow 2 31 : Int)) (Nat.pow 2 31) v
  | "i64" => (fun i => payloadView (.num (.int i))) <$> integerIn (-(Nat.pow 2 63 : Int)) (Nat.pow 2 63) v
  | "u64" => (fun i => payloadView (.num (.int i))) <$> integerIn 0 (Nat.pow 2 64) v
  | "f64" => (payloadView ∘ Scalar.ofFloat) <$> doubleOf v
  | "time" => do
    let s ← textOf v
    match Instant.parse? s with
    | some t => .ok (payloadView (.time t))
    | none => .error "not an RFC 3339 time"
  | "json" =>
    .ok (match Scalar.ofJson? v with
      | some s => payloadView s
      | none => deserializeError (some ("expected a scalar, got " ++ v.render)))
  | _ => .error "unknown source type"

def scalarFromOp (req : Json) : Reply := do
  scalarFrom (← reqStr req "from") (reqGet req "value")

def looseFullView (l : Loose) : Json :=
  match looseView l with
  | .obj ms => Json.mkObj (ms ++ [("as_str", optJson .str l.asStr?), ("serialize", l.toJson)])
  | j => j

/-- The double a single-precision caller holds for a JSON number: the number rounded to the
nearest single, then widened back. -/
def singleOf (v : Json) : Except String Float :=
  (fun f => f.toFloat32.toFloat) <$> doubleOf v

/-- The loose value made from a value of a source type; a tag that does not read is answered
with its error, and JSON that is no scalar is a failed decoding. -/
def looseFrom (source : String) (v : Json) : Except String Json :=
  let integer (lo hi : Int) : Except String Json :=
    (fun i => looseFullView (Loose.ofInt i)) <$> integerIn lo hi v
  let tagged (read : String → Except Error String) : Except String Json := do
    let s ← textOf v
    .ok (resultJson (read s) fun tag => looseFullView (.str tag))
  match source with
  | "bool" =>
    match v with
    | .bool b => .ok (looseFullView (.bool b))
    | _ => .error "expected a bool"
  | "i32" => integer (-(Nat.pow 2 31 : Int)) (Nat.pow 2 31)
  | "i64" => integer (-(Nat.pow 2 63 : Int)) (Nat.pow 2 63)
  | "u32" => integer 0 (Nat.pow 2 32)
  | "u64" | "usize" => integer 0 (Nat.pow 2 64)
  | "f32" => (looseFullView ∘ .float) <$> singleOf v
  | "f64" => (looseFullView ∘ .float) <$> doubleOf v
  | "str" | "string" | "string_ref" => (looseFullView ∘ .str) <$> textOf v
  | "operator" => tagged fun s => (Tagged.parse (α := Operator) s).map Tagged.tag
  | "rewrite" => tagged fun s => (Rewrite.parse s).map Rewrite.tag
  | "json" =>
    .ok (match Loose.ofJson v with
      | .ok (some l) => looseFullView l
      | _ => deserializeError none)
  | _ => .error "unknown source type"

def looseFromOp (req : Json) : Reply := do
  looseFrom (← reqStr req "from") (reqGet req "value")

def namesView (xs : List String) : Json :=
  Json.mkObj [("json", namesJson xs), ("serialize", namesJson xs), ("len", .int xs.length),
    ("is_empty", .bool xs.isEmpty), ("items", namesJson xs), ("as_slice", namesJson xs),
    ("into_vec", namesJson xs)]

def textsOf : Json → Except String (List String)
  | .arr items =>
    match items.mapM Json.str? with
    | some xs => .ok xs
    | none => .error "expected strings"
  | _ => .error "expected an array"

/-- The list of names made from a value of a source type: one text, a list of texts, an array
of one to three texts, or JSON read as names. -/
def namesFrom (source : String) (v : Json) : Except String Json :=
  match source with
  | "str" | "string" => (fun s => namesView [s]) <$> textOf v
  | "vec_string" | "vec_str" | "iter" | "push" => namesView <$> textsOf v
  | "array" => do
    let xs ← textsOf v
    if 1 ≤ xs.length ∧ xs.length ≤ 3 then .ok (namesView xs) else .error "unsupported length"
  | "json" =>
    .ok (match namesOfJson? v with
      | some xs => namesView xs
      | none => deserializeError (some ("expected a string or an array of strings, got " ++ v.render)))
  | _ => .error "unknown source type"

def stringsFromOp (req : Json) : Reply := do
  namesFrom (← reqStr req "from") (reqGet req "value")

end SearchDsl.Service
