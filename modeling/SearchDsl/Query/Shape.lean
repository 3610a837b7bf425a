import SearchDsl.Scalar
import SearchDsl.Error
/-!
Outer shapes of clause bodies. A field-keyed body names one field and holds its parameter object
(`{"user": {"value": "x"}}`), or a scalar that stands for one slot of it (`{"user": "x"}`); a
flat body is the parameter object itself. Null and `{}` are the empty clause. Slots are read by
kind: texts (numbers and truth values written as text), scalars, name lists, flags, integers
and floats; a value of the wrong kind is an error naming the slot and showing the value.
-/

namespace SearchDsl

namespace Shape

def invalidSlot (key : String) (v : Json) : Error :=
  ((Error.ofKind .invalidParams).withParam key).withReceived v.render

def severalFields (first second : String) : Error :=
  (Error.ofKind .invalidParams).withDetail
    ("expected a single field, got several (" ++ first ++ ", " ++ second ++ ", ...)")

/-- The field and parameter object of a field-keyed body; none for null or `{}`. A scalar in
place of the parameter object fills the `shortcut` slot. -/
def fieldKeyed (v : Json) (shortcut : Option String) :
    Except Error (Option (String × Json.Members)) :=
  match v with
  | .null => .ok none
  | .obj [] => .ok none
  | .obj [(field, inner)] =>
    let notParams : Error :=
      ((Error.ofKind .invalidParams).withField field).withDetail "expected an object of parameters"
    match inner with
    | .obj body => .ok (some (field, body))
    | .null => .ok (some (field, []))
    | .arr _ => .error notParams
    | scalar =>
      match shortcut with
      | some slot => .ok (some (field, [(slot, scalar)]))
      | none => .error notParams
  | .obj ((first, _) :: (second, _) :: _) => .error (severalFields first second)
  | _ => .error ((Error.ofKind .invalidParams).withDetail "expected an object keyed by field name")

def flat (v : Json) : Except Error (Option Json.Members) :=
  match v with
  | .null => .ok none
  | .obj ms => .ok (some ms)
  | other => .error (((Error.ofKind .invalidParams).withDetail "expected an object").withReceived other.render)

def wrapField (field : String) (inner : List (String × Json)) : Json :=
  .obj [(field, Json.mkObj inner)]

/-- A text slot; a number is written as its JSON text and a truth value as `true`/`false`. -/
def text? (ms : Json.Members) (key : String) : Except Error (Option String) :=
  match Json.Members.get? ms key with
  | none | some .null => .ok none
  | some (.str s) => .ok (some s)
  | some (.int i) => .ok (some (toString i))
  | some (.float f) => .ok (some (Decimal.jsonText f))
  | some (.bool b) => .ok (some (if b then "true" else "false"))
  | some other => .error (invalidSlot key other)

def text (ms : Json.Members) (key : String) : Except Error String :=
  (text? ms key).map fun t => t.getD ""

/-- A scalar slot. -/
def scalar? (ms : Json.Members) (key : String) : Except Error (Option Scalar) :=
  match Json.Members.get? ms key with
  | none | some .null => .ok none
  | some v =>
    match Scalar.ofJson? v with
    | some s => .ok (some s)
    | none => .error (invalidSlot key v)

/-- A slot of names: one text or an array of texts; null or absent is none. -/
def names (ms : Json.Members) (key : String) : Except Error (List String) :=
  match Json.Members.get? ms key with
  | none => .ok []
  | some v =>
    match namesOfJson? v with
    | some xs => .ok xs
    | none => .error (invalidSlot key v)

/-- A flag slot: a truth value, or the text `true`/`false` in any ASCII case. -/
def flag? (ms : Json.Members) (key : String) : Except Error (Option Bool) :=
  match Json.Members.get? ms key with
  | none | some .null => .ok none
  | some (.bool b) => .ok (some b)
  | some (.str s) =>
    if Decimal.asciiLower s = "true" then .ok (some true)
    else if Decimal.asciiLower s = "false" then .ok (some false)
    else .error (invalidSlot key (.str s))
  | some other => .error (invalidSlot key other)

/-- A slot read as a loose value and coerced by `f`. -/
def looseSlot? {α : Type} (f : Loose → Option α) (ms : Json.Members) (key : String) :
    Except Error (Option α) :=
  match Json.Members.get? ms key with
  | none | some .null => .ok none
  | some v =>
    match Loose.ofJson v with
    | .ok (some l) =>
      match f l with
      | some a => .ok (some a)
      | none => .error (invalidSlot key v)
    | _ => .error (invalidSlot key v)

def int? (ms : Json.Members) (key : String) : Except Error (Option Int) := looseSlot? Loose.toI64? ms key

def float? (ms : Json.Members) (key : String) : Except Error (Option Float) :=
  looseSlot? Loose.toF64? ms key

def opt (key : String) : Option Json → List (String × Json)
  | some v => [(key, v)]
  | none => []

def nonEmpty (key : String) (s : String) : List (String × Json) :=
  if s.isEmpty then [] else [(key, .str s)]

end Shape

def Error.atField (k : QueryKind) (field : String) (e : Error) : Error :=
  (e.withClause k).withField field

def requireField (k : QueryKind) (field : String) : Except Error Unit :=
  if field.isEmpty then .error ((Error.ofKind .fieldRequired).withClause k) else .ok ()

end SearchDsl
