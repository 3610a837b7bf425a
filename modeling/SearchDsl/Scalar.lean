import SearchDsl.Json.Writer
import SearchDsl.Loose
import SearchDsl.Time
/-!
Payload values of clauses: a term, a bound, an origin. A scalar is a text, a JSON number, a
truth value or an instant; an instant is written as RFC 3339 text and so reads back as a text.
An empty text carries no value. Lists of names (`fields`, `copy_to`) are read from one text or
an array of texts.
-/

namespace SearchDsl

/-- A JSON number: an integer within 64 bits (signed below zero, unsigned above) or a finite
double. -/
inductive Number where
  | int (i : Int)
  | float (f : Float)
  deriving Repr, Inhabited

namespace Number

def toJson : Number → Json
  | .int i => .int i
  | .float f => .float f

def toFloat : Number → Float
  | .int i => Loose.intToFloat i
  | .float f => f

def text : Number → String
  | .int i => toString i
  | .float f => Decimal.jsonText f

def ofFloat? (f : Float) : Option Number := if f.isFinite then some (.float f) else none

end Number

/-- A payload value. -/
inductive Scalar where
  | str (s : String)
  | num (n : Number)
  | bool (b : Bool)
  | time (t : Instant)
  deriving Repr, Inhabited

namespace Scalar

def ofJson? : Json → Option Scalar
  | .str s => some (.str s)
  | .int i => some (.num (.int i))
  | .float f => some (.num (.float f))
  | .bool b => some (.bool b)
  | _ => none

def toJson : Scalar → Json
  | .str s => .str s
  | .num n => n.toJson
  | .bool b => .bool b
  | .time t => .str t.render

def text : Scalar → String
  | .str s => s
  | .num n => n.text
  | .bool b => if b then "true" else "false"
  | .time t => t.render

def asStr? : Scalar → Option String
  | .str s => some s
  | _ => none

def asFloat? : Scalar → Option Float
  | .num n => some n.toFloat
  | _ => none

def isEmpty : Scalar → Bool
  | .str s => s.isEmpty
  | _ => false

def ofFloat (f : Float) : Scalar :=
  match Number.ofFloat? f with
  | some n => .num n
  | none => .str (Decimal.plainText f)

end Scalar

def namesOfJson? : Json → Option (List String)
  | .null => some []
  | .str s => some [s]
  | .arr items => items.mapM Json.str?
  | _ => none

def namesJson (xs : List String) : Json := .arr (xs.map .str)

end SearchDsl
