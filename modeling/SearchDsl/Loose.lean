import SearchDsl.Json.Writer
import SearchDsl.Decimal.Read
import SearchDsl.Text.Debug
import SearchDsl.Text.Blank
/-!
Loose values: a scalar given for a parameter before the parameter checks it, in whatever form the
caller had it (`"true"` for a flag, `"5"` for a count, `2` for a float). Coercions accept a form
only when nothing is lost: a float becomes an integer only when it is integral and within 64
bits, a text is trimmed of blanks before it is read.
-/

namespace SearchDsl

/-- A scalar before coercion; `int` holds a signed 64-bit integer. -/
inductive Loose where
  | bool (b : Bool)
  | int (i : Int)
  | float (f : Float)
  | str (s : String)
  deriving Repr, Inhabited

namespace Loose

def fitsI64 (i : Int) : Bool := -(Nat.pow 2 63 : Int) ≤ i && i < Nat.pow 2 63

def intToFloat (i : Int) : Float := Decimal.toFloat (i < 0) i.natAbs 0

def ofInt (i : Int) : Loose := if fitsI64 i then .int i else .float (intToFloat i)

/-- Loose input of a JSON value. Null is "not given"; an array or object is refused with its
compact JSON text. -/
def ofJson : Json → Except String (Option Loose)
  | .null => .ok none
  | .bool b => .ok (some (.bool b))
  | .int i => .ok (some (ofInt i))
  | .float f => .ok (some (.float f))
  | .str s => .ok (some (.str s))
  | j => .error j.render

/-- The integer value of an integral double within `[-2^63, 2^63]`, the upper end saturating to
the greatest 64-bit integer. -/
def floatToI64? (f : Float) : Option Int :=
  match Decimal.Binary.ofFloat? f with
  | none => none
  | some b =>
    let magnitude? : Option Nat :=
      if 0 ≤ b.exp then some (b.mant * Nat.pow 2 b.exp.toNat)
      else if b.mant % Nat.pow 2 (-b.exp).toNat = 0 then some (b.mant / Nat.pow 2 (-b.exp).toNat)
      else none
    magnitude?.bind fun m =>
      let v : Int := if b.neg then -(m : Int) else m
      if v < -(Nat.pow 2 63 : Int) ∨ v > Nat.pow 2 63 then none
      else some (min v (Nat.pow 2 63 - 1))

/-- Flag coercion: a bool, or the text `true`/`false` in any case, blanks trimmed. -/
def toBool? : Loose → Option Bool
  | .bool b => some b
  | .str s =>
    let t := Decimal.asciiLower (Text.trim s)
    if t = "true" then some true else if t = "false" then some false else none
  | _ => none

/-- Integer coercion, lossless: an integer, an integral double, or a trimmed text that is an
integer numeral or a numeral of an integral double. -/
def toI64? : Loose → Option Int
  | .int i => some i
  | .float f => floatToI64? f
  | .str s =>
    let t := Text.trim s
    match Decimal.parseI64? t with
    | some i => some i
    | none => (Decimal.parseFloat? t).bind floatToI64?
  | .bool _ => none

/-- Float coercion: any integer, a finite double, or a trimmed text naming a finite double. -/
def toF64? : Loose → Option Float
  | .int i => some (intToFloat i)
  | .float f => if f.isFinite then some f else none
  | .str s => (Decimal.parseFloat? (Text.trim s)).filter Float.isFinite
  | .bool _ => none

def text : Loose → String
  | .bool b => if b then "true" else "false"
  | .int i => toString i
  | .float f => Decimal.plainText f
  | .str s => s

def display : Loose → String
  | .str s => Text.quoted s
  | l => l.text

def asStr? : Loose → Option String
  | .str s => some s
  | _ => none

/-- The JSON of a value; a non-finite double has no JSON number and becomes `null`. -/
def toJson : Loose → Json
  | .bool b => .bool b
  | .int i => .int i
  | .float f => if f.isFinite then .float f else .null
  | .str s => .str s

end Loose

end SearchDsl
