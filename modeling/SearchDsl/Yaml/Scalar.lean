import SearchDsl.Json.Basic
import SearchDsl.Decimal.Read
/-!
The JSON values of YAML scalars. A quoted or block scalar is always a text. A plain scalar is
resolved by the core schema in this order: the empty text, `~` and `null` (three spellings) are
null; `true` and `false` (three spellings each) are flags; then integers, decimal or with a
`0x`, `0o` or `0b` prefix, first within 64 bits and then within 128 bits; then finite decimal
doubles (and `.inf`, `.nan`, which have no JSON number and become null); anything else is text.

A JSON number holds 64 bits, so an integer that needs more than 64 but at most 128 bits is an
error. Digits with a leading zero (`012`) are text, as the core schema says, and not a double.

A tagged scalar is read by its tag: the core types null, bool, int and float must read it, a
tag of the `!` handle is an error, and any other tag leaves it text.
-/

namespace SearchDsl.Yaml

/-- The value of a character as a digit of a base, if it is one. -/
def digitIn (base : Nat) (c : Char) : Option Nat :=
  let v :=
    if c.isDigit then some (c.toNat - '0'.toNat)
    else if 'a' ≤ c ∧ c ≤ 'z' then some (c.toNat - 'a'.toNat + 10)
    else if 'A' ≤ c ∧ c ≤ 'Z' then some (c.toNat - 'A'.toNat + 10)
    else none
  v.filter (· < base)

def digitsIn (base : Nat) (cs : List Char) : Option Nat :=
  if cs.isEmpty then none
  else cs.foldlM (fun acc c => (digitIn base c).map fun d => acc * base + d) 0

/-- Digits with a leading zero and at least one more digit, after an optional sign: text, not
a number. -/
def leadingZeroDigits (cs : List Char) : Bool :=
  let body := match cs with
    | '-' :: r | '+' :: r => r
    | r => r
  match body with
  | '0' :: rest@(_ :: _) => rest.all Char.isDigit
  | _ => false

def unsignedDigits (base limit : Nat) (cs : List Char) : Option Nat :=
  (digitsIn base cs).filter (· < limit)

/-- A plain scalar read as an unsigned integer below `limit`: an optional `+`, then a `0x`,
`0o` or `0b` prefix and digits of that base, or decimal digits without a leading zero. -/
def unsignedOf? (limit : Nat) (cs : List Char) : Option Nat :=
  let unsigned := match cs with
    | '+' :: r => r
    | r => r
  let signed (r : List Char) : Bool := match r with
    | '+' :: _ | '-' :: _ => true
    | _ => false
  let prefixed (base : Nat) (r : List Char) : Option (Option Nat) :=
    if signed r then some none
    else (unsignedDigits base limit r).map some
  let viaPrefix : Option (Option Nat) := match unsigned with
    | '0' :: 'x' :: r => prefixed 16 r
    | '0' :: 'o' :: r => prefixed 8 r
    | '0' :: 'b' :: r => prefixed 2 r
    | _ => none
  match viaPrefix with
  | some result => result
  | none =>
    if signed unsigned || leadingZeroDigits cs then none
    else unsignedDigits 10 limit unsigned

/-- A plain scalar read as a negative (or signed decimal) integer of magnitude at most
`bound`: `-0x`, `-0o`, `-0b` with digits of that base, or a signed decimal numeral without a
leading zero. -/
def negativeOf? (bound : Nat) (cs : List Char) : Option Int :=
  let negated (base : Nat) (r : List Char) : Option Int :=
    (digitsIn base r).bind fun n => if n ≤ bound then some (-(n : Int)) else none
  let viaPrefix : Option Int := match cs with
    | '-' :: '0' :: 'x' :: r => negated 16 r
    | '-' :: '0' :: 'o' :: r => negated 8 r
    | '-' :: '0' :: 'b' :: r => negated 2 r
    | _ => none
  match viaPrefix with
  | some i => some i
  | none =>
    if leadingZeroDigits cs then none
    else
      match cs with
      | '-' :: r => negated 10 r
      | '+' :: r => (digitsIn 10 r).bind fun n => if n < bound then some n else none
      | r => (digitsIn 10 r).bind fun n => if n < bound then some n else none

/-- A plain scalar read as a double: `.inf`, `-.inf`, `.nan` in three spellings each, or a
decimal numeral with an optional sign whose value is finite. -/
def doubleOf? (cs : List Char) : Option Float :=
  let unsigned? : Option (List Char) := match cs with
    | '+' :: r =>
      match r with
      | '+' :: _ | '-' :: _ => none
      | _ => some r
    | r => some r
  unsigned?.bind fun u =>
    let word := String.ofList u
    if word = ".inf" ∨ word = ".Inf" ∨ word = ".INF" then some (Decimal.infinity false)
    else
      let whole := String.ofList cs
      if whole = "-.inf" ∨ whole = "-.Inf" ∨ whole = "-.INF" then some (Decimal.infinity true)
      else if whole = ".nan" ∨ whole = ".NaN" ∨ whole = ".NAN" then some (0.0 / 0.0)
      else (Decimal.parseFloat? word).filter Float.isFinite

def isNullWord (s : String) : Bool := s.isEmpty || s = "~" || s = "null" || s = "Null" || s = "NULL"

def flagOf? (s : String) : Option Bool :=
  if s = "true" ∨ s = "True" ∨ s = "TRUE" then some true
  else if s = "false" ∨ s = "False" ∨ s = "FALSE" then some false
  else none

def doubleJson (f : Float) : Json := if f.isFinite then .float f else .null

/-- The integer a plain scalar spells: within 64 bits it is a JSON integer; within 128 bits it
has no JSON number and is an error; none when it spells no integer. -/
def integerOf? (cs : List Char) : Option (Except String Json) :=
  match unsignedOf? (Nat.pow 2 64) cs with
  | some n => some (.ok (.int n))
  | none =>
    match negativeOf? (Nat.pow 2 63) cs with
    | some i => some (.ok (.int i))
    | none =>
      if (unsignedOf? (Nat.pow 2 128) cs).isSome || (negativeOf? (Nat.pow 2 127) cs).isSome then
        some (.error "integer out of range")
      else none

/-- The JSON value of a plain scalar. -/
def resolvePlain (s : String) : Except String Json :=
  if isNullWord s then .ok .null
  else
    match flagOf? s with
    | some b => .ok (.bool b)
    | none =>
      let cs := s.toList
      match integerOf? cs with
      | some r => r
      | none =>
        if leadingZeroDigits cs then .ok (.str s)
        else
          match doubleOf? cs with
          | some f => .ok (doubleJson f)
          | none => .ok (.str s)

def coreTagPrefix : String := "tag:yaml.org,2002:"

/-- Whether a tag is of the `!` handle: a local tag (`!name`), which names an application's own
type, or the non-specific tag `!`. Either asks for a type that JSON has not. -/
def isLocalTag (tag : String) : Bool := tag.startsWith "!"

/-- The JSON value of a scalar under a tag written in full. Under the core types null, bool, int
and float the text must spell a value of the type. A tag of the `!` handle names a type JSON has
not and is an error. Under any other tag the scalar is its text. -/
def resolveTagged (tag : String) (s : String) : Except String Json :=
  if tag = coreTagPrefix ++ "null" then
    if s = "~" ∨ s = "null" ∨ s = "Null" ∨ s = "NULL" then .ok .null else .error "not a null"
  else if tag = coreTagPrefix ++ "bool" then
    match flagOf? s with
    | some b => .ok (.bool b)
    | none => .error "not a bool"
  else if tag = coreTagPrefix ++ "int" then
    match integerOf? s.toList with
    | some r => r
    | none => .error "not an integer"
  else if tag = coreTagPrefix ++ "float" then
    match doubleOf? s.toList with
    | some f => .ok (doubleJson f)
    | none => .error "not a float"
  else if isLocalTag tag then .error ("a local tag " ++ tag)
  else .ok (.str s)

end SearchDsl.Yaml
