import SearchDsl.Json.Basic
import SearchDsl.Decimal.Read
/-!
Reading JSON text. The grammar is RFC 8259's: blanks are space, tab, line feed and carriage
return; a number is `-? (0 | [1-9][0-9]*) (. [0-9]+)? ([eE] [+-]? [0-9]+)?`; a string holds no
raw control character, and a `\u` escape of a surrogate must pair a high half with a low half.
A number without fraction or exponent is an integer when it fits in 64 bits. Any other number
is a double computed from its first digits that fit a 64-bit significand and its power of ten,
by one rounding of the significand and one multiplication or division; this is not always the
double nearest the text (`3.4028234663852886e38` reads as `3.402823466385289e38`). A number
whose double overflows is refused. Of two members with one key the later is kept. Arrays and
objects nest at most 127 deep.
-/

namespace SearchDsl.Json

def isBlank (c : Char) : Bool := c = ' ' || c = '\t' || c = '\n' || c = '\r'

def skipBlanks : List Char → List Char
  | [] => []
  | c :: rest => if isBlank c then skipBlanks rest else c :: rest

def hexValue? (c : Char) : Option Nat :=
  if '0' ≤ c ∧ c ≤ '9' then some (c.toNat - '0'.toNat)
  else if 'a' ≤ c ∧ c ≤ 'f' then some (c.toNat - 'a'.toNat + 10)
  else if 'A' ≤ c ∧ c ≤ 'F' then some (c.toNat - 'A'.toNat + 10)
  else none

def hex4? (a b c d : Char) : Option Nat := do
  let a ← hexValue? a
  let b ← hexValue? b
  let c ← hexValue? c
  let d ← hexValue? d
  pure (((a * 16 + b) * 16 + c) * 16 + d)

def simpleEscape? : Char → Option Char
  | '"' => some '"'
  | '\\' => some '\\'
  | '/' => some '/'
  | 'b' => some (Char.ofNat 8)
  | 'f' => some (Char.ofNat 12)
  | 'n' => some '\n'
  | 'r' => some '\r'
  | 't' => some '\t'
  | _ => none

/-- The rest of a string literal after its opening quote: its text, and what follows the
closing quote. `acc` holds the characters read so far, last first. -/
def readStringBody : List Char → List Char → Option (String × List Char)
  | [], _ => none
  | '"' :: rest, acc => some (String.ofList acc.reverse, rest)
  | '\\' :: 'u' :: a :: b :: c :: d :: rest, acc =>
    match hex4? a b c d with
    | none => none
    | some hi =>
      if 0xD800 ≤ hi ∧ hi < 0xDC00 then
        match rest with
        | '\\' :: 'u' :: e :: f :: g :: h :: rest' =>
          match hex4? e f g h with
          | some lo =>
            if 0xDC00 ≤ lo ∧ lo < 0xE000 then
              readStringBody rest' (Char.ofNat (0x10000 + (hi - 0xD800) * 0x400 + (lo - 0xDC00)) :: acc)
            else none
          | none => none
        | _ => none
      else if 0xDC00 ≤ hi ∧ hi < 0xE000 then none
      else readStringBody rest (Char.ofNat hi :: acc)
  | '\\' :: e :: rest, acc =>
    match simpleEscape? e with
    | some c => readStringBody rest (c :: acc)
    | none => none
  | c :: rest, acc => if c.toNat < 0x20 || c = '\\' then none else readStringBody rest (c :: acc)

def maxSignificand : Nat := Nat.pow 2 64 - 1

def maxExponent : Nat := Nat.pow 2 31 - 1

/-- Digits before the point. Each joins the significand while it fits in 64 bits; from the
first that does not, each only raises the exponent. Returns the significand, the exponent,
whether digits were dropped, and the rest of the text. -/
def wholeDigits : List Char → Nat → Int → Bool → Nat × Int × Bool × List Char
  | c :: rest, s, e, long =>
    if c.isDigit then
      let d := c.toNat - '0'.toNat
      if long || s * 10 + d > maxSignificand then wholeDigits rest s (e + 1) true
      else wholeDigits rest (s * 10 + d) e false
    else (s, e, long, c :: rest)
  | [], s, e, long => (s, e, long, [])

/-- Digits after the point. Each joins the significand and lowers the exponent while it fits;
from the first that does not, the rest are dropped. Returns the significand, the exponent, the
number of digits seen, and the rest of the text. -/
def fractionDigits : List Char → Nat → Int → Bool → Nat → Nat × Int × Nat × List Char
  | c :: rest, s, e, full, n =>
    if c.isDigit then
      let d := c.toNat - '0'.toNat
      if full || s * 10 + d > maxSignificand then fractionDigits rest s e true (n + 1)
      else fractionDigits rest (s * 10 + d) (e - 1) false (n + 1)
    else (s, e, n, c :: rest)
  | [], s, e, _, n => (s, e, n, [])

/-- The digits of an exponent, while they fit in 31 bits: the value, whether it overflowed, and
the rest of the text after all its digits. -/
def exponentDigits : List Char → Nat → Option Nat × List Char
  | c :: rest, v =>
    if c.isDigit then
      let d := c.toNat - '0'.toNat
      if v * 10 + d > maxExponent then (none, (c :: rest).dropWhile Char.isDigit)
      else exponentDigits rest (v * 10 + d)
    else (some v, c :: rest)
  | [], v => (some v, [])

/-- The double of a significand scaled by a power of ten, the way the reader computes it: the
significand rounded to a double, then one multiplication or division by the double nearest the
power; a power beyond 10^308 divides by 10^308 first, until the value is zero or the power is in
reach. A product that overflows is refused. -/
def scaled (f : Float) (e : Int) : Option Float :=
  if e.natAbs ≤ 308 then
    if 0 ≤ e then
      let g := f * Decimal.toFloat false 1 e
      if g.isInf then none else some g
    else some (f / Decimal.toFloat false 1 e.natAbs)
  else if f == 0 then some f
  else if 0 ≤ e then none
  else scaled (f / Decimal.toFloat false 1 308) (e + 308)
termination_by e.natAbs
decreasing_by omega

def floatOfParts (neg : Bool) (s : Nat) (e : Int) : Option Float :=
  (scaled (Decimal.toFloat false s 0) e).map fun f => if neg then -f else f

/-- An exponent part: `e` or `E`, an optional sign and digits. An exponent too large for 31 bits
makes the number zero when it is negative or the significand is zero, and is refused otherwise. -/
def readExponent (neg : Bool) (s : Nat) (e : Int) (cs : List Char) : Option (Json × List Char) :=
  let (eneg, cs) := match cs with
    | '-' :: r => (true, r)
    | '+' :: r => (false, r)
    | r => (false, r)
  match cs with
  | c :: _ =>
    if c.isDigit then
      match exponentDigits cs 0 with
      | (some v, rest) =>
        let total := if eneg then e - v else e + v
        let total := max (-(Nat.pow 2 31 : Int)) (min total (Nat.pow 2 31 - 1))
        (floatOfParts neg s total).map fun f => (.float f, rest)
      | (none, rest) =>
        if s ≠ 0 ∧ !eneg then none else some (.float (if neg then -0.0 else 0.0), rest)
    else none
  | [] => none

/-- A JSON number at the head of the text, and what follows it. An integer is kept exactly when
it fits in 64 bits (signed when negative, unsigned otherwise); `-0` and every other number are
doubles. -/
def readNumber (cs : List Char) : Option (Json × List Char) :=
  let (neg, cs) := match cs with
    | '-' :: rest => (true, rest)
    | rest => (false, rest)
  let whole : Option (Nat × Int × Bool × List Char) := match cs with
    | '0' :: rest => if (rest.head?.map Char.isDigit).getD false then none else some (0, 0, false, rest)
    | c :: rest => if c.isDigit then some (wholeDigits (c :: rest) 0 0 false) else none
    | [] => none
  match whole with
  | none => none
  | some (s, e, long, rest) =>
    match rest with
    | '.' :: r =>
      match fractionDigits r s e false 0 with
      | (_, _, 0, _) => none
      | (s, e, _, c :: r') =>
        if c = 'e' ∨ c = 'E' then readExponent neg s e r'
        else (floatOfParts neg s e).map fun f => (.float f, c :: r')
      | (s, e, _, []) => (floatOfParts neg s e).map fun f => (.float f, [])
    | c :: r =>
      if c = 'e' ∨ c = 'E' then readExponent neg s e r
      else if long then (floatOfParts neg s e).map fun f => (.float f, c :: r)
      else some (integerOf neg s, c :: r)
    | [] =>
      if long then (floatOfParts neg s e).map fun f => (.float f, [])
      else some (integerOf neg s, [])
where
  integerOf (neg : Bool) (s : Nat) : Json :=
    if !neg then .int s
    else if 0 < s ∧ s ≤ Nat.pow 2 63 then .int (-(s : Int))
    else .float (-(Decimal.toFloat false s 0))

/-- Items of an array after its first item would start, each read by `item`; `fuel` bounds the
number of items, and a text of `n` characters holds fewer than `n`. -/
def readItems (item : List Char → Option (Json × List Char)) :
    Nat → List Char → List Json → Option (List Json × List Char)
  | 0, _, _ => none
  | fuel + 1, cs, acc =>
    match item cs with
    | none => none
    | some (v, r) =>
      match skipBlanks r with
      | ',' :: r' => readItems item fuel r' (v :: acc)
      | ']' :: r' => some ((v :: acc).reverse, r')
      | _ => none

/-- Members of an object after its opening brace, each value read by `item`. -/
def readMembers (item : List Char → Option (Json × List Char)) :
    Nat → List Char → Members → Option (Members × List Char)
  | 0, _, _ => none
  | fuel + 1, cs, acc =>
    match skipBlanks cs with
    | '"' :: r =>
      match readStringBody r [] with
      | none => none
      | some (key, r) =>
        match skipBlanks r with
        | ':' :: r =>
          match item r with
          | none => none
          | some (v, r) =>
            match skipBlanks r with
            | ',' :: r' => readMembers item fuel r' (acc.insert key v)
            | '}' :: r' => some (acc.insert key v, r')
            | _ => none
        | _ => none
    | _ => none

/-- A JSON value at the head of the text, with `depth` levels of nesting still allowed. -/
def readValue : Nat → List Char → Option (Json × List Char)
  | 0, _ => none
  | d + 1, cs =>
    match skipBlanks cs with
    | 'n' :: 'u' :: 'l' :: 'l' :: r => some (.null, r)
    | 't' :: 'r' :: 'u' :: 'e' :: r => some (.bool true, r)
    | 'f' :: 'a' :: 'l' :: 's' :: 'e' :: r => some (.bool false, r)
    | '"' :: r => (readStringBody r []).map fun (s, r') => (.str s, r')
    | '[' :: r =>
      if d = 0 then none
      else
        match skipBlanks r with
        | ']' :: r' => some (.arr [], r')
        | r' => (readItems (readValue d) r'.length r' []).map fun (items, r'') => (.arr items, r'')
    | '{' :: r =>
      if d = 0 then none
      else
        match skipBlanks r with
        | '}' :: r' => some (.obj [], r')
        | r' => (readMembers (readValue d) r'.length r' []).map fun (ms, r'') => (.obj ms, r'')
    | cs' => readNumber cs'

def maxDepth : Nat := 128

/-- The JSON value of a whole text, `none` when the text is not JSON. -/
def parse (s : String) : Option Json :=
  match readValue maxDepth s.toList with
  | some (v, rest) => if (skipBlanks rest).isEmpty then some v else none
  | none => none

end SearchDsl.Json
