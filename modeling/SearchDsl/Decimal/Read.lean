import SearchDsl.Decimal.Shortest
/-!
Reading decimal numerals into doubles and integers. `toFloat` rounds `n · 10^k` to the nearest
double, ties to the even significand, overflowing to an infinity; it works in exact `Nat`
arithmetic and builds the result from its bits. The numeral grammars are those of parameter
text: an optional sign, digits with an optional point and exponent, or the words `inf`,
`infinity` and `nan` in any case; integers take an optional sign and ASCII digits only.
-/

namespace SearchDsl.Decimal

def floatOfFields (neg : Bool) (biased frac : Nat) : Float :=
  Float.ofBits (UInt64.ofNat ((if neg then Nat.pow 2 63 else 0) + biased * Nat.pow 2 52 + frac))

def infinity (neg : Bool) : Float := floatOfFields neg 2047 0

/-- `num / den` rounded to a 53-bit significand `q` at scale `2^(-t)`: the quotient of
`num · 2^t` by `den`, rounded half to even. -/
def roundQuotient (num den : Nat) (t : Int) : Nat :=
  let a := num * Nat.pow 2 t.toNat
  let b := den * Nat.pow 2 (-t).toNat
  let q := a / b
  let r := a % b
  if 2 * r > b ∨ (2 * r = b ∧ q % 2 = 1) then q + 1 else q

/-- The double nearest to `num / den` for `num, den > 0`. -/
def nearestOfRatio (neg : Bool) (num den : Nat) : Float :=
  let t0 : Int := 52 - ((Nat.log2 num : Int) - Nat.log2 den)
  -- the truncated quotient at `t0` lies in `[2^51, 2^53)`; one more bit brings it above `2^52`
  let t := if (num * Nat.pow 2 t0.toNat) / (den * Nat.pow 2 (-t0).toNat) < Nat.pow 2 52 then t0 + 1 else t0
  if 52 - t > 1023 then infinity neg
  else if 52 - t < -1022 then
    -- below the normal range the scale is fixed and the significand has fewer bits
    floatOfFields neg 0 (roundQuotient num den 1074)
  else
    let q := roundQuotient num den t
    let (q, t) := if q = Nat.pow 2 53 then (Nat.pow 2 52, t - 1) else (q, t)
    if 52 - t > 1023 then infinity neg
    else floatOfFields neg (52 - t + 1023).toNat (q - Nat.pow 2 52)

/-- The double nearest to `(-1)^neg · n · 10^k`. Exponents far outside the range of doubles are
settled before any power is formed. -/
def toFloat (neg : Bool) (n : Nat) (k : Int) : Float :=
  if n = 0 then floatOfFields neg 0 0
  else
    let size := k + decLen n
    if size > 310 then infinity neg
    else if size < -330 then floatOfFields neg 0 0
    else nearestOfRatio neg (n * Nat.pow 10 k.toNat) (Nat.pow 10 (-k).toNat)

def digitsValue (ds : List Char) : Nat :=
  ds.foldl (fun acc c => 10 * acc + (c.toNat - '0'.toNat)) 0

def spanDigits (cs : List Char) : List Char × List Char :=
  (cs.takeWhile Char.isDigit, cs.dropWhile Char.isDigit)

def splitSign : List Char → Bool × Bool × List Char
  | '-' :: rest => (true, true, rest)
  | '+' :: rest => (true, false, rest)
  | cs => (false, false, cs)

def parseInt? (s : String) : Option Int :=
  let (_, neg, rest) := splitSign s.toList
  if rest.isEmpty || !rest.all Char.isDigit then none
  else
    let v := digitsValue rest
    some (if neg then -(v : Int) else v)

def parseI64? (s : String) : Option Int :=
  (parseInt? s).filter fun i => -(Nat.pow 2 63 : Int) ≤ i ∧ i < Nat.pow 2 63

/-- A numeral of an unsigned 32-bit integer: an optional `+`, then ASCII digits. -/
def parseU32? (s : String) : Option Nat :=
  let cs := match s.toList with
    | '+' :: rest => rest
    | cs => cs
  if cs.isEmpty || !cs.all Char.isDigit then none
  else
    let v := digitsValue cs
    if v < Nat.pow 2 32 then some v else none

def asciiLower (s : String) : String := String.map Char.toLower s

/-- The mantissa and exponent of an unsigned decimal numeral: `digits [. digits] [e [sign]
digits]`, with at least one digit before or after the point. -/
def parseUnsignedDecimal? (cs : List Char) : Option (Nat × Int) :=
  let (whole, rest) := spanDigits cs
  let (frac, rest) := match rest with
    | '.' :: r => spanDigits r
    | r => ([], r)
  if whole.isEmpty && frac.isEmpty then none
  else
    let expo : Option Int := match rest with
      | [] => some 0
      | c :: r =>
        if c = 'e' ∨ c = 'E' then
          let (_, eneg, edigits) := splitSign r
          if edigits.isEmpty || !edigits.all Char.isDigit then none
          else
            let v := digitsValue edigits
            some (if eneg then -(v : Int) else v)
        else none
    expo.map fun e => (digitsValue (whole ++ frac), e - frac.length)

/-- A double numeral of parameter text: an optional sign, then `inf`, `infinity`, `nan` in any
case, or a decimal numeral; the value is rounded to the nearest double. -/
def parseFloat? (s : String) : Option Float :=
  let (_, neg, rest) := splitSign s.toList
  let word := asciiLower (String.ofList rest)
  if word = "inf" ∨ word = "infinity" then some (infinity neg)
  else if word = "nan" then some (0.0 / 0.0)
  else (parseUnsignedDecimal? rest).map fun (n, k) => toFloat neg n k

end SearchDsl.Decimal
