import SearchDsl.Decimal.Shortest
/-!
Text of a double from its shortest digits. A `Layout` holds the decisions of one format: which
decimal exponents are written positionally, whether an integral value keeps `.0`, and how the
exponent is marked. JSON numbers use `Layout.json`; parameter text uses `Layout.plain`, which
never writes an exponent.
-/

namespace SearchDsl.Decimal

/-- The decisions of one number format. -/
structure Layout where
  positional : Option (Int × Int)
  pointZero : Bool
  nan : String
  inf : String
  negInf : String

/-- JSON numbers: positional from `1e-5` up to `1e16` with `.0` on integral values, and
scientific beyond with the sign of the exponent always written (`1e+16`, `1.5e+300`, `1e-7`), as
the error contexts echo them. Non-finite values have no JSON number and are written `null`. -/
def Layout.json : Layout := ⟨some (-5, 16), true, "null", "null", "null"⟩

/-- Parameter text: always positional, an integral value without fraction (`1`, `-0`). -/
def Layout.plain : Layout := ⟨none, false, "NaN", "inf", "-inf"⟩

def zeros (n : Nat) : String := String.ofList (List.replicate n '0')

def natDigits (n : Nat) : String := toString n

/-- Positional text of `digits · 10^p` where the first digit has weight `10^p`. -/
def positionalText (ds : String) (p : Int) (pointZero : Bool) : String :=
  let n := ds.length
  if p < 0 then "0." ++ zeros ((-p).toNat - 1) ++ ds
  else
    let whole := p.toNat + 1
    if n ≤ whole then ds ++ zeros (whole - n) ++ (if pointZero then ".0" else "")
    else String.ofList (ds.toList.take whole) ++ "." ++ String.ofList (ds.toList.drop whole)

/-- Scientific text `d.ddde±x` of `digits · 10^p` where the first digit has weight `10^p`; the
sign is written also for a nonnegative exponent. -/
def scientificText (ds : String) (p : Int) : String :=
  let cs := ds.toList
  let mant := match cs with
    | [] => "0"
    | [c] => String.singleton c
    | c :: rest => String.singleton c ++ "." ++ String.ofList rest
  mant ++ "e" ++ (if p < 0 then "-" else "+") ++ natDigits p.natAbs

def Layout.magnitude (l : Layout) (x : Sci) : String :=
  let ds := natDigits x.digits
  let p := x.exp + ds.length - 1
  match l.positional with
  | none => positionalText ds p l.pointZero
  | some (lo, hi) => if lo ≤ p ∧ p < hi then positionalText ds p l.pointZero else scientificText ds p

/-- The text of a double in a layout. -/
def Layout.render (l : Layout) (x : Float) : String :=
  match Binary.ofFloat? x with
  | none => if x.isNaN then l.nan else if x > 0 then l.inf else l.negInf
  | some b =>
    let sign := if b.neg then "-" else ""
    if b.mant = 0 then sign ++ (if l.pointZero then "0.0" else "0")
    else sign ++ l.magnitude b.shortest

def jsonText (x : Float) : String := Layout.json.render x

def plainText (x : Float) : String := Layout.plain.render x

end SearchDsl.Decimal
