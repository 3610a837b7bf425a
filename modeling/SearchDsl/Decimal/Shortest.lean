/-!
Shortest decimal digits of a binary double. A finite double `m · 2^e` stands for every real that
rounds to it, an interval whose ends belong to it when `m` is even (ties go to the even
significand). The digits chosen are the fewest that name a point of that interval, and of two
such points on the same decimal grid the nearer to the double; an exact tie keeps the even
digit. Everything is computed in exact `Nat` arithmetic from the bits.
-/

namespace SearchDsl.Decimal

/-- A finite double as sign, significand and binary exponent: `(-1)^neg · mant · 2^exp`. -/
structure Binary where
  neg : Bool
  mant : Nat
  exp : Int
  deriving Repr

/-- The fields of a double's bits; `none` for the infinities and NaN. -/
def Binary.ofFloat? (x : Float) : Option Binary :=
  let b : Nat := x.toBits.toNat
  let neg : Bool := decide (b ≥ Nat.pow 2 63)
  let biased : Nat := (b / Nat.pow 2 52) % 2048
  let frac : Nat := b % Nat.pow 2 52
  if biased = 2047 then none
  else if biased = 0 then some ⟨neg, frac, -1074⟩
  else some ⟨neg, frac + Nat.pow 2 52, (biased : Int) - 1075⟩

/-- A decimal `digits · 10^exp`; `digits` has no trailing zero unless it is zero. -/
structure Sci where
  digits : Nat
  exp : Int
  deriving Repr, DecidableEq

def decLen (n : Nat) : Nat :=
  if n < 10 then 1 else decLen (n / 10) + 1
termination_by n
decreasing_by omega

def cmpScaled (a : Nat) (e : Int) (b : Nat) (s : Int) : Ordering :=
  compare (a * Nat.pow 2 e.toNat * Nat.pow 10 (-s).toNat) (b * Nat.pow 10 s.toNat * Nat.pow 2 (-e).toNat)

def divScaled (a : Nat) (e : Int) (s : Int) : Nat :=
  (a * Nat.pow 2 e.toNat * Nat.pow 10 (-s).toNat) / (Nat.pow 10 s.toNat * Nat.pow 2 (-e).toNat)

/-- `⌊log₁₀ (m · 2^e)⌋` for `m > 0`. -/
def floorLog10 (m : Nat) (e : Int) : Int :=
  if 0 ≤ e then (decLen (m * Nat.pow 2 e.toNat) : Int) - 1
  else
    let d := Nat.pow 2 (-e).toNat
    if d ≤ m then (decLen (m / d) : Int) - 1
    else
      let j := decLen (d / m) - 1
      if d ≤ m * Nat.pow 10 j then -(j : Int) else -((j : Int) + 1)

def Sci.normalize (digits : Nat) (exp : Int) : Sci :=
  if h : digits ≠ 0 ∧ digits % 10 = 0 then Sci.normalize (digits / 10) (exp + 1)
  else ⟨digits, exp⟩
termination_by digits
decreasing_by omega

namespace Binary

/-- Lower end of the rounding interval, in units of `2^(exp-2)`: halfway to the next smaller
double, which lies closer when the significand is the least of its binade. -/
def lowerQuarter (x : Binary) : Nat :=
  if x.mant = Nat.pow 2 52 ∧ x.exp > -1074 then 4 * x.mant - 1 else 4 * x.mant - 2

def upperQuarter (x : Binary) : Nat := 4 * x.mant + 2

def rounds (x : Binary) (n : Nat) (s : Int) : Bool :=
  let incl := x.mant % 2 == 0
  let above := cmpScaled x.lowerQuarter (x.exp - 2) n s
  let below := cmpScaled x.upperQuarter (x.exp - 2) n s
  (above == .lt || (incl && above == .eq)) && (below == .gt || (incl && below == .eq))

/-- The grid point `n · 10^s` chosen with `k` significant digits, if one rounds to the double:
of the two neighbours of the double on that grid, the one inside the interval, the nearer one
if both are, the even one on an exact tie. -/
def candidate (x : Binary) (top : Int) (k : Nat) : Option Sci :=
  let s := top - k + 1
  let lo := divScaled x.mant x.exp s
  let inLo := x.rounds lo s
  let inHi := x.rounds (lo + 1) s
  if inLo && inHi then
    match cmpScaled (2 * x.mant) x.exp (2 * lo + 1) s with
    | .lt => some ⟨lo, s⟩
    | .gt => some ⟨lo + 1, s⟩
    | .eq => some (if lo % 2 = 0 then ⟨lo, s⟩ else ⟨lo + 1, s⟩)
  else if inLo then some ⟨lo, s⟩
  else if inHi then some ⟨lo + 1, s⟩
  else none

/-- The fewest decimal digits that round to the double, for a nonzero significand. Seventeen
digits always suffice; the last grid is kept as a fallback that is never reached. -/
def shortest (x : Binary) : Sci :=
  let top := floorLog10 x.mant x.exp
  let found := (List.range 17).findSome? fun i => x.candidate top (i + 1)
  let raw := found.getD ⟨divScaled x.mant x.exp (top - 16), top - 16⟩
  Sci.normalize raw.digits raw.exp

end Binary

end SearchDsl.Decimal
