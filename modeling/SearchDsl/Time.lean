import SearchDsl.Decimal.Read
/-!
Instants on the UTC time line, read from RFC 3339 text and written back in UTC. An instant is a
count of seconds from 1970-01-01T00:00:00 on the proleptic Gregorian calendar, leap seconds not
counted, and the nanoseconds into that second; a leap second is the second before it with
`10^9` more nanoseconds, so that it prints as `:60`. Calendar days convert to and from day
numbers by the era arithmetic of 400-year cycles (146097 days each).
-/

namespace SearchDsl

/-- A point in time in UTC; `nanos` is at least `10^9` only inside a leap second. -/
structure Instant where
  seconds : Int
  nanos : Nat
  deriving DecidableEq, Repr, Inhabited

namespace Instant

/-- The day number (days since 1970-01-01) of a calendar date. -/
def dayOfDate (y : Int) (m d : Nat) : Int :=
  let y' : Int := if m ≤ 2 then y - 1 else y
  let era := y' / 400
  let yoe := y' - era * 400
  let mp : Int := if m > 2 then (m : Int) - 3 else (m : Int) + 9
  let doy := (153 * mp + 2) / 5 + d - 1
  let doe := yoe * 365 + yoe / 4 - yoe / 100 + doy
  era * 146097 + doe - 719468

/-- The calendar date (year, month, day) of a day number. -/
def dateOfDay (days : Int) : Int × Nat × Nat :=
  let z := days + 719468
  let era := z / 146097
  let doe := z - era * 146097
  let yoe := (doe - doe / 1460 + doe / 36524 - doe / 146096) / 365
  let doy := doe - (365 * yoe + yoe / 4 - yoe / 100)
  let mp := (5 * doy + 2) / 153
  let d := doy - (153 * mp + 2) / 5 + 1
  let m := if mp < 10 then mp + 3 else mp - 9
  let y := yoe + era * 400
  ((if m ≤ 2 then y + 1 else y), m.toNat, d.toNat)

def isLeapYear (y : Nat) : Bool := y % 4 = 0 && (y % 100 ≠ 0 || y % 400 = 0)

def monthLength (y m : Nat) : Nat :=
  if m = 2 then (if isLeapYear y then 29 else 28)
  else if m = 4 ∨ m = 6 ∨ m = 9 ∨ m = 11 then 30 else 31

def padded (n width : Nat) : String :=
  let s := toString n
  String.ofList (List.replicate (width - s.length) '0') ++ s

def yearText (y : Int) : String :=
  if 0 ≤ y ∧ y ≤ 9999 then padded y.toNat 4
  else (if y < 0 then "-" else "+") ++ padded y.natAbs 4

def fractionText (nanos : Nat) : String :=
  if nanos = 0 then ""
  else if nanos % 1000000 = 0 then "." ++ padded (nanos / 1000000) 3
  else if nanos % 1000 = 0 then "." ++ padded (nanos / 1000) 6
  else "." ++ padded nanos 9

/-- The RFC 3339 text of an instant in UTC, ending in `Z`. -/
def render (t : Instant) : String :=
  let days := t.seconds / 86400
  let secs := (t.seconds % 86400).toNat
  let (y, m, d) := dateOfDay days
  let leap := decide (t.nanos ≥ 1000000000)
  let second := secs % 60 + (if leap then 1 else 0)
  let nanos := if leap then t.nanos - 1000000000 else t.nanos
  yearText y ++ "-" ++ padded m 2 ++ "-" ++ padded d 2 ++ "T" ++ padded (secs / 3600) 2 ++ ":" ++
    padded (secs / 60 % 60) 2 ++ ":" ++ padded second 2 ++ fractionText nanos ++ "Z"

def digits (n : Nat) (cs : List Char) : Option (Nat × List Char) :=
  let ds := cs.take n
  if ds.length = n ∧ ds.all Char.isDigit then some (Decimal.digitsValue ds, cs.drop n) else none

def expect (c : Char) : List Char → Option (List Char)
  | d :: rest => if c = d then some rest else none
  | [] => none

def fractionNanos (ds : List Char) : Nat :=
  let nine := ds.take 9
  Decimal.digitsValue nine * Nat.pow 10 (9 - nine.length)

def readFraction : List Char → Option (Nat × List Char)
  | '.' :: rest =>
    let ds := rest.takeWhile Char.isDigit
    if ds.isEmpty then none else some (fractionNanos ds, rest.drop ds.length)
  | cs => some (0, cs)

/-- The offset east of UTC in seconds: `Z`, or a sign, hours and minutes. The sign is `+`, or
`-` or the minus sign (U+2212). -/
def readOffset : List Char → Option Int
  | ['Z'] | ['z'] => some 0
  | sign :: rest => do
    let neg ← if sign = '+' then some false
      else if sign = '-' || sign = '\u2212' then some true else none
    let (h, rest) ← digits 2 rest
    let rest ← expect ':' rest
    let (m, rest) ← digits 2 rest
    if rest.isEmpty ∧ h ≤ 23 ∧ m ≤ 59 then
      let s : Int := h * 3600 + m * 60
      some (if neg then -s else s)
    else none
  | [] => none

/-- The instant an RFC 3339 date-time names: date, `T`, time with optional fraction, then `Z` or
an offset. A second of 60 is a leap second; the date must exist in its month. -/
def parse? (s : String) : Option Instant := do
  let cs := s.toList
  let (y, cs) ← digits 4 cs
  let cs ← expect '-' cs
  let (mo, cs) ← digits 2 cs
  let cs ← expect '-' cs
  let (d, cs) ← digits 2 cs
  let cs ← match cs with
    | c :: rest => if c = 'T' ∨ c = 't' ∨ c = ' ' then some rest else none
    | [] => none
  let (h, cs) ← digits 2 cs
  let cs ← expect ':' cs
  let (mi, cs) ← digits 2 cs
  let cs ← expect ':' cs
  let (sec, cs) ← digits 2 cs
  let (frac, cs) ← readFraction cs
  let offset ← readOffset cs
  if 1 ≤ mo ∧ mo ≤ 12 ∧ 1 ≤ d ∧ d ≤ monthLength y mo ∧ h ≤ 23 ∧ mi ≤ 59 ∧ sec ≤ 60 then
    let leap := decide (sec = 60)
    let wall : Int := dayOfDate y mo d * 86400 + h * 3600 + mi * 60 + (if leap then 59 else sec)
    some ⟨wall - offset, frac + (if leap then 1000000000 else 0)⟩
  else none

end Instant

end SearchDsl
