/-!
JSON values as the library reads and writes them. Integers stay apart from floats, because a
query answer distinguishes `2` from `2.0`; an object keeps its members sorted by key (code point
order, which is also the order of the keys' UTF-8 bytes) with no key twice, so iteration order is
the sorted order that decides which of two faults is reported first.
-/

namespace SearchDsl

/-- A JSON value. `int` holds an integer that was written without fraction or exponent and fits
in 64 bits (signed below zero, unsigned above); every other number is a `float`. -/
inductive Json where
  | null
  | bool (b : Bool)
  | int (i : Int)
  | float (f : Float)
  | str (s : String)
  | arr (items : List Json)
  | obj (members : List (String × Json))
  deriving Inhabited, Repr

namespace Json

/-- The members of an object: pairs sorted by key, each key once. -/
abbrev Members := List (String × Json)

def Members.get? : Members → String → Option Json
  | [], _ => none
  | (k, v) :: rest, key => if k = key then some v else Members.get? rest key

def Members.insert : Members → String → Json → Members
  | [], key, v => [(key, v)]
  | (k, w) :: rest, key, v =>
    if k = key then (key, v) :: rest
    else if key < k then (key, v) :: (k, w) :: rest
    else (k, w) :: Members.insert rest key v

def Members.erase : Members → String → Members
  | [], _ => []
  | (k, w) :: rest, key => if k = key then rest else (k, w) :: Members.erase rest key

def Members.contains (ms : Members) (key : String) : Bool := (ms.get? key).isSome

def Members.ofList (pairs : List (String × Json)) : Members :=
  pairs.foldl (fun acc p => acc.insert p.1 p.2) []

def mkObj (pairs : List (String × Json)) : Json := .obj (Members.ofList pairs)

def members? : Json → Option Members
  | .obj ms => some ms
  | _ => none

def str? : Json → Option String
  | .str s => some s
  | _ => none

def get? (j : Json) (key : String) : Option Json :=
  match j with
  | .obj ms => Members.get? ms key
  | _ => none

def isNull : Json → Bool
  | .null => true
  | _ => false

def isObj : Json → Bool
  | .obj _ => true
  | _ => false

@[simp] theorem Members.get?_nil (key : String) : Members.get? [] key = none := rfl

theorem Members.get?_insert_self (ms : Members) (key : String) (v : Json) :
    (ms.insert key v).get? key = some v := by
  induction ms with
  | nil => simp [Members.insert, Members.get?]
  | cons p rest ih =>
    obtain ⟨k, w⟩ := p
    simp only [Members.insert]
    by_cases h : k = key
    · simp [h, Members.get?]
    · by_cases hl : key < k
      · simp [h, hl, Members.get?]
      · simp [h, hl, Members.get?, ih]

theorem Members.sizeOf_lt_of_get? {ms : Members} {key : String} {v : Json}
    (h : Members.get? ms key = some v) : sizeOf v < sizeOf ms := by
  induction ms with
  | nil => simp at h
  | cons p rest ih =>
    obtain ⟨k, w⟩ := p
    simp only [Members.get?] at h
    split at h
    · cases h
      simp only [List.cons.sizeOf_spec, Prod.mk.sizeOf_spec]
      omega
    · have := ih h
      simp only [List.cons.sizeOf_spec]
      omega

end Json

end SearchDsl
