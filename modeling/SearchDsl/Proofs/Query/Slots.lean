import SearchDsl.Query.Shape
import SearchDsl.Proofs.Param.Reread
/-!
Slots read back from written bodies. A body is written as an object of its own members followed
by its parameter members; the readers look each slot up by key. Since no own key names a
parameter, a lookup of an own key sees only the own members and a lookup of a parameter key
sees only the parameter members. Each slot reader then gives back what the writer put there:
texts, scalars, names, flags, integers of 64 bits and finite floats.
-/
set_option autoImplicit false

namespace SearchDsl

namespace Json.Members

theorem get?_around_params (a b : List (String × Json)) (ps : Params) (L : List Param)
    {k : String} (h : ∀ p ∈ L, p.key ≠ k) :
    (ofList (a ++ ps.members L ++ b)).get? k = (ofList (a ++ b)).get? k := by
  rw [get?_ofList_append, get?_ofList_append, Params.get?_members_eq_none ps L h, Option.none_or,
    get?_ofList_append a b]

theorem get?_own_params (own : List (String × Json)) (ps : Params) (L : List Param) {k : String}
    (h : ∀ p ∈ L, p.key ≠ k) :
    (ofList (own ++ ps.members L)).get? k = (ofList own).get? k := by
  simpa using get?_around_params own [] ps L h

theorem get?_own_params_of_ofKey? (own : List (String × Json)) (ps : Params) (L : List Param)
    {k : String} (hk : Param.ofKey? k = none) :
    (ofList (own ++ ps.members L)).get? k = (ofList own).get? k :=
  get?_own_params own ps L fun p _ => Param.key_ne_of_ofKey? hk p

theorem get?_params_around (a b : List (String × Json)) (ps : Params) (L : List Param) {p : Param}
    (hp : p ∈ L) (h : ∀ m ∈ a ++ b, m.1 ≠ p.key) :
    (ofList (a ++ ps.members L ++ b)).get? p.key = (ps.get? p).map Setting.toJson := by
  rw [get?_ofList_append_of_not_mem fun m hm => h m (List.mem_append_right a hm),
    get?_ofList_append, Params.get?_members_key, if_pos hp,
    get?_ofList_eq_none fun m hm => h m (List.mem_append_left b hm)]
  cases ps.get? p <;> rfl

@[simp] theorem get?_ofList_nonEmpty (k key s : String) :
    (ofList (Shape.nonEmpty k s)).get? key = if k = key ∧ s ≠ "" then some (.str s) else none := by
  unfold Shape.nonEmpty
  by_cases hs : s = "" <;> simp [hs]

@[simp] theorem get?_ofList_opt (k key : String) (v : Option Json) :
    (ofList (Shape.opt k v)).get? key = if k = key then v else none := by
  cases v <;> simp [Shape.opt]

@[simp] theorem get?_ofList_ite (c : Prop) [Decidable c] (a b : List (String × Json)) (key : String) :
    (ofList (if c then a else b)).get? key = if c then (ofList a).get? key else (ofList b).get? key := by
  split <;> rfl

end Json.Members

theorem own_ne_key {own : List (String × Json)} (keys : List String)
    (h : ∀ m ∈ own, m.1 ∈ keys) (hk : ∀ k ∈ keys, Param.ofKey? k = none) (L : List Param) :
    ∀ m ∈ own, ∀ p ∈ L, m.1 ≠ p.key := fun m hm p _ heq =>
  Param.key_ne_of_ofKey? (hk m.1 (h m hm)) p heq.symm

theorem mem_nonEmpty {k s : String} {m : String × Json} (h : m ∈ Shape.nonEmpty k s) : m.1 = k := by
  unfold Shape.nonEmpty at h
  split at h <;> simp_all

theorem mem_opt {k : String} {v : Option Json} {m : String × Json} (h : m ∈ Shape.opt k v) :
    m.1 = k := by
  cases v <;> simp_all [Shape.opt]

namespace Params

theorem ofMembers_around {L : List Param} {ps : Params} (owner : Option QueryKind)
    (a b : List (String × Json)) (hc : Canonical L ps) (h : ∀ m ∈ a ++ b, ∀ p ∈ L, m.1 ≠ p.key) :
    ofMembers L owner (Json.Members.ofList (a ++ ps.members L ++ b)) = .ok ps :=
  ofMembers_of_get? hc fun p hp => Json.Members.get?_params_around a b ps L hp fun m hm => h m hm p hp

theorem ofMembers_own_params {L : List Param} {ps : Params} (owner : Option QueryKind)
    (own : List (String × Json)) (hc : Canonical L ps) (h : ∀ m ∈ own, ∀ p ∈ L, m.1 ≠ p.key) :
    ofMembers L owner (Json.Members.ofList (own ++ ps.members L)) = .ok ps := by
  simpa using ofMembers_around owner own [] hc (by simpa using h)

theorem ofMembers_params_own {L : List Param} {ps : Params} (owner : Option QueryKind)
    (own : List (String × Json)) (hc : Canonical L ps) (h : ∀ m ∈ own, ∀ p ∈ L, m.1 ≠ p.key) :
    ofMembers L owner (Json.Members.ofList (ps.members L ++ own)) = .ok ps := by
  simpa using ofMembers_around owner [] own hc (by simpa using h)

end Params

theorem ne_key_of_ofKey? {k : String} (h : Param.ofKey? k = none) (p : Param) : k ≠ p.key :=
  fun hk => Param.key_ne_of_ofKey? h p hk.symm

namespace Shape

variable {ms : Json.Members} {k : String}

theorem fieldKeyed_wrapField (field : String) (inner : List (String × Json))
    (shortcut : Option String) :
    fieldKeyed (wrapField field inner) shortcut = .ok (some (field, Json.Members.ofList inner)) :=
  rfl

theorem flat_mkObj (inner : List (String × Json)) :
    flat (Json.mkObj inner) = .ok (some (Json.Members.ofList inner)) := rfl

theorem text?_of_get?_none (h : ms.get? k = none) : text? ms k = .ok none := by
  simp [text?, h]

theorem text?_of_get?_str {s : String} (h : ms.get? k = some (.str s)) : text? ms k = .ok (some s) := by
  simp [text?, h]

theorem text_of_get? {s : String} (h : ms.get? k = if s.isEmpty then none else some (.str s)) :
    text ms k = .ok s := by
  unfold text
  split at h
  · rename_i hs
    rw [text?_of_get?_none h]
    simp [String.isEmpty_iff.mp hs]
  · rw [text?_of_get?_str h]
    rfl

theorem scalar?_of_get?_none (h : ms.get? k = none) : scalar? ms k = .ok none := by
  simp [scalar?, h]

theorem scalar?_of_get? {s : Scalar} (h : ms.get? k = some s.toJson)
    (hs : Scalar.ofJson? s.toJson = some s) : scalar? ms k = .ok (some s) := by
  unfold scalar?
  split
  · rename_i hnone
    rw [h] at hnone
    cases hnone
  · rename_i hnull
    rw [h, Option.some.injEq] at hnull
    rw [hnull] at hs
    cases hs
  · rename_i v _ hv
    rw [h, Option.some.injEq] at hv
    rw [← hv, hs]

theorem ofJson?_of_scalar? {s : Scalar} (h : scalar? ms k = .ok (some s)) :
    Scalar.ofJson? s.toJson = some s := by
  unfold scalar? at h
  split at h
  · cases h
  · cases h
  · split at h
    · rename_i hj
      cases h
      exact Scalar.ofJson?_toJson hj
    · cases h

theorem names_of_get? {xs : List String} (h : ms.get? k = some (namesJson xs)) :
    names ms k = .ok xs := by
  simp [names, h, namesOfJson?_namesJson]

theorem names_of_get?_none (h : ms.get? k = none) : names ms k = .ok [] := by
  simp [names, h]

theorem names_of_get?_ite {xs : List String}
    (h : ms.get? k = if xs.isEmpty then none else some (namesJson xs)) : names ms k = .ok xs := by
  split at h
  · rename_i hx
    rw [names_of_get?_none h, List.isEmpty_iff.mp hx]
  · exact names_of_get? h

theorem scalar?_of_get?_map {x : Option Scalar} (h : ms.get? k = x.map Scalar.toJson)
    (hx : ∀ s, x = some s → Scalar.ofJson? s.toJson = some s) : scalar? ms k = .ok x := by
  cases x with
  | none => exact scalar?_of_get?_none h
  | some s => exact scalar?_of_get? h (hx s rfl)

theorem flag?_of_get? {b : Bool} (h : ms.get? k = some (.bool b)) : flag? ms k = .ok (some b) := by
  simp [flag?, h]

theorem flag?_of_get?_none (h : ms.get? k = none) : flag? ms k = .ok none := by
  simp [flag?, h]

theorem looseSlot?_eq_some {α : Type} {f : Loose → Option α} {a : α}
    (h : looseSlot? f ms k = .ok (some a)) : ∃ l, l.WellFormed ∧ f l = some a := by
  unfold looseSlot? at h
  split at h
  · cases h
  · cases h
  · split at h
    · rename_i l hl
      split at h
      · rename_i hf
        cases h
        exact ⟨l, Loose.ofJson_wellFormed hl, hf⟩
      · cases h
    · cases h

theorem looseSlot?_of_get?_none {α : Type} (f : Loose → Option α) (h : ms.get? k = none) :
    looseSlot? f ms k = .ok none := by
  simp [looseSlot?, h]

theorem int?_fits {n : Int} (h : int? ms k = .ok (some n)) : Loose.fitsI64 n = true := by
  obtain ⟨l, hl, hn⟩ := looseSlot?_eq_some h
  exact Loose.toI64?_fits hl hn

theorem float?_isFinite {f : Float} (h : float? ms k = .ok (some f)) : f.isFinite = true := by
  obtain ⟨l, hl, hf⟩ := looseSlot?_eq_some h
  exact Loose.toF64?_isFinite hl hf

theorem int?_of_get? {n : Int} (hn : Loose.fitsI64 n = true) (h : ms.get? k = some (.int n)) :
    int? ms k = .ok (some n) := by
  simp [int?, looseSlot?, h, Loose.ofJson_int hn, Loose.toI64?]

theorem float?_of_get? {f : Float} (hf : f.isFinite = true) (h : ms.get? k = some (.float f)) :
    float? ms k = .ok (some f) := by
  simp [float?, looseSlot?, h, Loose.ofJson, Loose.toF64?_float hf]

end Shape

end SearchDsl
