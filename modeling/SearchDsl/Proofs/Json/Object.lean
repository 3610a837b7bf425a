import SearchDsl.Json.Basic
import Mathlib.Data.String.Basic
import SearchDsl.Proofs.Keyed
/-!
Lookups in objects built from member lists. `Json.mkObj` inserts the members one by one, so of
two members of one key the later wins, and a built object holds each key once. A reader of a
written object finds every member the writer put there, unless a later member reuses its key.
-/
set_option autoImplicit false

namespace SearchDsl.Json.Members

@[simp] theorem get?_cons (k key : String) (v : Json) (rest : Members) :
    get? ((k, v) :: rest) key = if k = key then some v else get? rest key := rfl

theorem get?_insert (ms : Members) (k key : String) (v : Json) :
    (ms.insert k v).get? key = if k = key then some v else ms.get? key := by
  induction ms with
  | nil => simp [insert]
  | cons m rest ih =>
    obtain ⟨k', w⟩ := m
    simp only [insert]
    by_cases hk : k' = k
    · subst hk
      by_cases h : k' = key <;> simp [h]
    · by_cases hl : k < k'
      · simp [hk, hl]
      · simp only [hk, hl, if_false, get?_cons, ih]
        by_cases h : k' = key
        · subst h
          simp [Ne.symm hk]
        · simp [h]

@[simp] theorem get?_ofList_nil (key : String) : (ofList []).get? key = none := rfl

theorem get?_foldl_insert (ps : List (String × Json)) (acc : Members) (key : String) :
    (ps.foldl (fun acc p => acc.insert p.1 p.2) acc).get? key =
      ((ofList ps).get? key).or (acc.get? key) := by
  induction ps generalizing acc with
  | nil => simp
  | cons p ps ih =>
    -- both folds go on from one inserted member; the induction covers each
    have hcons : ofList (p :: ps) =
        ps.foldl (fun acc p => acc.insert p.1 p.2) (Members.insert [] p.1 p.2) := rfl
    rw [List.foldl_cons, hcons, ih, ih, get?_insert, get?_insert, Option.or_assoc]
    by_cases h : p.1 = key <;> simp [h]

theorem get?_ofList_append (ps qs : List (String × Json)) (key : String) :
    (ofList (ps ++ qs)).get? key = ((ofList qs).get? key).or ((ofList ps).get? key) := by
  simp only [ofList, List.foldl_append]
  exact get?_foldl_insert qs _ key

theorem get?_ofList_cons (p : String × Json) (ps : List (String × Json)) (key : String) :
    (ofList (p :: ps)).get? key = ((ofList ps).get? key).or (if p.1 = key then some p.2 else none) := by
  rw [show p :: ps = [p] ++ ps from rfl, get?_ofList_append]
  simp [ofList, get?_insert]

@[simp] theorem get?_ofList_singleton (k key : String) (v : Json) :
    (ofList [(k, v)]).get? key = if k = key then some v else none := by
  simp [ofList, get?_insert]

theorem get?_ofList_eq_none {ps : List (String × Json)} {key : String}
    (h : ∀ p ∈ ps, p.1 ≠ key) : (ofList ps).get? key = none := by
  induction ps with
  | nil => rfl
  | cons p ps ih =>
    rw [get?_ofList_cons, ih fun q hq => h q (List.mem_cons_of_mem p hq)]
    simp [h p List.mem_cons_self]

theorem get?_ofList_append_of_not_mem {ps qs : List (String × Json)} {key : String}
    (h : ∀ q ∈ qs, q.1 ≠ key) : (ofList (ps ++ qs)).get? key = (ofList ps).get? key := by
  rw [get?_ofList_append, get?_ofList_eq_none h, Option.none_or]

theorem sizeOf_items_lt_of_get? {ms : Members} {key : String} {items : List Json}
    (h : ms.get? key = some (.arr items)) : sizeOf items < sizeOf ms := by
  have := sizeOf_lt_of_get? h
  simp only [Json.arr.sizeOf_spec] at this
  omega

theorem get?_eq_some_mem {ms : Members} {key : String} {v : Json} (h : ms.get? key = some v) :
    (key, v) ∈ ms := by
  induction ms with
  | nil => simp at h
  | cons m rest ih =>
    obtain ⟨k, w⟩ := m
    by_cases hk : k = key
    · subst hk
      simp_all
    · simp only [get?_cons, hk, if_false] at h
      exact List.mem_cons_of_mem _ (ih h)

theorem insert_eq_put (ms : Members) (k : String) (v : Json) :
    ms.insert k v = Keyed.put id k v ms := by
  induction ms with
  | nil => rfl
  | cons m rest ih =>
    obtain ⟨k', w⟩ := m
    simp only [insert, Keyed.put, id, ih]

theorem mem_insert {ms : Members} {k : String} {v : Json} {p : String × Json}
    (h : p ∈ ms.insert k v) : p = (k, v) ∨ p ∈ ms := by
  rw [insert_eq_put] at h
  exact Keyed.mem_put h

theorem sorted_insert {ms : Members} (h : ms.Pairwise fun a b => a.1 < b.1) (k : String)
    (v : Json) : (ms.insert k v).Pairwise fun a b => a.1 < b.1 := by
  rw [insert_eq_put]
  exact Keyed.sorted_put Function.injective_id h k v

theorem mem_ofList {ps : List (String × Json)} {p : String × Json} (h : p ∈ ofList ps) : p ∈ ps := by
  suffices ∀ acc : Members, p ∈ ps.foldl (fun acc q => acc.insert q.1 q.2) acc → p ∈ ps ∨ p ∈ acc by
    rcases this [] h with h | h
    · exact h
    · cases h
  clear h
  induction ps with
  | nil => exact fun _ h => .inr h
  | cons q rest ih =>
    intro acc h
    rcases ih _ h with h | h
    · exact .inl (List.mem_cons_of_mem _ h)
    · rcases mem_insert h with rfl | h
      · exact .inl List.mem_cons_self
      · exact .inr h

theorem sorted_ofList (ps : List (String × Json)) :
    (ofList ps).Pairwise fun a b => a.1 < b.1 := by
  suffices ∀ acc : Members, (acc.Pairwise fun a b => a.1 < b.1) →
      (ps.foldl (fun acc p => acc.insert p.1 p.2) acc).Pairwise fun a b => a.1 < b.1 from
    this [] List.Pairwise.nil
  induction ps with
  | nil => exact fun _ h => h
  | cons p ps ih => exact fun acc h => ih _ (sorted_insert h p.1 p.2)

theorem get?_of_mem_sorted {ms : Members} (hs : ms.Pairwise fun a b => a.1 < b.1) {k : String}
    {v : Json} (h : (k, v) ∈ ms) : ms.get? k = some v := by
  induction ms with
  | nil => cases h
  | cons p rest ih =>
    obtain ⟨k', v'⟩ := p
    rcases List.mem_cons.mp h with heq | hmem
    · cases heq
      simp
    · have hne : k' ≠ k := ne_of_lt (List.rel_of_pairwise_cons hs hmem)
      simp [hne, ih hs.of_cons hmem]

theorem filter_eq_singleton {ms : Members} (hs : ms.Pairwise fun a b => a.1 < b.1)
    {P : String × Json → Bool} {k : String} {v : Json} (hget : ms.get? k = some v)
    (hkeep : P (k, v) = true) (hdrop : ∀ m ∈ ms, P m = true → m.1 = k) :
    ms.filter P = [(k, v)] := by
  set l := ms.filter P
  have hall : ∀ m ∈ l, m = (k, v) := by
    intro m hm
    obtain ⟨hmM, hP⟩ := List.mem_filter.mp hm
    obtain ⟨k', v'⟩ := m
    obtain rfl : k' = k := hdrop _ hmM hP
    have hv := get?_of_mem_sorted hs hmM
    rw [hget, Option.some.injEq] at hv
    rw [hv]
  have hmem : (k, v) ∈ l := List.mem_filter.mpr ⟨get?_eq_some_mem hget, hkeep⟩
  have hsorted : l.Pairwise fun a b => a.1 < b.1 := hs.filter _
  rw [List.eq_replicate_iff.mpr ⟨rfl, hall⟩] at hsorted hmem ⊢
  have hlen : l.length = 1 := by
    rcases List.pairwise_replicate.mp hsorted with h1 | hlt
    · have := (List.mem_replicate.mp hmem).1
      omega
    · exact absurd hlt (lt_irrefl _)
  rw [hlen, List.replicate_one]

theorem get?_ofList_of_mem {ps : List (String × Json)} {k : String} {v : Json} (h : (k, v) ∈ ps)
    (huniq : ∀ m ∈ ps, m.1 = k → m.2 = v) : (ofList ps).get? k = some v := by
  induction ps with
  | nil => cases h
  | cons p rest ih =>
    rw [get?_ofList_cons]
    by_cases hrest : ∃ m ∈ rest, m.1 = k
    · obtain ⟨⟨k', v'⟩, hm, rfl⟩ := hrest
      have hv : v' = v := huniq _ (List.mem_cons_of_mem p hm) rfl
      subst hv
      rw [ih hm fun m hm' => huniq m (List.mem_cons_of_mem p hm')]
      rfl
    · push Not at hrest
      rw [get?_ofList_eq_none hrest, Option.none_or]
      rcases List.mem_cons.mp h with rfl | hmem
      · simp
      · exact absurd rfl (hrest _ hmem)

theorem ofList_of_sorted {ps : List (String × Json)} (h : Keyed.Sorted id ps) : ofList ps = ps := by
  simp only [ofList, insert_eq_put]
  simpa using Keyed.foldl_put (by simpa using h : Keyed.Sorted id ([] ++ ps))

end SearchDsl.Json.Members
