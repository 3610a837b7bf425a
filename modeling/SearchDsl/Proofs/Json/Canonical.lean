import SearchDsl.Search.Request
import SearchDsl.Proofs.Json.Object
/-!
Canonical JSON values: the members of every object sorted by key, each key once, at every depth.
The reader builds every object by sorted insertion, so a value read from text is canonical, and
sorting a canonical value deeply changes nothing. Objects built from member lists are canonical
when the members' values are; this is how every writer of the library builds its objects.
-/
set_option autoImplicit false

namespace SearchDsl.Json

/-- A value whose objects all hold their members sorted by key, each key once. -/
inductive Canonical : Json → Prop
  | null : Canonical .null
  | bool (b : Bool) : Canonical (.bool b)
  | int (i : Int) : Canonical (.int i)
  | float (f : Float) : Canonical (.float f)
  | str (s : String) : Canonical (.str s)
  | arr {items : List Json} (each : ∀ v ∈ items, Canonical v) : Canonical (.arr items)
  | obj {ms : Members} (sorted : ms.Pairwise fun a b => a.1 < b.1)
      (each : ∀ m ∈ ms, Canonical m.2) : Canonical (.obj ms)

/-- Members whose values are all canonical, as every writer of the library builds them. -/
def ValuesCanonical (ps : List (String × Json)) : Prop := ∀ p ∈ ps, p.2.Canonical

namespace ValuesCanonical

@[simp] theorem nil : ValuesCanonical [] := fun _ h => (List.not_mem_nil h).elim

@[simp] theorem cons_iff {p : String × Json} {ps : List (String × Json)} :
    ValuesCanonical (p :: ps) ↔ p.2.Canonical ∧ ValuesCanonical ps := List.forall_mem_cons

@[simp] theorem append_iff {ps qs : List (String × Json)} :
    ValuesCanonical (ps ++ qs) ↔ ValuesCanonical ps ∧ ValuesCanonical qs := List.forall_mem_append

@[simp] theorem ite_iff {c : Prop} [Decidable c] {ps qs : List (String × Json)} :
    ValuesCanonical (if c then ps else qs) ↔ (c → ValuesCanonical ps) ∧ (¬c → ValuesCanonical qs) := by
  by_cases h : c <;> simp [h]

theorem get? {ms : Members} {key : String} {v : Json} (h : ValuesCanonical ms)
    (hv : ms.get? key = some v) : v.Canonical :=
  h (key, v) (Members.get?_eq_some_mem hv)

theorem ofList {ps : List (String × Json)} (h : ValuesCanonical ps) :
    ValuesCanonical (Members.ofList ps) :=
  fun m hm => h m (Members.mem_ofList hm)

theorem of_mem_filterMap {α : Type} {ms : Members} (h : ValuesCanonical ms) {keys : List α}
    {tag : α → String} {a : α} {raw : Json}
    (hmem : (a, raw) ∈ keys.filterMap fun k => (ms.get? (tag k)).map fun v => (k, v)) :
    raw.Canonical := by
  obtain ⟨k, -, hk⟩ := List.mem_filterMap.mp hmem
  obtain ⟨v, hv, hkv⟩ := Option.map_eq_some_iff.mp hk
  cases hkv
  exact h.get? hv

end ValuesCanonical

theorem canonical_empty : (Json.obj []).Canonical := .obj List.Pairwise.nil ValuesCanonical.nil

attribute [simp] Canonical.null Canonical.bool Canonical.int Canonical.float Canonical.str

namespace Canonical

theorem items {items : List Json} (h : (Json.arr items).Canonical) : ∀ v ∈ items, v.Canonical := by
  cases h with
  | arr each => exact each

theorem sorted {ms : Members} (h : (Json.obj ms).Canonical) : ms.Pairwise fun a b => a.1 < b.1 := by
  cases h with
  | obj sorted _ => exact sorted

theorem members {ms : Members} (h : (Json.obj ms).Canonical) : ValuesCanonical ms := by
  cases h with
  | obj _ each => exact each

theorem get? {ms : Members} {key : String} {v : Json} (h : (Json.obj ms).Canonical)
    (hv : ms.get? key = some v) : v.Canonical :=
  h.members.get? hv

end Canonical

theorem canonical_single {k : String} {v : Json} (h : v.Canonical) : (Json.obj [(k, v)]).Canonical :=
  .obj (List.pairwise_singleton _ _) (by simpa using h)

theorem canonical_pair {k k' : String} {v v' : Json} (hk : k < k') (hv : v.Canonical)
    (hv' : v'.Canonical) : (Json.obj [(k, v), (k', v')]).Canonical :=
  .obj (List.pairwise_pair.mpr hk) (by simp [hv, hv'])

theorem canonical_mkObj {ps : List (String × Json)} (h : ValuesCanonical ps) :
    (mkObj ps).Canonical :=
  .obj (Members.sorted_ofList ps) fun m hm => h m (Members.mem_ofList hm)

theorem sortItems_eq_map (items : List Json) : sortItems items = items.map sortDeep := by
  induction items with
  | nil => rfl
  | cons v rest ih => rw [sortItems, ih, List.map_cons]

theorem sortMembers_eq_map (ms : List (String × Json)) :
    sortMembers ms = ms.map fun m => (m.1, sortDeep m.2) := by
  induction ms with
  | nil => rfl
  | cons m rest ih =>
    obtain ⟨k, v⟩ := m
    rw [sortMembers, ih, List.map_cons]

theorem Canonical.sortDeep_eq {v : Json} (h : v.Canonical) : sortDeep v = v := by
  induction h with
  | null | bool | int | float | str => rfl
  | arr _ ih =>
    rw [sortDeep, sortItems_eq_map, List.map_congr_left ih, List.map_id']
  | obj sorted _ ih =>
    have hms : ∀ m ∈ _, (m.1, sortDeep m.2) = m := fun m hm => by rw [ih m hm]
    rw [sortDeep, sortMembers_eq_map, List.map_congr_left hms, List.map_id', mkObj,
      Members.ofList_of_sorted sorted]

namespace Members

theorem eq_of_key_eq {ms : Members} (hs : ms.Pairwise fun a b => a.1 < b.1) {m m' : String × Json}
    (hm : m ∈ ms) (hm' : m' ∈ ms) (hk : m.1 = m'.1) : m = m' := by
  obtain ⟨k, v⟩ := m
  obtain ⟨k', v'⟩ := m'
  simp only at hk
  subst hk
  have hv := get?_of_mem_sorted hs hm
  rw [get?_of_mem_sorted hs hm', Option.some.injEq] at hv
  rw [hv]

theorem nodup_of_sorted {ms : List (String × Json)} (hs : ms.Pairwise fun a b => a.1 < b.1) :
    ms.Nodup :=
  hs.imp fun hab heq => absurd (heq ▸ hab) (lt_irrefl _)

theorem ofList_eq_of_perm {ps qs : List (String × Json)} (hp : ps.Perm qs)
    (hs : qs.Pairwise fun a b => a.1 < b.1) : ofList ps = qs := by
  have hsub : ∀ m, m ∈ ofList ps ↔ m ∈ qs := by
    intro m
    constructor
    · intro hm
      exact hp.subset (mem_ofList hm)
    · intro hm
      obtain ⟨k, v⟩ := m
      -- the member is the only one of its key among the given ones
      have huniq : ∀ m' ∈ ps, m'.1 = k → m'.2 = v := fun m' hm' hk => by
        rw [eq_of_key_eq hs (hp.subset hm') hm hk]
      exact get?_eq_some_mem (get?_ofList_of_mem (hp.symm.subset hm) huniq)
  have hperm : (ofList ps).Perm qs :=
    (List.perm_ext_iff_of_nodup (nodup_of_sorted (sorted_ofList ps)) (nodup_of_sorted hs)).mpr hsub
  exact hperm.eq_of_pairwise (fun _ _ _ _ hab hba => absurd (lt_trans hab hba) (lt_irrefl _))
    (sorted_ofList ps) hs

end Members

end SearchDsl.Json
