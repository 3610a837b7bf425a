import Mathlib
/-!
Entries kept sorted by key. Settings are sorted by their parameter's position, children and
object members by name; each is stored by one insertion that replaces the entry of its key or
puts the new entry in its place. Sorted entries are determined by what each key looks up, and
sorted entries inserted one by one, in order, build themselves again.
-/
set_option autoImplicit false

namespace SearchDsl.Keyed

variable {κ ι σ : Type} [LinearOrder ι]

/-- Entries in strictly increasing order of their keys' positions, so each key at most once. -/
def Sorted (idx : κ → ι) (es : List (κ × σ)) : Prop := es.Pairwise fun a b => idx a.1 < idx b.1

theorem Sorted.of_keys {τ : Type} {es : List (κ × σ)} {ds : List (κ × τ)} {idx : κ → ι}
    (h : Sorted idx es) (hk : ds.map Prod.fst = es.map Prod.fst) : Sorted idx ds := by
  have hes : (es.map Prod.fst).Pairwise fun a b => idx a < idx b := List.pairwise_map.mpr h
  rw [← hk, List.pairwise_map] at hes
  exact hes

variable [DecidableEq κ]

def put (idx : κ → ι) (k : κ) (v : σ) : List (κ × σ) → List (κ × σ)
  | [] => [(k, v)]
  | (k', w) :: rest =>
    if k' = k then (k, v) :: rest
    else if idx k < idx k' then (k, v) :: (k', w) :: rest
    else (k', w) :: put idx k v rest

variable {idx : κ → ι}

theorem lookup_cons_eq_ite (k q : κ) (v : σ) (es : List (κ × σ)) :
    ((k, v) :: es).lookup q = if q = k then some v else es.lookup q := by
  rw [List.lookup_cons]
  by_cases h : q = k
  · subst h
    simp
  · rw [beq_eq_false_iff_ne.mpr h]
    simp [h]

theorem lookup_eq_none {es : List (κ × σ)} {q : κ} (h : ∀ e ∈ es, e.1 ≠ q) :
    es.lookup q = none := by
  induction es with
  | nil => rfl
  | cons e rest ih =>
    obtain ⟨k, v⟩ := e
    rw [lookup_cons_eq_ite, if_neg (Ne.symm (h (k, v) List.mem_cons_self))]
    exact ih fun e he => h e (List.mem_cons_of_mem _ he)

theorem mem_of_lookup_eq_some {es : List (κ × σ)} {k : κ} {v : σ} (h : es.lookup k = some v) :
    (k, v) ∈ es := by
  induction es with
  | nil => cases h
  | cons e rest ih =>
    obtain ⟨k', w⟩ := e
    rw [lookup_cons_eq_ite] at h
    split at h
    · rename_i hk
      cases h
      subst hk
      exact List.mem_cons_self
    · exact List.mem_cons_of_mem _ (ih h)

theorem lookup_put (k q : κ) (v : σ) (es : List (κ × σ)) :
    (put idx k v es).lookup q = if q = k then some v else es.lookup q := by
  induction es with
  | nil => simp [put, lookup_cons_eq_ite]
  | cons e rest ih =>
    obtain ⟨k', w⟩ := e
    simp only [put]
    split
    · rename_i hk
      subst hk
      by_cases h : q = k' <;> simp [lookup_cons_eq_ite, h]
    · rename_i hk
      split
      · by_cases h : q = k <;> simp [lookup_cons_eq_ite, h]
      · rw [lookup_cons_eq_ite, ih, lookup_cons_eq_ite]
        by_cases h : q = k
        · subst h
          simp [Ne.symm hk]
        · simp [h]

theorem lookup_filter_ne (k q : κ) (es : List (κ × σ)) :
    (es.filter fun e => e.1 ≠ k).lookup q = if q = k then none else es.lookup q := by
  induction es with
  | nil => split <;> rfl
  | cons e rest ih =>
    obtain ⟨k', v⟩ := e
    by_cases hk : k' = k
    · subst hk
      simp only [List.filter_cons, ne_eq, not_true_eq_false, decide_false, Bool.false_eq_true,
        if_false, ih, lookup_cons_eq_ite]
      by_cases hq : q = k' <;> simp [hq]
    · simp only [List.filter_cons, ne_eq, hk, not_false_eq_true, decide_true, if_true,
        lookup_cons_eq_ite, ih]
      by_cases hq : q = k
      · subst hq
        simp [Ne.symm hk]
      · simp [hq]

theorem mem_put {k : κ} {v : σ} {es : List (κ × σ)} {e : κ × σ} (h : e ∈ put idx k v es) :
    e = (k, v) ∨ e ∈ es := by
  induction es with
  | nil => simpa [put] using h
  | cons d rest ih =>
    obtain ⟨k', w⟩ := d
    simp only [put] at h
    split at h
    · rcases List.mem_cons.mp h with h | h
      · exact .inl h
      · exact .inr (List.mem_cons_of_mem _ h)
    · split at h
      · simpa using h
      · rcases List.mem_cons.mp h with h | h
        · exact .inr (h ▸ List.mem_cons_self)
        · rcases ih h with h | h
          · exact .inl h
          · exact .inr (List.mem_cons_of_mem _ h)

theorem sorted_put (hinj : Function.Injective idx) {es : List (κ × σ)} (h : Sorted idx es)
    (k : κ) (v : σ) : Sorted idx (put idx k v es) := by
  induction es with
  | nil => simp [put, Sorted]
  | cons d rest ih =>
    obtain ⟨k', w⟩ := d
    simp only [Sorted, List.pairwise_cons] at h
    simp only [put]
    split
    · rename_i hk
      subst hk
      simpa [Sorted] using h
    · rename_i hk
      split
      · rename_i hlt
        refine List.Pairwise.cons ?_ (List.Pairwise.cons h.1 h.2)
        intro e he
        rcases List.mem_cons.mp he with rfl | he
        · exact hlt
        · exact lt_trans hlt (h.1 e he)
      · rename_i hlt
        -- past the head: the new key's position is above it, as the two keys differ
        have hgt : idx k' < idx k := lt_of_le_of_ne (not_lt.mp hlt) fun he => hk (hinj he)
        refine List.Pairwise.cons ?_ (ih h.2)
        intro e he
        rcases mem_put he with rfl | he
        · exact hgt
        · exact h.1 e he

theorem lookup_eq_none_of_lt {es : List (κ × σ)} {q : κ} (h : ∀ e ∈ es, idx q < idx e.1) :
    es.lookup q = none :=
  lookup_eq_none fun e he heq => lt_irrefl (idx q) (heq ▸ h e he)

/-- Sorted entries are determined by their lookups. -/
theorem eq_of_lookup (hinj : Function.Injective idx) {a b : List (κ × σ)} (ha : Sorted idx a)
    (hb : Sorted idx b) (h : ∀ k, a.lookup k = b.lookup k) : a = b := by
  induction a generalizing b with
  | nil =>
    cases b with
    | nil => rfl
    | cons e rest =>
      obtain ⟨k, v⟩ := e
      have := h k
      simp at this
  | cons e rest ih =>
    obtain ⟨k, v⟩ := e
    simp only [Sorted, List.pairwise_cons] at ha
    cases b with
    | nil =>
      have := h k
      simp at this
    | cons d brest =>
      obtain ⟨k', w⟩ := d
      simp only [Sorted, List.pairwise_cons] at hb
      -- the heads have one key: the smaller head would be missing from the other list
      have hkk : k = k' := by
        by_contra hne
        rcases lt_or_gt_of_ne fun hi => hne (hinj hi) with hlt | hlt
        · have hk := h k
          rw [lookup_cons_eq_ite, if_pos rfl, lookup_cons_eq_ite, if_neg hne,
            lookup_eq_none_of_lt fun e he => lt_trans hlt (hb.1 e he)] at hk
          cases hk
        · have hk' := h k'
          rw [lookup_cons_eq_ite, if_neg (Ne.symm hne), lookup_cons_eq_ite, if_pos rfl,
            lookup_eq_none_of_lt fun e he => lt_trans hlt (ha.1 e he)] at hk'
          cases hk'
      subst hkk
      have hvw : v = w := by simpa [lookup_cons_eq_ite] using h k
      subst hvw
      congr 1
      refine ih ha.2 hb.2 fun q => ?_
      by_cases hq : q = k
      · subst hq
        rw [lookup_eq_none_of_lt ha.1, lookup_eq_none_of_lt hb.1]
      · simpa [lookup_cons_eq_ite, hq] using h q

theorem put_of_lt {k : κ} {v : σ} {es : List (κ × σ)} (h : ∀ e ∈ es, idx e.1 < idx k) :
    put idx k v es = es ++ [(k, v)] := by
  induction es with
  | nil => rfl
  | cons e rest ih =>
    obtain ⟨k', w⟩ := e
    have hlt : idx k' < idx k := h (k', w) List.mem_cons_self
    have hne : k' ≠ k := fun he => lt_irrefl (idx k) (he ▸ hlt)
    simp only [put, if_neg hne, if_neg (not_lt.mpr (le_of_lt hlt)), List.cons_append]
    rw [ih fun e he => h e (List.mem_cons_of_mem _ he)]

theorem foldl_put {acc es : List (κ × σ)} (h : Sorted idx (acc ++ es)) :
    es.foldl (fun acc e => put idx e.1 e.2 acc) acc = acc ++ es := by
  induction es generalizing acc with
  | nil => simp
  | cons e rest ih =>
    have hlast : put idx e.1 e.2 acc = acc ++ [e] :=
      put_of_lt fun d hd => (List.pairwise_append.mp h).2.2 d hd e List.mem_cons_self
    rw [List.foldl_cons, hlast, ih (by simpa using h)]
    simp

end SearchDsl.Keyed
