import SearchDsl.Query.Record
import SearchDsl.Proofs.Query.Content
/-!
Queries as stores of one clause per kind.

A caller changes a query by storing a clause, removing the clause of a kind, or clearing it.
Each kind has a slot: after any changes, it holds the last clause with content stored for that
kind since the kind was last removed or cleared, where storing an empty clause removes its kind
(`get?_change_eq_some_iff`). A query built from records is the empty query after storing the
records' clauses in order (`ofRecords_eq`). Changes keep every stored clause with content, and
changes that store sound clauses keep a query sound.
-/
set_option autoImplicit false

namespace SearchDsl

namespace Query

/-- A change a caller makes to a query. -/
inductive Change where
  | set (c : Clause)
  | remove (k : QueryKind)
  | clear

namespace Change

def apply (q : Query) : Change → Query
  | set c => (q.set c).1
  | remove k => (q.remove k).1
  | clear => empty

def touches (k : QueryKind) : Change → Bool
  | set c => c.kind == k
  | remove k' => k' == k
  | clear => true

def stores : Change → Option Clause
  | set c => if c.isEmpty then none else some c
  | remove _ | clear => none

theorem stores_eq_some_iff {ch : Change} {k : QueryKind} {c : Clause}
    (h : ch.touches k = true) : ch.stores = some c ↔ ch = set c ∧ c.kind = k ∧ c.isEmpty = false := by
  cases ch with
  | set d =>
    have hk : d.kind = k := by simpa [touches] using h
    by_cases hd : d.isEmpty = true
    · simp only [stores, hd, if_true, reduceCtorEq, false_iff, not_and]
      rintro ⟨⟩ -
      simp [hd]
    · simp only [stores, hd, Bool.false_eq_true, if_false, Option.some.injEq, set.injEq]
      constructor
      · rintro rfl
        exact ⟨rfl, hk, by simpa using hd⟩
      · rintro ⟨rfl, -⟩
        rfl
  | remove k' => simp [stores]
  | clear => simp [stores]

theorem touches_set {c : Clause} {k : QueryKind} : (set c).touches k = true ↔ c.kind = k := by
  simp [touches]

end Change

def change (q : Query) (chs : List Change) : Query := chs.foldl Change.apply q

@[simp] theorem change_nil (q : Query) : q.change [] = q := rfl

@[simp] theorem change_cons (q : Query) (ch : Change) (chs : List Change) :
    q.change (ch :: chs) = (ch.apply q).change chs := rfl

/-! ### Slots -/

theorem get?_insertClause (c : Clause) (cs : List Clause) (k : QueryKind) :
    (mk (insertClause c cs)).get? k = if c.kind = k then some c else (mk cs).get? k := by
  simp only [get?, clauses]
  induction cs with
  | nil => by_cases h : c.kind = k <;> simp [insertClause, h]
  | cons d rest ih =>
    unfold insertClause
    by_cases hdc : d.kind = c.kind
    · -- the clause of its kind is replaced
      rw [if_pos hdc]
      by_cases h : c.kind = k
      · simp [h]
      · have hdk : ¬d.kind = k := hdc ▸ h
        simp [h, hdk]
    · rw [if_neg hdc]
      by_cases hlt : c.kind.index < d.kind.index
      · rw [if_pos hlt]
        by_cases h : c.kind = k <;> simp [h]
      · -- the clause goes after the head, which is of another kind
        rw [if_neg hlt, List.find?_cons, ih]
        by_cases h : c.kind = k
        · have hdk : ¬d.kind = k := fun hd => hdc (hd.trans h.symm)
          simp [h, hdk]
        · simp [h, List.find?_cons]

theorem get?_set (q : Query) (c : Clause) (k : QueryKind) :
    (q.set c).1.get? k = if c.kind = k then (if c.isEmpty then none else some c) else q.get? k := by
  obtain ⟨cs⟩ := q
  unfold Query.set
  by_cases he : c.isEmpty = true
  · simp only [he, if_true, remove, get?, clauses, List.find?_filter]
    by_cases h : c.kind = k
    · subst h
      simp
    · simp only [h, if_false]
      congr 1
      funext d
      by_cases hd : d.kind = k
      · simp [hd, Ne.symm h]
      · simp [hd]
  · simp only [he, Bool.false_eq_true, if_false, get?_insertClause, clauses]

theorem get?_remove (q : Query) (k' k : QueryKind) :
    (q.remove k').1.get? k = if k' = k then none else q.get? k := by
  obtain ⟨cs⟩ := q
  simp only [remove, get?, clauses, List.find?_filter]
  by_cases h : k' = k
  · subst h
    simp
  · simp only [h, if_false]
    congr 1
    funext d
    by_cases hd : d.kind = k
    · simp [hd, Ne.symm h]
    · simp [hd]

theorem get?_apply (q : Query) (ch : Change) (k : QueryKind) :
    (ch.apply q).get? k = if ch.touches k then ch.stores else q.get? k := by
  cases ch with
  | set c =>
    rw [Change.apply, get?_set]
    by_cases h : c.kind = k <;> simp [Change.touches, Change.stores, h]
  | remove k' =>
    rw [Change.apply, get?_remove]
    by_cases h : k' = k <;> simp [Change.touches, Change.stores, h]
  | clear => simp [Change.apply, Change.touches, Change.stores, get?, empty, clauses]

theorem exists_cons_eq_append {ch : Change} {rest : List Change} {c : Clause}
    {P : List Change → Prop} :
    (∃ pre post, ch :: rest = pre ++ .set c :: post ∧ P post) ↔
      (ch = .set c ∧ P rest) ∨ ∃ pre post, rest = pre ++ .set c :: post ∧ P post := by
  constructor
  · rintro ⟨pre, post, heq, hp⟩
    rcases List.cons_eq_append_iff.mp heq with ⟨rfl, hpost⟩ | ⟨pre', rfl, hrest⟩
    · obtain ⟨rfl, rfl⟩ := List.cons.inj hpost
      exact .inl ⟨rfl, hp⟩
    · exact .inr ⟨pre', post, hrest, hp⟩
  · rintro (⟨rfl, hp⟩ | ⟨pre, post, rfl, hp⟩)
    · exact ⟨[], rest, rfl, hp⟩
    · exact ⟨ch :: pre, post, rfl, hp⟩

/-- After changes, the slot of a kind holds the last clause with content stored for the kind
since the last change that touched it, or, if no change touched it, what it held before. -/
theorem get?_change_eq_some_iff {q : Query} {chs : List Change} {k : QueryKind} {c : Clause} :
    (q.change chs).get? k = some c ↔
      (c.kind = k ∧ c.isEmpty = false ∧
        ∃ pre post, chs = pre ++ .set c :: post ∧ ∀ ch ∈ post, ch.touches k = false) ∨
      (q.get? k = some c ∧ ∀ ch ∈ chs, ch.touches k = false) := by
  induction chs generalizing q with
  | nil => simp
  | cons ch rest ih =>
    rw [change_cons, ih, get?_apply, exists_cons_eq_append]
    simp only [List.mem_cons, forall_eq_or_imp]
    cases ht : ch.touches k
    · -- the change keeps the slot, and it is not a clause of the kind stored
      have hne : ch ≠ .set c ∨ c.kind ≠ k := by
        by_cases hc : ch = .set c
        · subst hc
          exact .inr fun hk => by simp [Change.touches_set.mpr hk] at ht
        · exact .inl hc
      simp only [Bool.false_eq_true, if_false, true_and]
      constructor
      · rintro (⟨hk, he, hlater⟩ | hkept)
        · exact .inl ⟨hk, he, .inr hlater⟩
        · exact .inr hkept
      · rintro (⟨hk, he, ⟨hch, -⟩ | hlater⟩ | hkept)
        · rcases hne with hne | hne
          · exact absurd hch hne
          · exact absurd hk hne
        · exact .inl ⟨hk, he, hlater⟩
        · exact .inr hkept
    · -- the change decides the slot, so only a later change can have stored the clause
      simp only [if_true, Change.stores_eq_some_iff ht, Bool.true_eq_false, false_and, and_false,
        or_false]
      constructor
      · rintro (⟨hk, he, hlater⟩ | ⟨⟨hch, hk, he⟩, hrest⟩)
        · exact ⟨hk, he, .inr hlater⟩
        · exact ⟨hk, he, .inl ⟨hch, hrest⟩⟩
      · rintro ⟨hk, he, ⟨hch, hrest⟩ | hlater⟩
        · exact .inr ⟨⟨hch, hk, he⟩, hrest⟩
        · exact .inl ⟨hk, he, hlater⟩

/-! ### What changes keep -/

theorem mem_insertClause_of {c x : Clause} {cs : List Clause} (h : x ∈ insertClause c cs) :
    x = c ∨ x ∈ cs := by
  induction cs with
  | nil => exact .inl (List.mem_singleton.mp h)
  | cons d rest ih =>
    unfold insertClause at h
    split_ifs at h
    · rcases List.mem_cons.mp h with rfl | h
      · exact .inl rfl
      · exact .inr (List.mem_cons_of_mem d h)
    · rcases List.mem_cons.mp h with rfl | h
      · exact .inl rfl
      · exact .inr h
    · rcases List.mem_cons.mp h with rfl | h
      · exact .inr List.mem_cons_self
      · rcases ih h with rfl | h
        · exact .inl rfl
        · exact .inr (List.mem_cons_of_mem d h)

theorem mem_apply {q : Query} {ch : Change} {d : Clause} (h : d ∈ (ch.apply q).clauses) :
    (ch = .set d ∧ d.isEmpty = false) ∨ d ∈ q.clauses := by
  cases ch with
  | set c =>
    simp only [Change.apply, Query.set] at h
    split at h
    · exact .inr (List.mem_filter.mp h).1
    · rename_i hne
      rcases mem_insertClause_of h with rfl | h
      · exact .inl ⟨rfl, by simpa using hne⟩
      · exact .inr h
  | remove k => exact .inr (List.mem_filter.mp h).1
  | clear => cases h

theorem mem_change {q : Query} {chs : List Change} {d : Clause} (h : d ∈ (q.change chs).clauses) :
    (.set d ∈ chs ∧ d.isEmpty = false) ∨ d ∈ q.clauses := by
  induction chs generalizing q with
  | nil => exact .inr h
  | cons ch rest ih =>
    rcases ih h with ⟨hd, hne⟩ | h
    · exact .inl ⟨List.mem_cons_of_mem ch hd, hne⟩
    · rcases mem_apply h with ⟨rfl, hne⟩ | h
      · exact .inl ⟨List.mem_cons_self, hne⟩
      · exact .inr h

theorem content_change {q : Query} (hq : ∀ d ∈ q.clauses, d.isEmpty = false) (chs : List Change) :
    ∀ d ∈ (q.change chs).clauses, d.isEmpty = false := by
  intro d hd
  rcases mem_change hd with ⟨-, hne⟩ | hd
  · exact hne
  · exact hq d hd

/-- Changes that store sound clauses keep a query sound. -/
theorem Sound.change {q : Query} (hq : q.Sound) {chs : List Change}
    (hchs : ∀ c, .set c ∈ chs → c.Sound) : (q.change chs).Sound := by
  intro d hd
  rcases mem_change hd with ⟨hset, hne⟩ | hd
  · exact ⟨hne, hchs d hset⟩
  · exact hq d hd

theorem Sound.set {q : Query} (hq : q.Sound) {c : Clause} (hc : c.Sound) : (q.set c).1.Sound := by
  have hset : ∀ c', Change.set c' ∈ [Change.set c] → c'.Sound := by
    intro c' h
    rw [List.mem_singleton] at h
    cases h
    exact hc
  exact hq.change hset

/-! ### Queries built from records -/

/-- Building from records builds every record's clause, the first failure failing the whole,
and then stores the clauses in order. -/
theorem buildQuery_eq (rs : List ClauseRecord) (q : Query) :
    ClauseRecord.buildQuery rs q =
      (rs.mapM ClauseRecord.build).map fun cs => q.change (cs.map .set) := by
  induction rs generalizing q with
  | nil => rfl
  | cons r rest ih =>
    rw [ClauseRecord.buildQuery, List.mapM_cons]
    cases hr : r.build with
    | error e => rfl
    | ok c =>
      simp only [Except.ok_bind, ih]
      cases rest.mapM ClauseRecord.build with
      | error e => rfl
      | ok cs => rfl

theorem ofRecords_eq (rs : List ClauseRecord) :
    Query.ofRecords rs = (rs.mapM ClauseRecord.build).map fun cs => empty.change (cs.map .set) :=
  buildQuery_eq rs empty

end Query

end SearchDsl
