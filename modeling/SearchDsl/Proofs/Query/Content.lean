import SearchDsl.Query.Edit
import SearchDsl.Proofs.Query.RoundTrip
/-!
Clauses with content at every depth.

Containers of clauses leave out what has no content: a query removes the kind of an empty clause
it is given, a clause list drops an empty item, and a nested query slot is left unset rather than
set to a query without content. `Clause.Sound` says that this holds at every depth of a clause.
This module shows which operations keep it (storing and removing clauses, the list operations of
compound clauses, the setters of a clause) and what it means for the JSON written: no clause
list written holds `null`, and no nested query is written as `null`.
-/
set_option autoImplicit false

namespace SearchDsl

def Query.slotClauses : Option Query → List Clause
  | some q => q.clauses
  | none => []

namespace Clause

def lists : Clause → List (List Clause)
  | bool must filter should mustNot _ => [must, filter, should, mustNot]
  | disMax queries _ => [queries]
  | _ => []

def slots : Clause → List (Option Query)
  | boosting positive negative _ _ => [positive, negative]
  | constantScore filter _ => [filter]
  | functionScore query functions _ => query :: functions.map ScoreFunction.filter
  | scriptScore query _ _ => [query]
  | _ => []

def held (c : Clause) : List Clause := c.lists.flatten ++ c.slots.flatMap Query.slotClauses

theorem mem_held {c d : Clause} :
    d ∈ c.held ↔ (∃ l ∈ c.lists, d ∈ l) ∨ ∃ o ∈ c.slots, ∃ q, o = some q ∧ d ∈ q.clauses := by
  simp only [held, List.mem_append, List.mem_flatten, List.mem_flatMap]
  constructor
  · rintro (hl | ⟨o, ho, hd⟩)
    · exact .inl hl
    · cases o with
      | none => cases hd
      | some q => exact .inr ⟨_, ho, q, rfl, hd⟩
  · rintro (hl | ⟨o, ho, q, rfl, hd⟩)
    · exact .inl hl
    · exact .inr ⟨_, ho, hd⟩

/-- A clause as the library makes it, at every depth: every clause it holds has content and is
such a clause again, and every query slot that is set holds a query with content. -/
inductive Sound : Clause → Prop
  | mk {c : Clause} (content : ∀ d ∈ c.held, d.isEmpty = false)
      (filled : ∀ o ∈ c.slots, ∀ q, o = some q → q.isEmpty = false)
      (deep : ∀ d ∈ c.held, Sound d) : Sound c

/-- A clause as containers hold it: with content, and sound. -/
def Stored (c : Clause) : Prop := c.isEmpty = false ∧ c.Sound

end Clause

namespace Query

/-- A query as the library makes it: every clause stored has content and is sound. -/
def Sound (q : Query) : Prop := ∀ c ∈ q.clauses, c.Stored

/-- A nested query slot as the library makes it: unset, or set to a sound query with content. -/
def SlotSound (o : Option Query) : Prop := ∀ q, o = some q → q.isEmpty = false ∧ q.Sound

theorem slotSound_none : SlotSound none := fun _ h => by cases h

theorem sound_empty : empty.Sound := fun _ h => by cases h

end Query

/-- A scoring function as the library makes it: its filter slot is sound. -/
def ScoreFunction.Sound (f : ScoreFunction) : Prop := Query.SlotSound f.filter

/-- An edit as the library makes it: the clause it adds is sound, and so is the query or the
function it sets or adds. -/
def ClauseEdit.Sound : ClauseEdit → Prop
  | .pushRole _ c | .pushQuery c => c.Sound
  | .setPositive q | .setNegative q | .setFilter q => q.Sound
  | .pushFunction f => f.Sound
  | _ => True

namespace Clause

theorem sound_iff {c : Clause} :
    c.Sound ↔ (∀ l ∈ c.lists, ∀ d ∈ l, d.Stored) ∧ ∀ o ∈ c.slots, Query.SlotSound o := by
  constructor
  · rintro ⟨hcontent, hfilled, hdeep⟩
    have hheld : ∀ d ∈ c.held, d.Stored := fun d hd => ⟨hcontent d hd, hdeep d hd⟩
    refine ⟨fun l hl d hd => hheld d (mem_held.mpr (.inl ⟨l, hl, hd⟩)), fun o ho q hq => ?_⟩
    exact ⟨hfilled o ho q hq, fun d hd => hheld d (mem_held.mpr (.inr ⟨o, ho, q, hq, hd⟩))⟩
  · rintro ⟨hl, hs⟩
    have hheld : ∀ d ∈ c.held, d.Stored := by
      intro d hd
      rcases mem_held.mp hd with ⟨l, hl', hd⟩ | ⟨o, ho, q, rfl, hd⟩
      · exact hl l hl' d hd
      · exact (hs _ ho q rfl).2 d hd
    exact ⟨fun d hd => (hheld d hd).1, fun o ho q hq => (hs o ho q hq).1,
      fun d hd => (hheld d hd).2⟩

theorem Sound.held {c : Clause} (hc : c.Sound) : ∀ d ∈ c.held, d.Sound := by
  cases hc with
  | mk _ _ deep => exact deep

theorem sound_of_leaf {c : Clause} (hl : c.lists = []) (hs : c.slots = []) : c.Sound :=
  sound_iff.mpr ⟨fun l h => (by rw [hl] at h; cases h), fun o h => (by rw [hs] at h; cases h)⟩

theorem sound_empty (k : QueryKind) : (empty k).Sound := by
  have hl : ∀ l ∈ (empty k).lists, l = [] := by cases k <;> simp [empty, lists]
  have hs : ∀ o ∈ (empty k).slots, o = none := by cases k <;> simp [empty, slots]
  refine sound_iff.mpr ⟨fun l hl' d hd => ?_, fun o ho => ?_⟩
  · rw [hl l hl'] at hd
    cases hd
  · rw [hs o ho]
    exact Query.slotSound_none

theorem Sound.setParams {c : Clause} (hc : c.Sound) (ps : Params) : (c.setParams ps).Sound := by
  have hviews : (c.setParams ps).lists = c.lists ∧ (c.setParams ps).slots = c.slots := by
    cases c <;> exact ⟨rfl, rfl⟩
  rw [sound_iff, hviews.1, hviews.2]
  exact sound_iff.mp hc

/-! ### Soundness of each compound kind -/

section Compound

variable {must filter should mustNot queries : List Clause} {params : Params}
  {p n query slot : Option Query} {functions : List ScoreFunction} {nb : Float} {script : Script}

theorem sound_bool : (bool must filter should mustNot params).Sound ↔
    (∀ d ∈ must, d.Stored) ∧ (∀ d ∈ filter, d.Stored) ∧ (∀ d ∈ should, d.Stored) ∧
      ∀ d ∈ mustNot, d.Stored := by
  simp [sound_iff, lists, slots]

theorem sound_disMax : (disMax queries params).Sound ↔ ∀ d ∈ queries, d.Stored := by
  simp [sound_iff, lists, slots]

theorem sound_boosting :
    (boosting p n nb params).Sound ↔ Query.SlotSound p ∧ Query.SlotSound n := by
  simp [sound_iff, lists, slots]

theorem sound_constantScore : (constantScore slot params).Sound ↔ Query.SlotSound slot := by
  simp [sound_iff, lists, slots]

theorem sound_functionScore : (functionScore query functions params).Sound ↔
    Query.SlotSound query ∧ ∀ f ∈ functions, f.Sound := by
  simp [sound_iff, lists, slots, ScoreFunction.Sound]

theorem sound_scriptScore : (scriptScore query script params).Sound ↔ Query.SlotSound query := by
  simp [sound_iff, lists, slots]

end Compound

/-! ### Clause lists -/

theorem stored_pushTo {cs : List Clause} {c : Clause} (hcs : ∀ d ∈ cs, d.Stored) (hc : c.Sound) :
    ∀ d ∈ pushTo cs c, d.Stored := by
  unfold pushTo
  split
  · exact hcs
  · rename_i hne
    intro d hd
    rcases List.mem_append.mp hd with hd | hd
    · exact hcs d hd
    · rw [List.mem_singleton] at hd
      subst hd
      exact ⟨by simpa using hne, hc⟩

theorem mem_of_mem_removeAt {cs : List Clause} {i : Nat} {d : Clause}
    (h : d ∈ (removeAt cs i).1) : d ∈ cs := by
  unfold removeAt at h
  split at h
  · exact List.mem_of_mem_eraseIdx h
  · exact h

theorem stored_foldl_pushTo {cs : List Clause} (hcs : ∀ c ∈ cs, c.Sound) :
    ∀ acc : List Clause, (∀ d ∈ acc, d.Stored) → ∀ d ∈ cs.foldl pushTo acc, d.Stored := by
  induction cs with
  | nil => exact fun acc hacc => hacc
  | cons c rest ih =>
    intro acc hacc
    exact ih (fun d hd => hcs d (List.mem_cons_of_mem c hd)) _
      (stored_pushTo hacc (hcs c List.mem_cons_self))

/-! ### Edits of a clause -/

theorem Sound.role {c : Clause} (hc : c.Sound) (r : BoolRole) : ∀ d ∈ c.role r, d.Stored := by
  cases c
  case bool must filter should mustNot ps =>
    obtain ⟨hm, hf, hs, hn⟩ := sound_bool.mp hc
    cases r
    exacts [hm, hf, hs, hn]
  all_goals exact fun d hd => by cases r <;> cases hd

theorem Sound.setRole {c : Clause} (hc : c.Sound) (r : BoolRole) {cs : List Clause}
    (hcs : ∀ d ∈ cs, d.Stored) : (c.setRole r cs).Sound := by
  cases c
  case bool must filter should mustNot ps =>
    obtain ⟨hm, hf, hs, hn⟩ := sound_bool.mp hc
    cases r
    · exact sound_bool.mpr ⟨hcs, hf, hs, hn⟩
    · exact sound_bool.mpr ⟨hm, hcs, hs, hn⟩
    · exact sound_bool.mpr ⟨hm, hf, hcs, hn⟩
    · exact sound_bool.mpr ⟨hm, hf, hs, hcs⟩
  all_goals cases r <;> exact hc

/-- A setter given sound arguments keeps a clause sound. -/
theorem Sound.edit {c c' : Clause} {e : ClauseEdit} {removed : Option Clause} (hc : c.Sound)
    (he : e.Sound) (h : c.edit e = .ok (c', removed)) : c'.Sound := by
  unfold Clause.edit at h
  split at h
  case h_1 =>
    obtain ⟨_, -, h⟩ := Except.map_eq_ok.mp h
    cases h
    exact sound_of_leaf rfl rfl
  case h_14 r child =>
    cases h
    exact hc.setRole r (stored_pushTo (hc.role r) he)
  case h_15 r i =>
    generalize hra : removeAt _ i = pr at h
    obtain ⟨rest, rem⟩ := pr
    cases h
    exact hc.setRole r fun d hd => hc.role r d (mem_of_mem_removeAt (by rw [hra]; exact hd))
  case h_16 =>
    cases h
    exact sound_disMax.mpr (stored_pushTo (sound_disMax.mp hc) he)
  case h_17 i =>
    generalize hra : removeAt _ i = pr at h
    obtain ⟨rest, rem⟩ := pr
    cases h
    exact sound_disMax.mpr fun d hd =>
      sound_disMax.mp hc d (mem_of_mem_removeAt (by rw [hra]; exact hd))
  case h_18 =>
    obtain ⟨_, -, h⟩ := Except.map_eq_ok.mp h
    cases h
    exact sound_boosting.mpr (sound_boosting.mp hc)
  case h_19 q =>
    split at h
    · cases h
    · rename_i hne
      cases h
      exact sound_boosting.mpr ⟨fun _ hq => by cases hq; exact ⟨by simpa using hne, he⟩,
        (sound_boosting.mp hc).2⟩
  case h_20 q =>
    split at h
    · cases h
    · rename_i hne
      cases h
      exact sound_boosting.mpr ⟨(sound_boosting.mp hc).1,
        fun _ hq => by cases hq; exact ⟨by simpa using hne, he⟩⟩
  case h_21 q =>
    cases h
    refine sound_constantScore.mpr fun q' hq => ?_
    split at hq
    · cases hq
    · rename_i hne
      cases hq
      exact ⟨by simpa using hne, he⟩
  case h_22 =>
    cases h
    obtain ⟨hq, hfs⟩ := sound_functionScore.mp hc
    refine sound_functionScore.mpr ⟨hq, fun f hf => ?_⟩
    rcases List.mem_append.mp hf with hf | hf
    · exact hfs f hf
    · rw [List.mem_singleton] at hf
      subst hf
      exact he
  case h_24 =>
    cases h
    exact hc
  all_goals
    cases h
    exact sound_of_leaf rfl rfl

/-! ### What is written -/

theorem envelope_eq_null_iff (c : Clause) : c.envelope = .null ↔ c.isEmpty = true := by
  unfold envelope
  split
  · rename_i h
    simp [h]
  · rename_i h
    simp [h]

theorem null_not_mem_envelopes {cs : List Clause} (h : ∀ c ∈ cs, c.isEmpty = false) :
    Json.null ∉ envelopes cs := by
  induction cs with
  | nil => simp [envelopes]
  | cons c rest ih =>
    have hc : c.envelope ≠ .null := by simp [envelope_eq_null_iff, h c List.mem_cons_self]
    simp only [envelopes, List.mem_cons, not_or]
    exact ⟨hc.symm, ih fun d hd => h d (List.mem_cons_of_mem c hd)⟩

theorem entries_eq_nil_iff (cs : List Clause) : entries cs = [] ↔ ∀ c ∈ cs, c.isEmpty = true := by
  induction cs with
  | nil => simp [entries]
  | cons c rest ih =>
    by_cases hc : c.isEmpty = true
    · simp [entries, hc, ih]
    · simp [entries, hc]

end Clause

namespace Query

/-- A query writes `null` exactly when none of its clauses has content. -/
theorem toJson_eq_null_iff (q : Query) : q.toJson = .null ↔ q.isEmpty = true := by
  obtain ⟨cs⟩ := q
  have hall : (mk cs).isEmpty = true ↔ Clause.entries cs = [] := by
    simp [isEmpty, clauses, Clause.entries_eq_nil_iff]
  rw [hall, toJson]
  split
  · rename_i h
    simp [h]
  · rename_i h
    simpa [Json.mkObj] using h

theorem len_eq_zero_iff {q : Query} (h : ∀ c ∈ q.clauses, c.isEmpty = false) :
    q.len = 0 ↔ q.isEmpty = true := by
  obtain ⟨cs⟩ := q
  cases cs with
  | nil => simp [len, isEmpty, clauses]
  | cons c rest =>
    have hc : c.isEmpty = false := h c List.mem_cons_self
    simp [len, isEmpty, clauses, hc]

end Query

/-- A sound clause writes no `null` into a clause list, and sets no slot to a query without
content, which would be written as `null`. Being sound at every depth, neither do the clauses
it holds. -/
theorem Clause.Sound.writesNoNull {c : Clause} (hc : c.Sound) :
    (∀ l ∈ c.lists, Json.null ∉ envelopes l) ∧
      ∀ o ∈ c.slots, ∀ q, o = some q → q.isEmpty = false ∧ q.toJson ≠ .null := by
  obtain ⟨hl, hs⟩ := sound_iff.mp hc
  refine ⟨fun l hl' => null_not_mem_envelopes fun d hd => (hl l hl' d hd).1, ?_⟩
  intro o ho q hq
  have hne : q.isEmpty = false := (hs o ho q hq).1
  refine ⟨hne, ?_⟩
  rw [ne_eq, Query.toJson_eq_null_iff, hne]
  exact Bool.false_ne_true

end SearchDsl
