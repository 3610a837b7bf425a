import SearchDsl.Proofs.Query.Changes
/-!
Containers never hold empty clauses.

Every query, clause and clause list the library hands out is sound at every depth: a query read
from JSON or built from records stores clauses with content only, a clause list read or built
holds clauses with content only, and a nested query slot is either unset or holds a query with
content. The readers and the builders are proved so here, each by the recursion of its own
definition; with the lemmas on changes, setters and list operations, the main statement is that
no container the library hands out holds an empty clause, and what follows for its JSON.
-/
set_option autoImplicit false

namespace SearchDsl

/-! ### Reading -/

theorem ScoreFunction.ofShorthand_sound {sh : Json.Members} {f : ScoreFunction}
    (h : ScoreFunction.ofShorthand sh = .ok f) : f.Sound := by
  rw [ScoreFunction.ofShorthand, Except.mapError_eq_ok] at h
  obtain ⟨body, -, h⟩ := Except.bind_eq_ok.mp h
  obtain ⟨params, -, h⟩ := Except.bind_eq_ok.mp h
  cases h
  exact Query.slotSound_none

namespace Clause

theorem decodeKind_sound_of {k : QueryKind} {body : Json} {c : Clause}
    (h : decodeKind k body = .ok c) (hcomp : ∀ {k'}, decodeCompound k' body = .ok c → c.Sound) :
    c.Sound := by
  cases k <;> rw [decodeKind] at h
  case bool | boosting | constantScore | disMax | functionScore | scriptScore => exact hcomp h
  all_goals
    obtain ⟨q, -, rfl⟩ := Except.map_eq_ok.mp h
    exact sound_of_leaf rfl rfl

/-- What the readers of a compound body's children guarantee: its clause lists hold stored
clauses, its nested query slots are sound, and so are its functions. -/
structure ChildrenSound (ms : Json.Members) : Prop where
  role : ∀ {role : String} {cs : List Clause}, decodeRole ms role = .ok cs → ∀ c ∈ cs, c.Stored
  slot : ∀ {role : String} {o : Option Query}, Query.decodeSlot ms role = .ok o → Query.SlotSound o
  functions : ∀ {fs : List ScoreFunction}, ScoreFunction.decodeSlotList ms = .ok fs →
    ∀ f ∈ fs, f.Sound

theorem decodeCompoundMembers_sound_of {k : QueryKind} {ms : Json.Members} {c : Clause}
    (hc : ChildrenSound ms) (h : decodeCompoundMembers k ms = .ok c) : c.Sound := by
  cases k
  case bool =>
    obtain ⟨must, filter, should, mustNot, params, hmust, hfilter, hshould, hmustNot, -, rfl⟩ :=
      decodeCompoundMembers_bool_eq h
    exact sound_bool.mpr ⟨hc.role hmust, hc.role hfilter, hc.role hshould, hc.role hmustNot⟩
  case boosting =>
    -- both slots are set, or the clause is empty: whatever boost is read, the slots are sound
    rcases decodeCompoundMembers_boosting_eq h with rfl | ⟨p, n, -, -, -, hp, hn, -, -, -, rfl⟩
    · exact sound_empty .boosting
    · exact sound_boosting.mpr ⟨hc.slot hp, hc.slot hn⟩
  case constantScore =>
    obtain ⟨filter, params, hfilter, -, rfl⟩ := decodeCompoundMembers_constantScore_eq h
    exact sound_constantScore.mpr (hc.slot hfilter)
  case disMax =>
    obtain ⟨queries, params, hqueries, -, rfl⟩ := decodeCompoundMembers_disMax_eq h
    exact sound_disMax.mpr (hc.role hqueries)
  case functionScore =>
    obtain ⟨listed, extra, query, params, hlisted, hextra, hquery, -, rfl⟩ :=
      decodeCompoundMembers_functionScore_eq h
    refine sound_functionScore.mpr ⟨hc.slot hquery, fun f hf => ?_⟩
    rcases List.mem_append.mp hf with hf | hf
    · exact hc.functions hlisted f hf
    · exact ScoreFunction.ofShorthand_sound (hextra f hf)
  case scriptScore =>
    rcases decodeCompoundMembers_scriptScore_eq h with rfl | ⟨q, script, params, hq, -, -, -, rfl⟩
    · exact sound_empty .scriptScore
    · exact sound_scriptScore.mpr (hc.slot hq)
  all_goals
    unfold decodeCompoundMembers at h
    cases h
    exact sound_empty _

end Clause

mutual

theorem Query.decode_sound {v : Json} {q : Query} (h : Query.decode v = .ok q) : q.Sound := by
  unfold Query.decode at h
  split at h
  · cases h
    exact Query.sound_empty
  · exact Query.decodeMembers_sound Query.sound_empty h
  · cases h
termination_by 4 * sizeOf v + 3
decreasing_by all_goals (subst_vars; simp -failIfUnchanged only [Json.obj.sizeOf_spec]; omega)

theorem Query.decodeMembers_sound {whole : Json} {ms : Json.Members} {acc q : Query}
    (hacc : acc.Sound) (h : Query.decodeMembers whole ms acc = .ok q) : q.Sound := by
  unfold Query.decodeMembers at h
  split at h
  · cases h
    exact hacc
  · obtain ⟨k, -, h⟩ := Except.bind_eq_ok.mp h
    obtain ⟨c, hc, h⟩ := Except.bind_eq_ok.mp h
    exact Query.decodeMembers_sound (hacc.set (Clause.decodeBody_sound hc)) h
termination_by 4 * sizeOf ms
decreasing_by
  all_goals
    subst_vars
    simp -failIfUnchanged only [List.cons.sizeOf_spec, Prod.mk.sizeOf_spec]
    omega

theorem Query.decodeSlot_sound {ms : Json.Members} {role : String} {o : Option Query}
    (h : Query.decodeSlot ms role = .ok o) : Query.SlotSound o := by
  unfold Query.decodeSlot at h
  split at h
  · cases h
    exact Query.slotSound_none
  · rename_i v hv
    have := Json.Members.sizeOf_lt_of_get? hv
    split at h
    · rename_i q' hq'
      cases h
      intro q hq
      split at hq
      · cases hq
      · rename_i hne
        cases hq
        exact ⟨by simpa using hne, Query.decode_sound hq'⟩
    · cases h
termination_by 4 * sizeOf ms
decreasing_by all_goals (subst_vars; omega)

theorem Clause.decodeBody_sound {k : QueryKind} {body : Json} {c : Clause}
    (h : Clause.decodeBody k body = .ok c) : c.Sound :=
  Clause.decodeKind_sound (Clause.decodeBody_eq_ok.mp h)
termination_by 4 * sizeOf body + 3
decreasing_by all_goals omega

theorem Clause.decodeKind_sound {k : QueryKind} {body : Json} {c : Clause}
    (h : Clause.decodeKind k body = .ok c) : c.Sound :=
  Clause.decodeKind_sound_of h fun hc => Clause.decodeCompound_sound hc
termination_by 4 * sizeOf body + 2
decreasing_by all_goals omega

theorem Clause.decodeCompound_sound {k : QueryKind} {body : Json} {c : Clause}
    (h : Clause.decodeCompound k body = .ok c) : c.Sound := by
  unfold Clause.decodeCompound at h
  split at h
  · cases h
    exact Clause.sound_empty k
  · exact Clause.decodeCompoundMembers_sound h
  · cases h
termination_by 4 * sizeOf body + 1
decreasing_by all_goals (subst_vars; simp -failIfUnchanged only [Json.obj.sizeOf_spec]; omega)

theorem Clause.decodeCompoundMembers_sound {k : QueryKind} {ms : Json.Members} {c : Clause}
    (h : Clause.decodeCompoundMembers k ms = .ok c) : c.Sound :=
  Clause.decodeCompoundMembers_sound_of
    ⟨fun hr => Clause.decodeRole_sound hr, fun hs => Query.decodeSlot_sound hs,
      fun hf => ScoreFunction.decodeSlotList_sound hf⟩ h
termination_by 4 * sizeOf ms + 1
decreasing_by all_goals omega

theorem Clause.decodeRole_sound {ms : Json.Members} {role : String} {cs : List Clause}
    (h : Clause.decodeRole ms role = .ok cs) : ∀ c ∈ cs, c.Stored := by
  unfold Clause.decodeRole at h
  split at h
  · cases h
    simp
  · rename_i v hv
    have := Json.Members.sizeOf_lt_of_get? hv
    exact Clause.decodeList_sound h
termination_by 4 * sizeOf ms
decreasing_by all_goals omega

theorem Clause.decodeList_sound {v : Json} {role : String} {cs : List Clause}
    (h : Clause.decodeList v role = .ok cs) : ∀ c ∈ cs, c.Stored := by
  unfold Clause.decodeList at h
  split at h
  · cases h
    simp
  · exact Clause.decodeItems_sound (by simp) h
  · exact Clause.pushMembers_sound (by simp) (Except.mapError_eq_ok.mp h)
  · cases h
termination_by 4 * sizeOf v + 2
decreasing_by
  all_goals
    subst_vars
    simp -failIfUnchanged only [Json.obj.sizeOf_spec, Json.arr.sizeOf_spec]
    omega

theorem Clause.decodeItems_sound {items : List Json} {role : String} {i : Nat}
    {acc cs : List Clause} (hacc : ∀ c ∈ acc, c.Stored)
    (h : Clause.decodeItems items role i acc = .ok cs) : ∀ c ∈ cs, c.Stored := by
  unfold Clause.decodeItems at h
  split at h
  · cases h
    exact hacc
  · obtain ⟨acc', hacc', h⟩ := Except.bind_eq_ok.mp h
    exact Clause.decodeItems_sound (Clause.pushItem_sound hacc (Except.mapError_eq_ok.mp hacc')) h
termination_by 4 * sizeOf items
decreasing_by all_goals (subst_vars; simp -failIfUnchanged only [List.cons.sizeOf_spec]; omega)

theorem Clause.pushItem_sound {item : Json} {acc cs : List Clause} (hacc : ∀ c ∈ acc, c.Stored)
    (h : Clause.pushItem item acc = .ok cs) : ∀ c ∈ cs, c.Stored := by
  unfold Clause.pushItem at h
  split at h
  · cases h
    exact hacc
  · exact Clause.pushMembers_sound hacc h
  · cases h
termination_by 4 * sizeOf item + 1
decreasing_by all_goals (subst_vars; simp -failIfUnchanged only [Json.obj.sizeOf_spec]; omega)

theorem Clause.pushMembers_sound {ms : Json.Members} {acc cs : List Clause}
    (hacc : ∀ c ∈ acc, c.Stored) (h : Clause.pushMembers ms acc = .ok cs) :
    ∀ c ∈ cs, c.Stored := by
  unfold Clause.pushMembers at h
  split at h
  · cases h
    exact hacc
  · split at h
    · exact Clause.pushMembers_sound hacc h
    · obtain ⟨c, hc, h⟩ := Except.bind_eq_ok.mp h
      exact Clause.pushMembers_sound (Clause.stored_pushTo hacc (Clause.decodeBody_sound hc)) h
termination_by 4 * sizeOf ms
decreasing_by
  all_goals
    subst_vars
    simp -failIfUnchanged only [List.cons.sizeOf_spec, Prod.mk.sizeOf_spec]
    omega

theorem ScoreFunction.decodeSlotList_sound {ms : Json.Members} {fs : List ScoreFunction}
    (h : ScoreFunction.decodeSlotList ms = .ok fs) : ∀ f ∈ fs, f.Sound := by
  unfold ScoreFunction.decodeSlotList at h
  split at h
  · cases h
    simp
  · cases h
    simp
  · rename_i items hitems
    have hlt := Json.Members.sizeOf_items_lt_of_get? hitems
    exact ScoreFunction.decodeItems_sound h
  · cases h
termination_by 4 * sizeOf ms
decreasing_by all_goals omega

theorem ScoreFunction.decodeItems_sound {items : List Json} {i : Nat} {fs : List ScoreFunction}
    (h : ScoreFunction.decodeItems items i = .ok fs) : ∀ f ∈ fs, f.Sound := by
  unfold ScoreFunction.decodeItems at h
  split at h
  · cases h
    simp
  · obtain ⟨f, hf, h⟩ := Except.bind_eq_ok.mp h
    obtain ⟨fs', hfs', h⟩ := Except.bind_eq_ok.mp h
    cases h
    intro g hg
    rcases List.mem_cons.mp hg with rfl | hg
    · exact ScoreFunction.decode_sound (Except.mapError_eq_ok.mp hf)
    · exact ScoreFunction.decodeItems_sound hfs' g hg
termination_by 4 * sizeOf items
decreasing_by all_goals (subst_vars; simp -failIfUnchanged only [List.cons.sizeOf_spec]; omega)

theorem ScoreFunction.decode_sound {v : Json} {f : ScoreFunction}
    (h : ScoreFunction.decode v = .ok f) : f.Sound := by
  unfold ScoreFunction.decode at h
  split at h
  · exact ScoreFunction.decodeMembers_sound (Except.mapError_eq_ok.mp h)
  · cases h
termination_by 4 * sizeOf v + 2
decreasing_by all_goals (subst_vars; simp -failIfUnchanged only [Json.obj.sizeOf_spec]; omega)

theorem ScoreFunction.decodeMembers_sound {ms : Json.Members} {f : ScoreFunction}
    (h : ScoreFunction.decodeMembers ms = .ok f) : f.Sound := by
  unfold ScoreFunction.decodeMembers at h
  obtain ⟨body, -, h⟩ := Except.bind_eq_ok.mp h
  obtain ⟨filter, hfilter, h⟩ := Except.bind_eq_ok.mp h
  obtain ⟨params, -, h⟩ := Except.bind_eq_ok.mp h
  cases h
  exact Query.decodeSlot_sound hfilter
termination_by 4 * sizeOf ms + 1
decreasing_by all_goals (subst_vars; omega)

end

/-! ### Building -/

mutual

theorem ClauseRecord.build_sound {r : ClauseRecord} {c : Clause} (h : r.build = .ok c) :
    c.Sound := by
  cases r
  case bool must filter should mustNot given =>
    rw [ClauseRecord.build] at h
    obtain ⟨params, -, h⟩ := Except.bind_eq_ok.mp h
    obtain ⟨m, hm, h⟩ := Except.bind_eq_ok.mp h
    obtain ⟨f, hf, h⟩ := Except.bind_eq_ok.mp h
    obtain ⟨s, hs, h⟩ := Except.bind_eq_ok.mp h
    obtain ⟨n, hn, h⟩ := Except.bind_eq_ok.mp h
    cases h
    exact Clause.sound_bool.mpr ⟨ClauseRecord.buildRole_sound hm, ClauseRecord.buildRole_sound hf,
      ClauseRecord.buildRole_sound hs, ClauseRecord.buildRole_sound hn⟩
  case boosting pos neg nb given =>
    rw [ClauseRecord.build] at h
    obtain ⟨p, hp, h⟩ := Except.bind_eq_ok.mp h
    -- each slot must come out set, or the build fails
    cases p with
    | none => cases h
    | some p =>
      obtain ⟨n, hn, h⟩ := Except.bind_eq_ok.mp h
      cases n with
      | none => cases h
      | some n =>
        obtain ⟨b, -, h⟩ := Except.bind_eq_ok.mp h
        obtain ⟨params, -, h⟩ := Except.bind_eq_ok.mp h
        cases h
        exact Clause.sound_boosting.mpr
          ⟨ClauseRecord.buildSlot_sound hp, ClauseRecord.buildSlot_sound hn⟩
  case constantScore filter given =>
    rw [ClauseRecord.build] at h
    obtain ⟨f, hf, h⟩ := Except.bind_eq_ok.mp h
    cases f with
    | none => cases h
    | some f =>
      obtain ⟨params, -, h⟩ := Except.bind_eq_ok.mp h
      cases h
      exact Clause.sound_constantScore.mpr (ClauseRecord.buildSlot_sound hf)
  case disMax queries given =>
    rw [ClauseRecord.build] at h
    obtain ⟨params, -, h⟩ := Except.bind_eq_ok.mp h
    obtain ⟨qs, hqs, h⟩ := Except.bind_eq_ok.mp h
    cases h
    exact Clause.sound_disMax.mpr (ClauseRecord.buildRole_sound hqs)
  case functionScore query functions given =>
    rw [ClauseRecord.build] at h
    obtain ⟨q, hq, h⟩ := Except.bind_eq_ok.mp h
    obtain ⟨fs, hfs, h⟩ := Except.bind_eq_ok.mp h
    obtain ⟨params, -, h⟩ := Except.bind_eq_ok.mp h
    cases h
    exact Clause.sound_functionScore.mpr
      ⟨ClauseRecord.buildSlot_sound hq, FunctionRecord.buildList_sound hfs⟩
  case scriptScore query script given =>
    rw [ClauseRecord.build] at h
    obtain ⟨q, hq, h⟩ := Except.bind_eq_ok.mp h
    cases q with
    | none => cases h
    | some q =>
      obtain ⟨s, -, h⟩ := Except.bind_eq_ok.mp h
      obtain ⟨params, -, h⟩ := Except.bind_eq_ok.mp h
      cases h
      exact Clause.sound_scriptScore.mpr (ClauseRecord.buildSlot_sound hq)
  case pattern | textMatch | bare =>
    rw [ClauseRecord.build] at h
    obtain ⟨q, -, rfl⟩ := Except.map_eq_ok.mp h
    split <;> exact Clause.sound_of_leaf rfl rfl
  all_goals
    rw [ClauseRecord.build] at h
    obtain ⟨q, -, rfl⟩ := Except.map_eq_ok.mp h
    exact Clause.sound_of_leaf rfl rfl
termination_by sizeOf r
decreasing_by
  all_goals
    subst_vars
    simp -failIfUnchanged only [ClauseRecord.bool.sizeOf_spec, ClauseRecord.boosting.sizeOf_spec,
      ClauseRecord.constantScore.sizeOf_spec, ClauseRecord.disMax.sizeOf_spec,
      ClauseRecord.functionScore.sizeOf_spec, ClauseRecord.scriptScore.sizeOf_spec]
    omega

theorem ClauseRecord.buildRole_sound {role : String} {rs : List ClauseRecord} {i : Nat}
    {cs : List Clause} (h : ClauseRecord.buildRole role rs i = .ok cs) : ∀ c ∈ cs, c.Stored := by
  cases rs with
  | nil =>
    rw [ClauseRecord.buildRole] at h
    cases h
    simp
  | cons r rest =>
    rw [ClauseRecord.buildRole] at h
    obtain ⟨c, hc, h⟩ := Except.bind_eq_ok.mp h
    obtain ⟨cs', hcs', h⟩ := Except.bind_eq_ok.mp h
    cases h
    have hrest := ClauseRecord.buildRole_sound hcs'
    split
    · exact hrest
    · rename_i hne
      intro d hd
      rcases List.mem_cons.mp hd with rfl | hd
      · exact ⟨by simpa using hne, ClauseRecord.build_sound (Except.mapError_eq_ok.mp hc)⟩
      · exact hrest d hd
termination_by sizeOf rs
decreasing_by all_goals (subst_vars; simp -failIfUnchanged only [List.cons.sizeOf_spec]; omega)

theorem ClauseRecord.buildQuery_sound {rs : List ClauseRecord} {q q' : Query} (hq : q.Sound)
    (h : ClauseRecord.buildQuery rs q = .ok q') : q'.Sound := by
  cases rs with
  | nil =>
    rw [ClauseRecord.buildQuery] at h
    cases h
    exact hq
  | cons r rest =>
    rw [ClauseRecord.buildQuery] at h
    obtain ⟨c, hc, h⟩ := Except.bind_eq_ok.mp h
    exact ClauseRecord.buildQuery_sound (hq.set (ClauseRecord.build_sound hc)) h
termination_by sizeOf rs
decreasing_by all_goals (subst_vars; simp -failIfUnchanged only [List.cons.sizeOf_spec]; omega)

theorem ClauseRecord.buildSlot_sound {role : String} {o : Option (List ClauseRecord)}
    {s : Option Query} (h : ClauseRecord.buildSlot role o = .ok s) : Query.SlotSound s := by
  cases o with
  | none =>
    rw [ClauseRecord.buildSlot] at h
    cases h
    exact Query.slotSound_none
  | some rs =>
    rw [ClauseRecord.buildSlot] at h
    obtain ⟨q, hq, h⟩ := Except.bind_eq_ok.mp h
    cases h
    intro q' hq'
    split at hq'
    · cases hq'
    · rename_i hne
      cases hq'
      exact ⟨by simpa using hne,
        ClauseRecord.buildQuery_sound Query.sound_empty (Except.mapError_eq_ok.mp hq)⟩
termination_by sizeOf o
decreasing_by all_goals (subst_vars; simp -failIfUnchanged only [Option.some.sizeOf_spec]; omega)

theorem FunctionRecord.build_sound {f : FunctionRecord} {g : ScoreFunction}
    (h : f.build = .ok g) : g.Sound := by
  cases f with
  | mk spec filter weight =>
    rw [FunctionRecord.build] at h
    obtain ⟨body, -, h⟩ := Except.bind_eq_ok.mp h
    obtain ⟨params, -, h⟩ := Except.bind_eq_ok.mp h
    obtain ⟨fl, hfl, h⟩ := Except.bind_eq_ok.mp h
    cases h
    exact ClauseRecord.buildSlot_sound hfl
termination_by sizeOf f
decreasing_by
  all_goals
    subst_vars
    simp -failIfUnchanged only [FunctionRecord.mk.sizeOf_spec]
    omega

theorem FunctionRecord.buildList_sound {fs : List FunctionRecord} {i : Nat}
    {gs : List ScoreFunction} (h : FunctionRecord.buildList fs i = .ok gs) :
    ∀ g ∈ gs, g.Sound := by
  cases fs with
  | nil =>
    rw [FunctionRecord.buildList] at h
    cases h
    simp
  | cons f rest =>
    rw [FunctionRecord.buildList] at h
    obtain ⟨g, hg, h⟩ := Except.bind_eq_ok.mp h
    obtain ⟨gs', hgs', h⟩ := Except.bind_eq_ok.mp h
    cases h
    intro g' hg'
    rcases List.mem_cons.mp hg' with rfl | hg'
    · exact FunctionRecord.build_sound (Except.mapError_eq_ok.mp hg)
    · exact FunctionRecord.buildList_sound hgs' g' hg'
termination_by sizeOf fs
decreasing_by all_goals (subst_vars; simp -failIfUnchanged only [List.cons.sizeOf_spec]; omega)

end

/-! ### Containers handed out -/

/-- The queries the library hands out: read from JSON, built from records, made of one sound
clause, and any of these after changes that store sound clauses. -/
inductive Query.Reachable : Query → Prop
  | decode {J : Json} {q : Query} : Query.decode J = .ok q → Query.Reachable q
  | build {rs : List ClauseRecord} {q : Query} : Query.ofRecords rs = .ok q → Query.Reachable q
  | ofClause {c : Clause} : c.Sound → Query.Reachable (Query.ofClause c)
  | change {q : Query} {chs : List Query.Change} : Query.Reachable q →
      (∀ c, .set c ∈ chs → c.Sound) → Query.Reachable (q.change chs)

theorem Query.Reachable.sound {q : Query} (h : q.Reachable) : q.Sound := by
  induction h with
  | decode h => exact Query.decode_sound h
  | build h => exact ClauseRecord.buildQuery_sound Query.sound_empty h
  | ofClause hc => exact Query.sound_empty.set hc
  | change _ hchs ih => exact ih.change hchs

/-- The clause lists the library hands out: read from JSON, built from records, made of sound
clauses, the empty list, and any of these after adding a sound clause or removing one. -/
inductive Clause.ListReachable : List Clause → Prop
  | decode {v : Json} {role : String} {cs : List Clause} :
      Clause.decodeList v role = .ok cs → Clause.ListReachable cs
  | build {role : String} {rs : List ClauseRecord} {i : Nat} {cs : List Clause} :
      ClauseRecord.buildRole role rs i = .ok cs → Clause.ListReachable cs
  | ofClauses {cs : List Clause} :
      (∀ c ∈ cs, c.Sound) → Clause.ListReachable (cs.foldl Clause.pushTo [])
  | clear : Clause.ListReachable []
  | push {cs : List Clause} {c : Clause} : Clause.ListReachable cs → c.Sound →
      Clause.ListReachable (Clause.pushTo cs c)
  | remove {cs : List Clause} (i : Nat) : Clause.ListReachable cs →
      Clause.ListReachable (Clause.removeAt cs i).1

theorem Clause.ListReachable.stored {cs : List Clause} (h : Clause.ListReachable cs) :
    ∀ c ∈ cs, c.Stored := by
  induction h with
  | decode h => exact Clause.decodeList_sound h
  | build h => exact ClauseRecord.buildRole_sound h
  | ofClauses hcs => exact Clause.stored_foldl_pushTo hcs [] (by simp)
  | clear => simp
  | push _ hc ih => exact Clause.stored_pushTo ih hc
  | remove i _ ih => exact fun d hd => ih d (Clause.mem_of_mem_removeAt hd)

/-- No container the library hands out holds an empty clause. A query read, built or made of
one clause, then changed, holds sound clauses with content only, so its three tests of
emptiness agree; storing, removing and clearing never store an empty clause; each kind's slot
holds the last clause with content stored for the kind since the kind was last removed; records
are built, then stored, in order; the clause lists handed out hold sound clauses with content
and write no `null`; the clauses built, read or edited are sound, so none of their nested query
slots holds a query without content, and none of their lists or slots is written as `null`. -/
theorem containers_holdNoEmptyClause :
    (∀ q : Query, q.Reachable →
      (∀ c ∈ q.clauses, c.isEmpty = false ∧ c.Sound) ∧
        (q.len = 0 ↔ q.isEmpty = true) ∧ (q.isEmpty = true ↔ q.toJson = .null)) ∧
    (∀ (q : Query) (chs : List Query.Change), (∀ c ∈ q.clauses, c.isEmpty = false) →
      ∀ c ∈ (q.change chs).clauses, c.isEmpty = false) ∧
    (∀ (q : Query) (chs : List Query.Change) (k : QueryKind) (c : Clause),
      (q.change chs).get? k = some c ↔
        (c.kind = k ∧ c.isEmpty = false ∧
          ∃ pre post, chs = pre ++ .set c :: post ∧ ∀ ch ∈ post, ch.touches k = false) ∨
        (q.get? k = some c ∧ ∀ ch ∈ chs, ch.touches k = false)) ∧
    (∀ rs : List ClauseRecord, Query.ofRecords rs =
      (rs.mapM ClauseRecord.build).map fun cs => Query.empty.change (cs.map .set)) ∧
    (∀ cs : List Clause, Clause.ListReachable cs →
      (∀ c ∈ cs, c.isEmpty = false ∧ c.Sound) ∧ Json.null ∉ Clause.envelopes cs) ∧
    (∀ (r : ClauseRecord) (c : Clause), r.build = .ok c → c.Sound) ∧
    (∀ (k : QueryKind) (body : Json) (c : Clause), Clause.decodeBody k body = .ok c → c.Sound) ∧
    (∀ (c c' : Clause) (e : ClauseEdit) (removed : Option Clause), c.Sound → e.Sound →
      c.edit e = .ok (c', removed) → c'.Sound) ∧
    (∀ c : Clause, c.Sound →
      (∀ o ∈ c.slots, ∀ q, o = some q → q.isEmpty = false ∧ q.toJson ≠ .null) ∧
        (∀ l ∈ c.lists, Json.null ∉ Clause.envelopes l) ∧ ∀ d ∈ c.held, d.Sound) := by
  refine ⟨fun q hq => ?_, fun q chs hq => Query.content_change hq chs,
    fun q chs k c => Query.get?_change_eq_some_iff, Query.ofRecords_eq, fun cs hcs => ?_,
    fun r c h => ClauseRecord.build_sound h, fun k body c h => Clause.decodeBody_sound h,
    fun c c' e removed hc he h => hc.edit he h, fun c hc => ?_⟩
  · have hs := hq.sound
    have hcontent : ∀ c ∈ q.clauses, c.isEmpty = false := fun c hc => (hs c hc).1
    exact ⟨hs, Query.len_eq_zero_iff hcontent, (Query.toJson_eq_null_iff q).symm⟩
  · have hs := hcs.stored
    exact ⟨hs, Clause.null_not_mem_envelopes fun c hc => (hs c hc).1⟩
  · obtain ⟨hlists, hslots⟩ := hc.writesNoNull
    exact ⟨hslots, hlists, hc.held⟩

end SearchDsl
