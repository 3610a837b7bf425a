import SearchDsl.Proofs.Query.Compound
/-!
Everything the readers read reads back from its JSON: a query from its object, a clause from its
envelope, a clause list from its array of envelopes.

The readers are one family, total by the size of the JSON they read, and so is the proof: each
reader has a lemma here saying what its results guarantee, with the reader's own measure, and
each lemma uses the others exactly where the reader calls the others. A query read is readable
(its clauses sorted by kind and each reading back); a clause read by kind reads back by that
kind unless empty; a clause list read holds only clauses that read back; a function read reads
back. The read-back of each kind's body is in the modules this one imports.
-/
set_option autoImplicit false

namespace SearchDsl

namespace Clause

theorem rereads_of_decodeBody {k : QueryKind} {c : Clause}
    (h : c.kind = k ∧ (c.isEmpty = false → decodeBody k c.body = .ok c)) :
    c.isEmpty = false → c.Rereads :=
  fun hne => ⟨hne, h.1 ▸ h.2 hne⟩

theorem pushTo_rereads {acc : List Clause} {c : Clause} (hacc : ∀ d ∈ acc, d.Rereads)
    (hc : c.isEmpty = false → c.Rereads) : ∀ d ∈ pushTo acc c, d.Rereads := by
  unfold pushTo
  split
  · exact hacc
  · rename_i hne
    intro d hd
    rcases List.mem_append.mp hd with hd | hd
    · exact hacc d hd
    · rw [List.mem_singleton] at hd
      subst hd
      exact hc (by simpa using hne)

end Clause

mutual

theorem Query.decode_readable {v : Json} {q : Query} (h : Query.decode v = .ok q) : q.Readable := by
  unfold Query.decode at h
  split at h
  · cases h
    exact Query.readable_empty
  · exact Query.decodeMembers_readable Query.readable_empty h
  · cases h
termination_by 4 * sizeOf v + 3
decreasing_by all_goals (subst_vars; simp -failIfUnchanged only [Json.obj.sizeOf_spec]; omega)

theorem Query.decodeMembers_readable {whole : Json} {ms : Json.Members} {acc q : Query}
    (hacc : acc.Readable) (h : Query.decodeMembers whole ms acc = .ok q) : q.Readable := by
  unfold Query.decodeMembers at h
  split at h
  · cases h
    exact hacc
  · obtain ⟨k, -, h⟩ := Except.bind_eq_ok.mp h
    obtain ⟨c, hc, h⟩ := Except.bind_eq_ok.mp h
    exact Query.decodeMembers_readable
      (hacc.set (Clause.rereads_of_decodeBody (Clause.decodeBody_rereads hc))) h
termination_by 4 * sizeOf ms
decreasing_by
  all_goals
    subst_vars
    simp -failIfUnchanged only [List.cons.sizeOf_spec, Prod.mk.sizeOf_spec]
    omega

/-- A nested query read from a slot is readable and has content. -/
theorem Query.decodeSlot_readable {ms : Json.Members} {role : String} {o : Option Query}
    (h : Query.decodeSlot ms role = .ok o) : ∀ q, o = some q → q.Readable ∧ q.isEmpty = false := by
  unfold Query.decodeSlot at h
  split at h
  · cases h
    intro q hq
    cases hq
  · rename_i v hv
    have := Json.Members.sizeOf_lt_of_get? hv
    split at h
    · rename_i q' hq'
      cases h
      intro q hq
      split at hq
      · cases hq
      · rename_i hne
        cases hq
        exact ⟨Query.decode_readable hq', by simpa using hne⟩
    · cases h
termination_by 4 * sizeOf ms
decreasing_by all_goals (subst_vars; omega)

theorem Clause.decodeBody_rereads {k : QueryKind} {body : Json} {c : Clause}
    (h : Clause.decodeBody k body = .ok c) :
    c.kind = k ∧ (c.isEmpty = false → Clause.decodeBody k c.body = .ok c) := by
  obtain ⟨hk, hback⟩ := Clause.decodeKind_rereads (Clause.decodeBody_eq_ok.mp h)
  exact ⟨hk, fun hne => Clause.decodeBody_eq_ok.mpr (hback hne)⟩
termination_by 4 * sizeOf body + 3
decreasing_by all_goals omega

theorem Clause.decodeKind_rereads {k : QueryKind} {body : Json} {c : Clause}
    (h : Clause.decodeKind k body = .ok c) :
    c.kind = k ∧ (c.isEmpty = false → Clause.decodeKind k c.body = .ok c) :=
  Clause.decodeKind_rereads_of h fun hc => Clause.decodeCompound_rereads hc
termination_by 4 * sizeOf body + 2
decreasing_by all_goals omega

theorem Clause.decodeCompound_rereads {k : QueryKind} {body : Json} {c : Clause}
    (h : Clause.decodeCompound k body = .ok c) :
    c.kind = k ∧ (c.isEmpty = false → Clause.decodeCompound k c.body = .ok c) := by
  unfold Clause.decodeCompound at h
  split at h
  · cases h
    exact Clause.empty_rereads k
  · exact Clause.decodeCompoundMembers_rereads h
  · cases h
termination_by 4 * sizeOf body + 1
decreasing_by all_goals (subst_vars; simp -failIfUnchanged only [Json.obj.sizeOf_spec]; omega)

theorem Clause.decodeCompoundMembers_rereads {k : QueryKind} {ms : Json.Members} {c : Clause}
    (h : Clause.decodeCompoundMembers k ms = .ok c) :
    c.kind = k ∧ (c.isEmpty = false → Clause.decodeCompound k c.body = .ok c) :=
  Clause.decodeCompoundMembers_rereads_of
    ⟨fun hr => Clause.decodeRole_rereads hr, fun hs => Query.decodeSlot_readable hs,
      fun hf => ScoreFunction.decodeSlotList_rereads hf⟩ h
termination_by 4 * sizeOf ms + 1
decreasing_by all_goals omega

theorem Clause.decodeRole_rereads {ms : Json.Members} {role : String} {cs : List Clause}
    (h : Clause.decodeRole ms role = .ok cs) : ∀ c ∈ cs, c.Rereads := by
  unfold Clause.decodeRole at h
  split at h
  · cases h
    simp
  · rename_i v hv
    have := Json.Members.sizeOf_lt_of_get? hv
    exact Clause.decodeList_rereads h
termination_by 4 * sizeOf ms
decreasing_by all_goals omega

theorem Clause.decodeList_rereads {v : Json} {role : String} {cs : List Clause}
    (h : Clause.decodeList v role = .ok cs) : ∀ c ∈ cs, c.Rereads := by
  unfold Clause.decodeList at h
  split at h
  · cases h
    simp
  · exact Clause.decodeItems_rereads (by simp) h
  · exact Clause.pushMembers_rereads (by simp) (Except.mapError_eq_ok.mp h)
  · cases h
termination_by 4 * sizeOf v + 2
decreasing_by
  all_goals
    subst_vars
    simp -failIfUnchanged only [Json.obj.sizeOf_spec, Json.arr.sizeOf_spec]
    omega

theorem Clause.decodeItems_rereads {items : List Json} {role : String} {i : Nat}
    {acc cs : List Clause} (hacc : ∀ c ∈ acc, c.Rereads)
    (h : Clause.decodeItems items role i acc = .ok cs) : ∀ c ∈ cs, c.Rereads := by
  unfold Clause.decodeItems at h
  split at h
  · cases h
    exact hacc
  · obtain ⟨acc', hacc', h⟩ := Except.bind_eq_ok.mp h
    exact Clause.decodeItems_rereads (Clause.pushItem_rereads hacc (Except.mapError_eq_ok.mp hacc')) h
termination_by 4 * sizeOf items
decreasing_by all_goals (subst_vars; simp -failIfUnchanged only [List.cons.sizeOf_spec]; omega)

theorem Clause.pushItem_rereads {item : Json} {acc cs : List Clause} (hacc : ∀ c ∈ acc, c.Rereads)
    (h : Clause.pushItem item acc = .ok cs) : ∀ c ∈ cs, c.Rereads := by
  unfold Clause.pushItem at h
  split at h
  · cases h
    exact hacc
  · exact Clause.pushMembers_rereads hacc h
  · cases h
termination_by 4 * sizeOf item + 1
decreasing_by all_goals (subst_vars; simp -failIfUnchanged only [Json.obj.sizeOf_spec]; omega)

theorem Clause.pushMembers_rereads {ms : Json.Members} {acc cs : List Clause}
    (hacc : ∀ c ∈ acc, c.Rereads) (h : Clause.pushMembers ms acc = .ok cs) :
    ∀ c ∈ cs, c.Rereads := by
  unfold Clause.pushMembers at h
  split at h
  · cases h
    exact hacc
  · split at h
    · exact Clause.pushMembers_rereads hacc h
    · obtain ⟨c, hc, h⟩ := Except.bind_eq_ok.mp h
      exact Clause.pushMembers_rereads (Clause.pushTo_rereads hacc
        (Clause.rereads_of_decodeBody (Clause.decodeBody_rereads hc))) h
termination_by 4 * sizeOf ms
decreasing_by
  all_goals
    subst_vars
    simp -failIfUnchanged only [List.cons.sizeOf_spec, Prod.mk.sizeOf_spec]
    omega

theorem ScoreFunction.decodeSlotList_rereads {ms : Json.Members} {fs : List ScoreFunction}
    (h : ScoreFunction.decodeSlotList ms = .ok fs) : ∀ f ∈ fs, f.Rereads := by
  unfold ScoreFunction.decodeSlotList at h
  split at h
  · cases h
    simp
  · cases h
    simp
  · rename_i items hitems
    have hlt := Json.Members.sizeOf_items_lt_of_get? hitems
    exact ScoreFunction.decodeItems_rereads h
  · cases h
termination_by 4 * sizeOf ms
decreasing_by all_goals omega

theorem ScoreFunction.decodeItems_rereads {items : List Json} {i : Nat} {fs : List ScoreFunction}
    (h : ScoreFunction.decodeItems items i = .ok fs) : ∀ f ∈ fs, f.Rereads := by
  unfold ScoreFunction.decodeItems at h
  split at h
  · cases h
    simp
  · obtain ⟨f, hf, h⟩ := Except.bind_eq_ok.mp h
    obtain ⟨fs', hfs', h⟩ := Except.bind_eq_ok.mp h
    cases h
    intro g hg
    rcases List.mem_cons.mp hg with rfl | hg
    · exact ScoreFunction.decode_rereads (Except.mapError_eq_ok.mp hf)
    · exact ScoreFunction.decodeItems_rereads hfs' g hg
termination_by 4 * sizeOf items
decreasing_by all_goals (subst_vars; simp -failIfUnchanged only [List.cons.sizeOf_spec]; omega)

theorem ScoreFunction.decode_rereads {v : Json} {f : ScoreFunction}
    (h : ScoreFunction.decode v = .ok f) : f.Rereads := by
  unfold ScoreFunction.decode at h
  split at h
  · exact ScoreFunction.decodeMembers_rereads (Except.mapError_eq_ok.mp h)
  · cases h
termination_by 4 * sizeOf v + 2
decreasing_by all_goals (subst_vars; simp -failIfUnchanged only [Json.obj.sizeOf_spec]; omega)

theorem ScoreFunction.decodeMembers_rereads {ms : Json.Members} {f : ScoreFunction}
    (h : ScoreFunction.decodeMembers ms = .ok f) : f.Rereads := by
  unfold ScoreFunction.decodeMembers at h
  obtain ⟨body, hbody, h⟩ := Except.bind_eq_ok.mp h
  obtain ⟨filter, hfilter, h⟩ := Except.bind_eq_ok.mp h
  obtain ⟨params, hp, h⟩ := Except.bind_eq_ok.mp h
  cases h
  obtain ⟨hof, hw⟩ := FunctionBody.readWeight_eq_ok hp
  exact ScoreFunction.rereads_of (FunctionBody.decodeIn_readable hbody)
    (Query.decodeSlot_readable hfilter) (Params.ofMembers_canonical hof) hw
termination_by 4 * sizeOf ms + 1
decreasing_by all_goals (subst_vars; omega)

end

/-- Reading queries, clauses and clause lists is undone by writing them: a query read from any
JSON reads back from its JSON; a clause read by kind from any body reads back from its envelope
unless empty; a clause list read from any JSON reads back from its array of envelopes. -/
theorem readBack_of_decode :
    (∀ (J : Json) (q : Query), Query.decode J = .ok q → Query.decode q.toJson = .ok q) ∧
    (∀ (k : QueryKind) (B : Json) (c : Clause), Clause.decodeBody k B = .ok c →
      c.isEmpty = false → Clause.ofEnvelope c.envelope = .ok c) ∧
    (∀ (J : Json) (l : List Clause), Clause.decodeTopList J = .ok l →
      Clause.decodeTopList (.arr (Clause.envelopes l)) = .ok l) := by
  refine ⟨fun J q h => Query.decode_toJson (Query.decode_readable h), fun k B c h hne => ?_,
    fun J l h => Clause.decodeList_envelopes (Clause.decodeList_rereads h) ""⟩
  obtain ⟨hk, hback⟩ := Clause.decodeBody_rereads h
  simp [Clause.envelope, hne, Clause.ofEnvelope, hk, QueryKind.parse_tag, hback hne]

end SearchDsl
