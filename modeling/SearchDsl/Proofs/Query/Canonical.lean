import SearchDsl.Proofs.Json.Canonical
import SearchDsl.Proofs.Query.Changes
/-!
The JSON of a query is canonical.

Every writer of the query language builds its objects with `Json.mkObj` or as objects of one
member, from values that are canonical in turn: texts, numbers, flags, settings and arrays of
them. The one value a query stores as given is a script's parameters. So the JSON of a clause
is canonical when the parameters of its scripts are, and a query read from canonical JSON,
whose scripts' parameters come from it, writes canonical JSON. Sorting the members of such JSON
changes nothing, which is what lets a search body carry its query through a deep sort.
-/
set_option autoImplicit false

namespace SearchDsl

open Json (Canonical ValuesCanonical canonical_mkObj canonical_single)

/-! ### Values without objects -/

@[simp] theorem Number.toJson_canonical (n : Number) : n.toJson.Canonical := by
  cases n <;> simp [Number.toJson]

@[simp] theorem Scalar.toJson_canonical (s : Scalar) : s.toJson.Canonical := by
  cases s <;> simp [Scalar.toJson]

@[simp] theorem Setting.toJson_canonical (s : Setting) : s.toJson.Canonical := by
  cases s <;> simp [Setting.toJson]

@[simp] theorem namesJson_canonical (xs : List String) : (namesJson xs).Canonical :=
  .arr (by simp)

@[simp] theorem Params.members_canonical (ps : Params) (declared : List Param) :
    ValuesCanonical (ps.members declared) := by
  intro p hp
  obtain ⟨q, -, hq⟩ := List.mem_filterMap.mp hp
  obtain ⟨s, -, rfl⟩ := Option.map_eq_some_iff.mp hq
  exact Setting.toJson_canonical s

namespace Shape

@[simp] theorem opt_canonical {key : String} {o : Option Json} :
    ValuesCanonical (opt key o) ↔ ∀ v, o = some v → v.Canonical := by
  cases o <;> simp [opt]

@[simp] theorem nonEmpty_canonical (key s : String) : ValuesCanonical (nonEmpty key s) := by
  unfold nonEmpty
  split <;> simp

theorem wrapField_canonical {field : String} {inner : List (String × Json)}
    (h : ValuesCanonical inner) : (wrapField field inner).Canonical :=
  canonical_single (canonical_mkObj h)

end Shape

/-! ### Leaf clauses -/

theorem canonical_ite_null {c : Bool} {v : Json} (h : v.Canonical) :
    (if c = true then Json.null else v).Canonical := by
  split
  · exact .null
  · exact h

theorem TermQuery.body_canonical (q : TermQuery) : q.body.Canonical :=
  canonical_ite_null (Shape.wrapField_canonical (by simp))

@[simp] theorem TermsQuery.sourceJson_canonical (src : TermsSource) :
    (TermsQuery.sourceJson src).Canonical := by
  cases src with
  | values vs => exact .arr (by simp)
  | lookup l => exact canonical_mkObj (by simp)

theorem TermsQuery.body_canonical (q : TermsQuery) : q.body.Canonical :=
  canonical_ite_null (canonical_mkObj (by simp))

theorem MatchQuery.body_canonical (k : QueryKind) (q : MatchQuery) : (q.body k).Canonical :=
  canonical_ite_null (Shape.wrapField_canonical (by simp))

theorem BareQuery.body_canonical (k : QueryKind) (q : BareQuery) : (q.body k).Canonical :=
  canonical_ite_null (canonical_mkObj (by simp))

theorem MultiMatchQuery.body_canonical (q : MultiMatchQuery) : q.body.Canonical :=
  canonical_ite_null (canonical_mkObj (by simp))

theorem QueryStringQuery.body_canonical (q : QueryStringQuery) : q.body.Canonical :=
  canonical_ite_null (canonical_mkObj (by simp))

theorem SimpleQueryStringQuery.body_canonical (q : SimpleQueryStringQuery) : q.body.Canonical :=
  canonical_ite_null (canonical_mkObj (by simp))

theorem ExistsQuery.body_canonical (q : ExistsQuery) : q.body.Canonical :=
  canonical_ite_null (canonical_mkObj (by simp))

theorem PatternQuery.body_canonical (k : QueryKind) (q : PatternQuery) : (q.body k).Canonical :=
  canonical_ite_null (Shape.wrapField_canonical (by simp))

theorem RegexpQuery.body_canonical (q : RegexpQuery) : q.body.Canonical :=
  canonical_ite_null (Shape.wrapField_canonical (by simp))

theorem RangeQuery.body_canonical (q : RangeQuery) : q.body.Canonical :=
  canonical_ite_null (Shape.wrapField_canonical (by simp [Bounds.members]))

theorem IdsQuery.body_canonical (q : IdsQuery) : q.body.Canonical :=
  canonical_ite_null (canonical_mkObj (by simp))

/-! ### Shapes of bodies -/

theorem Shape.flat_canonical {v : Json} {ms : Json.Members} (hv : v.Canonical)
    (h : Shape.flat v = .ok (some ms)) : ValuesCanonical ms := by
  unfold Shape.flat at h
  split at h
  · cases h
  · cases h
    exact hv.members
  · cases h

theorem Shape.fieldKeyed_canonical {v : Json} {shortcut : Option String} {field : String}
    {ms : Json.Members} (hv : v.Canonical) (h : Shape.fieldKeyed v shortcut = .ok (some (field, ms))) :
    ValuesCanonical ms := by
  unfold Shape.fieldKeyed at h
  split at h
  · cases h
  · cases h
  · rename_i f inner
    have hinner : inner.Canonical := hv.members (f, inner) List.mem_cons_self
    split at h
    · cases h
      exact hinner.members
    · cases h
      exact ValuesCanonical.nil
    · cases h
    · split at h
      · cases h
        simpa using hinner
      · cases h
  · cases h
  · cases h

/-! ### Scripts -/

namespace Script

theorem toJson_canonical {s : Script} (h : (Json.obj s.params).Canonical) : s.toJson.Canonical :=
  canonical_mkObj (by simp [h])

theorem decode_canonical {v : Json} {s : Script} (hv : v.Canonical) (h : decode v = .ok s) :
    s.toJson.Canonical := by
  refine toJson_canonical ?_
  unfold decode at h
  split at h
  · cases h
    exact Json.canonical_empty
  · cases h
    exact Json.canonical_empty
  · rename_i ms
    dsimp only at h
    split at h
    all_goals
      obtain ⟨params, hparams, h⟩ := Except.bind_eq_ok.mp h
      obtain ⟨source, -, h⟩ := Except.bind_eq_ok.mp h
      obtain ⟨id, -, h⟩ := Except.bind_eq_ok.mp h
      obtain ⟨lang, -, h⟩ := Except.bind_eq_ok.mp h
      cases h
    · cases hparams
      exact Json.canonical_empty
    · cases hparams
      exact Json.canonical_empty
    · cases hparams
      exact hv.get? ‹_›
    · cases hparams
  · cases h

end Script

theorem ScriptQuery.body_canonical {q : ScriptQuery} (h : q.script.toJson.Canonical) :
    q.body.Canonical :=
  canonical_ite_null (canonical_mkObj (by simp [h]))

theorem ScriptQuery.decode_canonical {v : Json} {q : ScriptQuery} (hv : v.Canonical)
    (h : ScriptQuery.decode v = .ok q) : q.body.Canonical := by
  refine ScriptQuery.body_canonical ?_
  unfold ScriptQuery.decode at h
  obtain ⟨o, ho, h⟩ := Except.bind_eq_ok.mp h
  rcases o with _ | ms
  · cases h
    exact Script.toJson_canonical Json.canonical_empty
  · have hms := Shape.flat_canonical hv ho
    dsimp only at h
    split at h
    all_goals
      obtain ⟨script, hs, h⟩ := Except.bind_eq_ok.mp h
      obtain ⟨params, -, h⟩ := Except.bind_eq_ok.mp h
      split at h
      · cases h
    · cases h
      exact Script.decode_canonical (hms.get? ‹_›) hs
    · cases hs
      cases h
      exact Script.toJson_canonical Json.canonical_empty
/-! ### Intervals rules -/

namespace Rule

theorem mem_listJson {rs : List Rule} {j : Json} (h : j ∈ listJson rs) : ∃ r ∈ rs, j = r.toJson := by
  induction rs with
  | nil => simp [listJson] at h
  | cons r rest ih =>
    rw [listJson] at h
    rcases List.mem_cons.mp h with rfl | h
    · exact ⟨r, List.mem_cons_self, rfl⟩
    · obtain ⟨r', hr', rfl⟩ := ih h
      exact ⟨r', List.mem_cons_of_mem r hr', rfl⟩

theorem listJson_canonical {rs : List Rule} (h : ∀ r ∈ rs, r.toJson.Canonical) :
    (Json.arr (listJson rs)).Canonical :=
  .arr fun j hj => by
    obtain ⟨r, hr, rfl⟩ := mem_listJson hj
    exact h r hr

@[simp] theorem gapMembers_canonical (g : Int) (o : Bool) : ValuesCanonical (gapMembers g o) := by
  simp [gapMembers]

end Rule

namespace IntervalFilter

@[simp] theorem member_canonical {o : Option IntervalFilter} :
    ValuesCanonical (member o) ↔ ∀ f, o = some f → f.toJson.Canonical := by
  cases o <;> simp [member]

theorem relate_eq_ok {rel : String} {r : Rule} {f : IntervalFilter} (h : relate rel r = .ok f) :
    f = .related rel r := by
  unfold relate at h
  split at h
  · cases h
    rfl
  · cases h

end IntervalFilter

mutual

theorem Rule.decode_canonical {v : Json} {r : Rule} (hv : v.Canonical) (h : Rule.decode v = .ok r) :
    r.toJson.Canonical := by
  unfold Rule.decode at h
  split at h
  · obtain ⟨k, -, h⟩ := Except.bind_eq_ok.mp h
    rw [Rule.toJson]
    exact canonical_single
      (Rule.decodeBody_canonical (hv.members _ List.mem_cons_self) (Except.mapError_eq_ok.mp h))
  all_goals cases h
termination_by 4 * sizeOf v + 3
decreasing_by
  all_goals
    subst_vars
    simp -failIfUnchanged only [List.cons.sizeOf_spec, Prod.mk.sizeOf_spec, Json.obj.sizeOf_spec,
      List.nil.sizeOf_spec]
    omega

theorem Rule.decodeBody_canonical {k : RuleKind} {body : Json} {r : Rule} (hb : body.Canonical)
    (h : Rule.decodeBody k body = .ok r) : r.bodyJson.Canonical := by
  unfold Rule.decodeBody at h
  split at h
  · exact Rule.decodeMembers_canonical hb.members h
  · exact Rule.decodeMembers_canonical ValuesCanonical.nil h
  · cases h
termination_by 4 * sizeOf body + 2
decreasing_by
  all_goals
    subst_vars
    simp -failIfUnchanged only [Json.obj.sizeOf_spec, List.nil.sizeOf_spec, Json.null.sizeOf_spec]
    omega

theorem Rule.decodeMembers_canonical {k : RuleKind} {ms : Json.Members} {r : Rule}
    (hms : ValuesCanonical ms) (h : Rule.decodeMembers k ms = .ok r) : r.bodyJson.Canonical := by
  cases k with
  | matchText =>
    rw [Rule.decodeMembers] at h
    obtain ⟨t, -, h⟩ := Except.bind_eq_ok.mp h
    obtain ⟨query, -, h⟩ := Except.bind_eq_ok.mp h
    obtain ⟨g, -, h⟩ := Except.bind_eq_ok.mp h
    obtain ⟨o, -, h⟩ := Except.bind_eq_ok.mp h
    obtain ⟨u, -, h⟩ := Except.bind_eq_ok.mp h
    obtain ⟨f, hf, h⟩ := Except.bind_eq_ok.mp h
    obtain ⟨ps, -, h⟩ := Except.bind_eq_ok.mp h
    cases h
    rw [Rule.bodyJson]
    exact canonical_mkObj (by simpa using IntervalFilter.decodeSlot_canonical hms hf)
  | termPrefix | wildcard | fuzzy =>
    rw [Rule.decodeMembers] at h
    obtain ⟨t, -, h⟩ := Except.bind_eq_ok.mp h
    obtain ⟨text, -, h⟩ := Except.bind_eq_ok.mp h
    obtain ⟨u, -, h⟩ := Except.bind_eq_ok.mp h
    obtain ⟨ps, -, h⟩ := Except.bind_eq_ok.mp h
    cases h
    rw [Rule.bodyJson]
    exact canonical_mkObj (by simp)
  | allOf | anyOf =>
    rw [Rule.decodeMembers] at h
    obtain ⟨cs, hcs, h⟩ := Except.bind_eq_ok.mp h
    obtain ⟨cs', hreq, h⟩ := Except.bind_eq_ok.mp h
    obtain ⟨g, -, h⟩ := Except.bind_eq_ok.mp h
    obtain ⟨o, -, h⟩ := Except.bind_eq_ok.mp h
    obtain ⟨f, hf, h⟩ := Except.bind_eq_ok.mp h
    cases h
    obtain ⟨rfl, -⟩ := Rule.requiredRules_eq_ok hreq
    rw [Rule.bodyJson]
    exact canonical_mkObj (by simpa [Rule.listJson_canonical (Rule.decodeChildren_canonical hms hcs)]
      using IntervalFilter.decodeSlot_canonical hms hf)
termination_by 4 * sizeOf ms + 1
decreasing_by all_goals (subst_vars; omega)

theorem Rule.decodeChildren_canonical {k : RuleKind} {ms : Json.Members} {rs : List Rule}
    (hms : ValuesCanonical ms) (h : Rule.decodeChildren k ms = .ok rs) :
    ∀ r ∈ rs, r.toJson.Canonical := by
  unfold Rule.decodeChildren at h
  split at h
  · cases h
    simp
  · cases h
    simp
  · rename_i items hitems
    have hlt := Json.Members.sizeOf_items_lt_of_get? hitems
    exact Rule.decodeItems_canonical (hms.get? hitems).items h
  · cases h
termination_by 4 * sizeOf ms
decreasing_by all_goals omega

theorem Rule.decodeItems_canonical {k : RuleKind} {items : List Json} {i : Nat} {rs : List Rule}
    (hitems : ∀ v ∈ items, v.Canonical) (h : Rule.decodeItems k items i = .ok rs) :
    ∀ r ∈ rs, r.toJson.Canonical := by
  unfold Rule.decodeItems at h
  split at h
  · cases h
    simp
  · obtain ⟨r, hr, h⟩ := Except.bind_eq_ok.mp h
    obtain ⟨rs', hrs, h⟩ := Except.bind_eq_ok.mp h
    cases h
    have hcons := List.forall_mem_cons.mp hitems
    intro x hx
    rcases List.mem_cons.mp hx with rfl | hx
    · exact Rule.decode_canonical hcons.1 (Except.mapError_eq_ok.mp hr)
    · exact Rule.decodeItems_canonical hcons.2 hrs x hx
termination_by 4 * sizeOf items
decreasing_by all_goals (subst_vars; simp -failIfUnchanged only [List.cons.sizeOf_spec]; omega)

theorem IntervalFilter.decodeSlot_canonical {ms : Json.Members} {o : Option IntervalFilter}
    (hms : ValuesCanonical ms) (h : IntervalFilter.decodeSlot ms = .ok o) :
    ∀ f, o = some f → f.toJson.Canonical := by
  unfold IntervalFilter.decodeSlot at h
  split at h
  · cases h
    simp
  · cases h
    simp
  · rename_i raw _ hraw
    have := Json.Members.sizeOf_lt_of_get? hraw
    obtain ⟨f, hf, rfl⟩ := Except.map_eq_ok.mp h
    intro x hx
    cases hx
    exact IntervalFilter.decode_canonical (hms.get? hraw) hf
termination_by 4 * sizeOf ms
decreasing_by all_goals (subst_vars; omega)

theorem IntervalFilter.decode_canonical {v : Json} {f : IntervalFilter} (hv : v.Canonical)
    (h : IntervalFilter.decode v = .ok f) : f.toJson.Canonical := by
  unfold IntervalFilter.decode at h
  split at h
  · have hbody : _ := hv.members _ List.mem_cons_self
    split at h
    · obtain ⟨s, hs, rfl⟩ := Except.map_eq_ok.mp h
      rw [IntervalFilter.toJson]
      exact canonical_single (Script.decode_canonical hbody hs)
    · obtain ⟨r, hr, h⟩ := Except.bind_eq_ok.mp h
      rw [IntervalFilter.relate_eq_ok h, IntervalFilter.toJson]
      exact canonical_single (Rule.decode_canonical hbody (Except.mapError_eq_ok.mp hr))
  · cases h
termination_by 4 * sizeOf v + 3
decreasing_by
  all_goals
    subst_vars
    simp -failIfUnchanged only [List.cons.sizeOf_spec, Prod.mk.sizeOf_spec, Json.obj.sizeOf_spec,
      List.nil.sizeOf_spec]
    omega

end

theorem IntervalsQuery.body_canonical {q : IntervalsQuery}
    (h : ∀ r, q.rule = some r → r.bodyJson.Canonical) : q.body.Canonical := by
  unfold IntervalsQuery.body
  refine canonical_ite_null (Shape.wrapField_canonical ?_)
  cases hr : q.rule with
  | none => simp
  | some r => simpa using h r hr

theorem IntervalsQuery.decode_canonical {v : Json} {q : IntervalsQuery} (hv : v.Canonical)
    (h : IntervalsQuery.decode v = .ok q) : q.body.Canonical := by
  refine IntervalsQuery.body_canonical ?_
  unfold IntervalsQuery.decode at h
  obtain ⟨o, ho, h⟩ := Except.bind_eq_ok.mp h
  rcases o with _ | ⟨field, ms⟩
  · cases h
    intro r hr
    cases hr
  · have hms := Shape.fieldKeyed_canonical hv ho
    dsimp only at h
    split at h
    · rename_i k raw hpresent
      obtain ⟨r, hr, h⟩ := Except.bind_eq_ok.mp h
      obtain ⟨ps, -, h⟩ := Except.bind_eq_ok.mp h
      cases h
      have hraw : raw.Canonical := hms.of_mem_filterMap (hpresent ▸ List.mem_singleton_self _)
      intro r' hr'
      cases hr'
      exact Rule.decodeBody_canonical hraw (Except.mapError_eq_ok.mp hr)
    all_goals cases h

/-! ### Scoring functions -/

@[simp] theorem DecayFunction.toJson_canonical (d : DecayFunction) : d.toJson.Canonical :=
  canonical_mkObj (by simp [canonical_mkObj])

@[simp] theorem FactorFunction.toJson_canonical (f : FactorFunction) : f.toJson.Canonical :=
  canonical_mkObj (by simp)

@[simp] theorem RandomFunction.toJson_canonical (r : RandomFunction) : r.toJson.Canonical :=
  canonical_mkObj (by simp)

namespace FunctionBody

theorem toJson?_canonical {b : FunctionBody} (hs : ∀ s, b = .scriptScore s → s.toJson.Canonical) :
    ∀ j, b.toJson? = some j → j.Canonical := by
  intro j hj
  cases b with
  | decay d =>
    cases hj
    exact d.toJson_canonical
  | fieldValueFactor f =>
    cases hj
    exact f.toJson_canonical
  | scriptScore s =>
    cases hj
    exact canonical_single (hs s rfl)
  | randomScore r =>
    cases hj
    exact r.toJson_canonical
  | weight => cases hj

theorem decodeScript_canonical {v : Json} {s : Script} (hv : v.Canonical)
    (h : decodeScript v = .ok s) : s.toJson.Canonical := by
  have hreq : ∀ s' : Script, Script.required (some s') = .ok s → s = s' := by
    intro s' h'
    simp only [Script.required] at h'
    split at h'
    · cases h'
    · exact (Except.ok.inj h').symm
  unfold decodeScript at h
  dsimp only at h
  split at h
  · split at h
    · obtain ⟨s', hs', h⟩ := Except.bind_eq_ok.mp h
      rw [hreq s' h]
      exact Script.decode_canonical (hv.get? ‹_›) hs'
    · obtain ⟨s', hs', h⟩ := Except.bind_eq_ok.mp h
      cases hs'
      rw [hreq {} h]
      exact Script.toJson_canonical Json.canonical_empty
  · obtain ⟨s', hs', h⟩ := Except.bind_eq_ok.mp h
    cases hs'

theorem decodeIn_canonical {ms : Json.Members} {b : FunctionBody} (hms : ValuesCanonical ms)
    (h : decodeIn ms = .ok b) : ∀ j, b.toJson? = some j → j.Canonical := by
  refine toJson?_canonical fun s hb => ?_
  subst hb
  unfold decodeIn at h
  dsimp only at h
  split at h
  case h_6 raw hpresent =>
    obtain ⟨s', hs', hss⟩ := Except.map_eq_ok.mp h
    cases hss
    exact decodeScript_canonical (hms.of_mem_filterMap (hpresent ▸ List.mem_singleton_self _)) hs'
  case h_1 | h_8 => cases h
  -- every other function key reads a body of another kind
  all_goals
    obtain ⟨x, -, hx⟩ := Except.map_eq_ok.mp h
    cases hx

end FunctionBody

theorem shorthandOf_canonical {ms : Json.Members} (hms : ValuesCanonical ms) :
    ValuesCanonical (shorthandOf ms) := by
  unfold shorthandOf
  refine ValuesCanonical.ofList (ValuesCanonical.append_iff.mpr ⟨fun m hm => ?_, ?_⟩)
  · exact hms.of_mem_filterMap hm
  · split
    · exact ValuesCanonical.nil
    · exact ValuesCanonical.nil
    · simpa using hms.get? ‹_›

/-! ### Compound clauses and queries -/

namespace Clause

theorem body_eq_null {c : Clause} (h : c.isEmpty = true) : c.body = .null := by
  cases c <;> simp_all [Clause.body, Clause.isEmpty, TermQuery.body, TermsQuery.body, MatchQuery.body,
    BareQuery.body, MultiMatchQuery.body, QueryStringQuery.body, SimpleQueryStringQuery.body,
    ExistsQuery.body, PatternQuery.body, RegexpQuery.body, RangeQuery.body, IdsQuery.body,
    ScriptQuery.body, IntervalsQuery.body]

theorem body_empty_canonical (k : QueryKind) : (empty k).body.Canonical := by
  rw [body_eq_null (isEmpty_empty k)]
  exact .null

theorem envelope_canonical {c : Clause} (h : c.body.Canonical) : c.envelope.Canonical := by
  rw [envelope]
  exact canonical_ite_null (canonical_single h)

theorem mem_envelopes {cs : List Clause} {j : Json} (h : j ∈ envelopes cs) :
    ∃ c ∈ cs, j = c.envelope := by
  induction cs with
  | nil => simp [envelopes] at h
  | cons c rest ih =>
    rw [envelopes] at h
    rcases List.mem_cons.mp h with rfl | h
    · exact ⟨c, List.mem_cons_self, rfl⟩
    · obtain ⟨c', hc', rfl⟩ := ih h
      exact ⟨c', List.mem_cons_of_mem c hc', rfl⟩

theorem envelopes_canonical {cs : List Clause} (h : ∀ c ∈ cs, c.body.Canonical) :
    (Json.arr (envelopes cs)).Canonical :=
  .arr fun j hj => by
    obtain ⟨c, hc, rfl⟩ := mem_envelopes hj
    exact envelope_canonical (h c hc)

theorem roleMember_canonical {key : String} {cs : List Clause} (h : ∀ c ∈ cs, c.body.Canonical) :
    ValuesCanonical (roleMember key cs) := by
  rw [roleMember]
  split
  · exact ValuesCanonical.nil
  · exact ValuesCanonical.cons_iff.mpr ⟨envelopes_canonical h, ValuesCanonical.nil⟩

theorem mem_entries {cs : List Clause} {m : String × Json} (h : m ∈ entries cs) :
    ∃ c ∈ cs, m = (c.kind.tag, c.body) := by
  induction cs with
  | nil => simp [entries] at h
  | cons c rest ih =>
    rw [entries] at h
    split at h
    · obtain ⟨c', hc', rfl⟩ := ih h
      exact ⟨c', List.mem_cons_of_mem c hc', rfl⟩
    · rcases List.mem_cons.mp h with rfl | h
      · exact ⟨c, List.mem_cons_self, rfl⟩
      · obtain ⟨c', hc', rfl⟩ := ih h
        exact ⟨c', List.mem_cons_of_mem c hc', rfl⟩

theorem mem_pushTo {cs : List Clause} {c d : Clause} (h : d ∈ pushTo cs c) : d ∈ cs ∨ d = c := by
  unfold pushTo at h
  split at h
  · exact .inl h
  · rcases List.mem_append.mp h with h | h
    · exact .inl h
    · exact .inr (List.mem_singleton.mp h)

end Clause

theorem Query.toJson_canonical {q : Query} (h : ∀ c ∈ q.clauses, c.body.Canonical) :
    q.toJson.Canonical := by
  obtain ⟨cs⟩ := q
  rw [Query.toJson]
  split
  · exact .null
  · refine canonical_mkObj fun m hm => ?_
    obtain ⟨c, hc, rfl⟩ := Clause.mem_entries hm
    exact h c hc

@[simp] theorem Query.slotMember_canonical {key : String} {o : Option Query} :
    ValuesCanonical (Query.slotMember key o) ↔ ∀ q, o = some q → q.toJson.Canonical := by
  cases o <;> simp [Query.slotMember]

namespace ScoreFunction

theorem toJson_canonical {body : FunctionBody} {filter : Option Query} {params : Params}
    (hb : ∀ j, body.toJson? = some j → j.Canonical)
    (hf : ∀ q, filter = some q → q.toJson.Canonical) : (mk body filter params).toJson.Canonical := by
  rw [ScoreFunction.toJson]
  refine canonical_mkObj ?_
  simp only [ValuesCanonical.append_iff, Shape.opt_canonical, Query.slotMember_canonical,
    Params.members_canonical, and_true]
  exact ⟨hb, hf⟩

theorem mem_listJson {fs : List ScoreFunction} {j : Json} (h : j ∈ listJson fs) :
    ∃ f ∈ fs, j = f.toJson := by
  induction fs with
  | nil => simp [listJson] at h
  | cons f rest ih =>
    rw [listJson] at h
    rcases List.mem_cons.mp h with rfl | h
    · exact ⟨f, List.mem_cons_self, rfl⟩
    · obtain ⟨f', hf', rfl⟩ := ih h
      exact ⟨f', List.mem_cons_of_mem f hf', rfl⟩

theorem listJson_canonical {fs : List ScoreFunction} (h : ∀ f ∈ fs, f.toJson.Canonical) :
    (Json.arr (listJson fs)).Canonical :=
  .arr fun j hj => by
    obtain ⟨f, hf, rfl⟩ := mem_listJson hj
    exact h f hf

theorem ofShorthand_canonical {sh : Json.Members} {f : ScoreFunction} (hsh : ValuesCanonical sh)
    (h : ofShorthand sh = .ok f) : f.toJson.Canonical := by
  rw [ofShorthand, Except.mapError_eq_ok] at h
  obtain ⟨body, hbody, h⟩ := Except.bind_eq_ok.mp h
  obtain ⟨params, -, h⟩ := Except.bind_eq_ok.mp h
  cases h
  exact toJson_canonical (FunctionBody.decodeIn_canonical hsh hbody) fun q hq => by cases hq

end ScoreFunction

/-! ### Reading -/

namespace Clause

theorem decodeKind_canonical_of {k : QueryKind} {body : Json} {c : Clause} (hb : body.Canonical)
    (h : decodeKind k body = .ok c) (hcomp : ∀ {k'}, decodeCompound k' body = .ok c → c.body.Canonical) :
    c.body.Canonical := by
  cases k <;> rw [decodeKind] at h
  case bool | boosting | constantScore | disMax | functionScore | scriptScore => exact hcomp h
  all_goals
    obtain ⟨q, hq, rfl⟩ := Except.map_eq_ok.mp h
    rw [Clause.body]
  case script => exact ScriptQuery.decode_canonical hb hq
  case intervals => exact IntervalsQuery.decode_canonical hb hq
  -- every other kind writes a canonical body whatever it holds
  case term => exact q.body_canonical
  case terms => exact q.body_canonical
  case matchText | matchBoolPrefix | matchPhrase | matchPhrasePrefix => exact q.body_canonical _
  case matchAll | matchNone => exact q.body_canonical _
  case multiMatch => exact q.body_canonical
  case queryString => exact q.body_canonical
  case simpleQueryString => exact q.body_canonical
  case fieldExists => exact q.body_canonical
  case termPrefix | wildcard | fuzzy => exact q.body_canonical _
  case regexp => exact q.body_canonical
  case range => exact q.body_canonical
  case ids => exact q.body_canonical

/-- What the readers of a compound body's children guarantee: its clause lists, its nested
queries and its functions write canonical JSON. -/
structure ChildrenCanonical (ms : Json.Members) : Prop where
  role : ∀ {role : String} {cs : List Clause}, decodeRole ms role = .ok cs →
    ∀ c ∈ cs, c.body.Canonical
  slot : ∀ {role : String} {o : Option Query}, Query.decodeSlot ms role = .ok o →
    ∀ q, o = some q → q.toJson.Canonical
  functions : ∀ {fs : List ScoreFunction}, ScoreFunction.decodeSlotList ms = .ok fs →
    ∀ f ∈ fs, f.toJson.Canonical

theorem decodeCompoundMembers_canonical_of {k : QueryKind} {ms : Json.Members} {c : Clause}
    (hms : ValuesCanonical ms) (hc : ChildrenCanonical ms) (h : decodeCompoundMembers k ms = .ok c) :
    c.body.Canonical := by
  cases k
  case bool =>
    obtain ⟨must, filter, should, mustNot, params, hmust, hfilter, hshould, hmustNot, -, rfl⟩ :=
      decodeCompoundMembers_bool_eq h
    rw [Clause.body]
    exact canonical_ite_null (canonical_mkObj (by
      simp [roleMember_canonical (hc.role hmust), roleMember_canonical (hc.role hfilter),
        roleMember_canonical (hc.role hshould), roleMember_canonical (hc.role hmustNot)]))
  case boosting =>
    rcases decodeCompoundMembers_boosting_eq h with rfl | ⟨p, n, -, nb, params, hp, hn, -, -, -, rfl⟩
    · exact body_empty_canonical _
    · rw [Clause.body]
      refine canonical_ite_null (canonical_mkObj ?_)
      simp only [ValuesCanonical.append_iff, Query.slotMember_canonical, ValuesCanonical.cons_iff,
        Params.members_canonical, ValuesCanonical.nil, and_true]
      exact ⟨⟨hc.slot hp, hc.slot hn⟩, .float nb⟩
  case constantScore =>
    obtain ⟨filter, params, hfilter, -, rfl⟩ := decodeCompoundMembers_constantScore_eq h
    cases filter with
    | none =>
      rw [body_eq_null rfl]
      exact .null
    | some f =>
      simp only [Clause.body]
      exact canonical_mkObj (by simpa using hc.slot hfilter f rfl)
  case disMax =>
    obtain ⟨queries, params, hqueries, -, rfl⟩ := decodeCompoundMembers_disMax_eq h
    rw [Clause.body]
    exact canonical_ite_null (canonical_mkObj (by simpa using envelopes_canonical (hc.role hqueries)))
  case functionScore =>
    obtain ⟨listed, extra, query, params, hlisted, hextra, hquery, -, rfl⟩ :=
      decodeCompoundMembers_functionScore_eq h
    have hfs : ∀ f ∈ listed ++ extra, f.toJson.Canonical := fun f hf => by
      rcases List.mem_append.mp hf with hf | hf
      · exact hc.functions hlisted f hf
      · exact ScoreFunction.ofShorthand_canonical (shorthandOf_canonical hms) (hextra f hf)
    rw [Clause.body]
    refine canonical_ite_null (canonical_mkObj ?_)
    simp only [ValuesCanonical.append_iff, Query.slotMember_canonical, ValuesCanonical.ite_iff,
      ValuesCanonical.cons_iff, ValuesCanonical.nil, Params.members_canonical, and_true]
    exact ⟨hc.slot hquery, fun _ => trivial, fun _ => ScoreFunction.listJson_canonical hfs⟩
  case scriptScore =>
    rcases decodeCompoundMembers_scriptScore_eq h with
      rfl | ⟨q, script, params, hq, -, ⟨raw, hraw, hs⟩, -, rfl⟩
    · exact body_empty_canonical _
    · rw [Clause.body]
      refine canonical_ite_null (canonical_mkObj ?_)
      simp only [ValuesCanonical.append_iff, Query.slotMember_canonical, ValuesCanonical.cons_iff,
        ValuesCanonical.nil, Params.members_canonical, and_true]
      exact ⟨hc.slot hq, Script.decode_canonical (hms.get? hraw) hs⟩
  all_goals
    unfold decodeCompoundMembers at h
    cases h
    exact body_empty_canonical _

end Clause

mutual

/-- A query read from canonical JSON writes canonical bodies for its clauses. -/
theorem Query.decode_canonical {v : Json} {q : Query} (hv : v.Canonical) (h : Query.decode v = .ok q) :
    ∀ c ∈ q.clauses, c.body.Canonical := by
  unfold Query.decode at h
  split at h
  · cases h
    intro c hc
    cases hc
  · exact Query.decodeMembers_canonical hv.members (fun c hc => by cases hc) h
  · cases h
termination_by 4 * sizeOf v + 3
decreasing_by all_goals (subst_vars; simp -failIfUnchanged only [Json.obj.sizeOf_spec]; omega)

theorem Query.decodeMembers_canonical {whole : Json} {ms : Json.Members} {acc q : Query}
    (hms : ValuesCanonical ms) (hacc : ∀ c ∈ acc.clauses, c.body.Canonical)
    (h : Query.decodeMembers whole ms acc = .ok q) : ∀ c ∈ q.clauses, c.body.Canonical := by
  unfold Query.decodeMembers at h
  split at h
  · cases h
    exact hacc
  · have hcons := ValuesCanonical.cons_iff.mp hms
    obtain ⟨k, -, h⟩ := Except.bind_eq_ok.mp h
    obtain ⟨c, hc, h⟩ := Except.bind_eq_ok.mp h
    have hc' := Clause.decodeBody_canonical hcons.1 hc
    refine Query.decodeMembers_canonical hcons.2 (fun d hd => ?_) h
    -- storing a clause keeps the clauses stored before and adds at most that one
    rcases @Query.mem_apply acc (.set c) d hd with ⟨hset, -⟩ | hd
    · cases hset
      exact hc'
    · exact hacc d hd
termination_by 4 * sizeOf ms
decreasing_by
  all_goals
    subst_vars
    simp -failIfUnchanged only [List.cons.sizeOf_spec, Prod.mk.sizeOf_spec]
    omega

theorem Query.decodeSlot_canonical {ms : Json.Members} {role : String} {o : Option Query}
    (hms : ValuesCanonical ms) (h : Query.decodeSlot ms role = .ok o) :
    ∀ q, o = some q → q.toJson.Canonical := by
  unfold Query.decodeSlot at h
  split at h
  · cases h
    intro q hq
    cases hq
  · rename_i v hv
    have := Json.Members.sizeOf_lt_of_get? hv
    split at h
    · rename_i q' hq'
      cases h
      intro q hq
      split at hq
      · cases hq
      · cases hq
        exact Query.toJson_canonical (Query.decode_canonical (hms.get? hv) hq')
    · cases h
termination_by 4 * sizeOf ms
decreasing_by all_goals (subst_vars; omega)

theorem Clause.decodeBody_canonical {k : QueryKind} {body : Json} {c : Clause} (hb : body.Canonical)
    (h : Clause.decodeBody k body = .ok c) : c.body.Canonical :=
  Clause.decodeKind_canonical hb (Clause.decodeBody_eq_ok.mp h)
termination_by 4 * sizeOf body + 3
decreasing_by all_goals omega

theorem Clause.decodeKind_canonical {k : QueryKind} {body : Json} {c : Clause} (hb : body.Canonical)
    (h : Clause.decodeKind k body = .ok c) : c.body.Canonical :=
  Clause.decodeKind_canonical_of hb h fun hc => Clause.decodeCompound_canonical hb hc
termination_by 4 * sizeOf body + 2
decreasing_by all_goals omega

theorem Clause.decodeCompound_canonical {k : QueryKind} {body : Json} {c : Clause}
    (hb : body.Canonical) (h : Clause.decodeCompound k body = .ok c) : c.body.Canonical := by
  unfold Clause.decodeCompound at h
  split at h
  · cases h
    exact Clause.body_empty_canonical k
  · exact Clause.decodeCompoundMembers_canonical hb.members h
  · cases h
termination_by 4 * sizeOf body + 1
decreasing_by all_goals (subst_vars; simp -failIfUnchanged only [Json.obj.sizeOf_spec]; omega)

theorem Clause.decodeCompoundMembers_canonical {k : QueryKind} {ms : Json.Members} {c : Clause}
    (hms : ValuesCanonical ms) (h : Clause.decodeCompoundMembers k ms = .ok c) : c.body.Canonical :=
  Clause.decodeCompoundMembers_canonical_of hms
    ⟨fun hr => Clause.decodeRole_canonical hms hr, fun hs => Query.decodeSlot_canonical hms hs,
      fun hf => ScoreFunction.decodeSlotList_canonical hms hf⟩ h
termination_by 4 * sizeOf ms + 1
decreasing_by all_goals omega

theorem Clause.decodeRole_canonical {ms : Json.Members} {role : String} {cs : List Clause}
    (hms : ValuesCanonical ms) (h : Clause.decodeRole ms role = .ok cs) :
    ∀ c ∈ cs, c.body.Canonical := by
  unfold Clause.decodeRole at h
  split at h
  · cases h
    simp
  · rename_i v hv
    have := Json.Members.sizeOf_lt_of_get? hv
    exact Clause.decodeList_canonical (hms.get? hv) h
termination_by 4 * sizeOf ms
decreasing_by all_goals omega

theorem Clause.decodeList_canonical {v : Json} {role : String} {cs : List Clause} (hv : v.Canonical)
    (h : Clause.decodeList v role = .ok cs) : ∀ c ∈ cs, c.body.Canonical := by
  unfold Clause.decodeList at h
  split at h
  · cases h
    simp
  · exact Clause.decodeItems_canonical hv.items (by simp) h
  · exact Clause.pushMembers_canonical hv.members (by simp) (Except.mapError_eq_ok.mp h)
  · cases h
termination_by 4 * sizeOf v + 2
decreasing_by
  all_goals
    subst_vars
    simp -failIfUnchanged only [Json.obj.sizeOf_spec, Json.arr.sizeOf_spec]
    omega

theorem Clause.decodeItems_canonical {items : List Json} {role : String} {i : Nat}
    {acc cs : List Clause} (hitems : ∀ v ∈ items, v.Canonical)
    (hacc : ∀ c ∈ acc, c.body.Canonical) (h : Clause.decodeItems items role i acc = .ok cs) :
    ∀ c ∈ cs, c.body.Canonical := by
  unfold Clause.decodeItems at h
  split at h
  · cases h
    exact hacc
  · have hcons := List.forall_mem_cons.mp hitems
    obtain ⟨acc', hacc', h⟩ := Except.bind_eq_ok.mp h
    exact Clause.decodeItems_canonical hcons.2
      (Clause.pushItem_canonical hcons.1 hacc (Except.mapError_eq_ok.mp hacc')) h
termination_by 4 * sizeOf items
decreasing_by all_goals (subst_vars; simp -failIfUnchanged only [List.cons.sizeOf_spec]; omega)

theorem Clause.pushItem_canonical {item : Json} {acc cs : List Clause} (hitem : item.Canonical)
    (hacc : ∀ c ∈ acc, c.body.Canonical) (h : Clause.pushItem item acc = .ok cs) :
    ∀ c ∈ cs, c.body.Canonical := by
  unfold Clause.pushItem at h
  split at h
  · cases h
    exact hacc
  · exact Clause.pushMembers_canonical hitem.members hacc h
  · cases h
termination_by 4 * sizeOf item + 1
decreasing_by all_goals (subst_vars; simp -failIfUnchanged only [Json.obj.sizeOf_spec]; omega)

theorem Clause.pushMembers_canonical {ms : Json.Members} {acc cs : List Clause}
    (hms : ValuesCanonical ms) (hacc : ∀ c ∈ acc, c.body.Canonical)
    (h : Clause.pushMembers ms acc = .ok cs) : ∀ c ∈ cs, c.body.Canonical := by
  unfold Clause.pushMembers at h
  split at h
  · cases h
    exact hacc
  · have hcons := ValuesCanonical.cons_iff.mp hms
    split at h
    · exact Clause.pushMembers_canonical hcons.2 hacc h
    · obtain ⟨c, hc, h⟩ := Except.bind_eq_ok.mp h
      have hc' := Clause.decodeBody_canonical hcons.1 hc
      refine Clause.pushMembers_canonical hcons.2 (fun d hd => ?_) h
      rcases Clause.mem_pushTo hd with hd | rfl
      · exact hacc d hd
      · exact hc'
termination_by 4 * sizeOf ms
decreasing_by
  all_goals
    subst_vars
    simp -failIfUnchanged only [List.cons.sizeOf_spec, Prod.mk.sizeOf_spec]
    omega

theorem ScoreFunction.decodeSlotList_canonical {ms : Json.Members} {fs : List ScoreFunction}
    (hms : ValuesCanonical ms) (h : ScoreFunction.decodeSlotList ms = .ok fs) :
    ∀ f ∈ fs, f.toJson.Canonical := by
  unfold ScoreFunction.decodeSlotList at h
  split at h
  · cases h
    simp
  · cases h
    simp
  · rename_i items hitems
    have hlt := Json.Members.sizeOf_items_lt_of_get? hitems
    exact ScoreFunction.decodeItems_canonical (hms.get? hitems).items h
  · cases h
termination_by 4 * sizeOf ms
decreasing_by all_goals omega

theorem ScoreFunction.decodeItems_canonical {items : List Json} {i : Nat} {fs : List ScoreFunction}
    (hitems : ∀ v ∈ items, v.Canonical) (h : ScoreFunction.decodeItems items i = .ok fs) :
    ∀ f ∈ fs, f.toJson.Canonical := by
  unfold ScoreFunction.decodeItems at h
  split at h
  · cases h
    simp
  · have hcons := List.forall_mem_cons.mp hitems
    obtain ⟨f, hf, h⟩ := Except.bind_eq_ok.mp h
    obtain ⟨fs', hfs', h⟩ := Except.bind_eq_ok.mp h
    cases h
    intro g hg
    rcases List.mem_cons.mp hg with rfl | hg
    · exact ScoreFunction.decode_canonical hcons.1 (Except.mapError_eq_ok.mp hf)
    · exact ScoreFunction.decodeItems_canonical hcons.2 hfs' g hg
termination_by 4 * sizeOf items
decreasing_by all_goals (subst_vars; simp -failIfUnchanged only [List.cons.sizeOf_spec]; omega)

theorem ScoreFunction.decode_canonical {v : Json} {f : ScoreFunction} (hv : v.Canonical)
    (h : ScoreFunction.decode v = .ok f) : f.toJson.Canonical := by
  unfold ScoreFunction.decode at h
  split at h
  · exact ScoreFunction.decodeMembers_canonical hv.members (Except.mapError_eq_ok.mp h)
  · cases h
termination_by 4 * sizeOf v + 2
decreasing_by all_goals (subst_vars; simp -failIfUnchanged only [Json.obj.sizeOf_spec]; omega)

theorem ScoreFunction.decodeMembers_canonical {ms : Json.Members} {f : ScoreFunction}
    (hms : ValuesCanonical ms) (h : ScoreFunction.decodeMembers ms = .ok f) : f.toJson.Canonical := by
  unfold ScoreFunction.decodeMembers at h
  obtain ⟨body, hbody, h⟩ := Except.bind_eq_ok.mp h
  obtain ⟨filter, hfilter, h⟩ := Except.bind_eq_ok.mp h
  obtain ⟨params, -, h⟩ := Except.bind_eq_ok.mp h
  cases h
  exact ScoreFunction.toJson_canonical (FunctionBody.decodeIn_canonical hms hbody)
    (Query.decodeSlot_canonical hms hfilter)
termination_by 4 * sizeOf ms + 1
decreasing_by all_goals (subst_vars; omega)

end

end SearchDsl
