import SearchDsl.Proofs.Query.Readable
import SearchDsl.Proofs.Query.Rules
/-!
Clauses read back from their bodies, one kind at a time. A clause without children reads back by
the lemma of its kind. A compound clause reads back when its children do: the clause lists of
`bool` and `dis_max`, the nested queries of `boosting`, `constant_score`, `script_score` and
`function_score`, and the scoring functions. Each lemma here takes the read-back of the children
as a hypothesis; the readers' recursion supplies it.
-/
set_option autoImplicit false

namespace SearchDsl

namespace Query

theorem slotMember_eq_opt (key : String) (o : Option Query) :
    slotMember key o = Shape.opt key (o.map toJson) := by
  cases o <;> simp [slotMember, Shape.opt]

end Query

theorem negativeBoostOf_eq_ok {v : Option Loose} {b : Float} (hv : ∀ l, v = some l → l.WellFormed)
    (h : negativeBoostOf v = .ok b) : b.isFinite = true ∧ 0 < b ∧ b ≤ 1 := by
  unfold negativeBoostOf at h
  split at h
  · cases h
  · rename_i l
    split at h
    · rename_i f hf
      split at h
      · rename_i hr
        cases h
        simp only [Bool.and_eq_true, decide_eq_true_eq] at hr
        exact ⟨Loose.toF64?_isFinite (hv l rfl) hf, hr.1, hr.2⟩
      · cases h
    · cases h

theorem negativeBoostOf_float {b : Float} (hb : b.isFinite = true) (hr : 0 < b ∧ b ≤ 1) :
    negativeBoostOf (some (.float b)) = .ok b := by
  simp [negativeBoostOf, Loose.toF64?_float hb, hr.1, hr.2]

theorem FunctionKind.tag_inj {a b : FunctionKind} (h : a.tag = b.tag) : a = b := by
  cases a <;> cases b <;> first | rfl | simp [FunctionKind.tag] at h

theorem FunctionKind.tag_ne_filter (k : FunctionKind) : k.tag ≠ "filter" := by
  cases k <;> simp [FunctionKind.tag]

theorem Json.Members.get?_written_eq_none {own : List (String × Json)} {keys : List String}
    (hown : ∀ m ∈ own, m.1 ∈ keys) (ps : Params) (L : List Param) {k : String} (hk : k ∉ keys)
    (hL : ∀ p ∈ L, p.key ≠ k) : (ofList (own ++ ps.members L)).get? k = none := by
  rw [get?_own_params own ps L hL]
  exact get?_ofList_eq_none fun m hm heq => hk (heq ▸ hown m hm)

theorem shorthandOf_eq_nil {ms : Json.Members} (h : ∀ k ∈ "weight" :: shorthandKeys, ms.get? k = none) :
    shorthandOf ms = [] := by
  have hkeyed : shorthandKeys.filterMap (fun k => (ms.get? k).map fun v => (k, v)) = [] :=
    List.filterMap_eq_nil_iff.mpr fun k hk => by simp [h k (List.mem_cons_of_mem _ hk)]
  simp [shorthandOf, h "weight" List.mem_cons_self, hkeyed]
  rfl

namespace Clause

theorem kind_empty (k : QueryKind) : (empty k).kind = k := by
  cases k <;> rfl

theorem isEmpty_empty (k : QueryKind) : (empty k).isEmpty = true := by
  cases k <;> rfl

theorem decodeBody_eq_ok {k : QueryKind} {body : Json} {c : Clause} :
    decodeBody k body = .ok c ↔ decodeKind k body = .ok c := by
  rw [decodeBody, Except.mapError_eq_ok]

theorem rereads_of_leaf {α : Type} {dec : Json → Except Error α} {mk : α → Clause}
    {bodyOf : α → Json} {isE : α → Bool} {k : QueryKind} {body : Json} {c : Clause}
    (hk : ∀ q, (mk q).kind = k) (hbody : ∀ q, (mk q).body = bodyOf q)
    (hempty : ∀ q, (mk q).isEmpty = isE q)
    (hback : ∀ {J : Json} {q : α}, dec J = .ok q → isE q = false → dec (bodyOf q) = .ok q)
    (h : (dec body).map mk = .ok c) :
    c.kind = k ∧ (c.isEmpty = false → (dec c.body).map mk = .ok c) := by
  obtain ⟨q, hq, rfl⟩ := Except.map_eq_ok.mp h
  refine ⟨hk q, fun hne => ?_⟩
  rw [hbody, hback hq (hempty q ▸ hne)]
  rfl

/-- Every clause read by kind reads back by kind: a kind without children by its own lemma, a
compound kind when its compound reader reads back. -/
theorem decodeKind_rereads_of {k : QueryKind} {body : Json} {c : Clause}
    (h : decodeKind k body = .ok c)
    (hcomp : ∀ {k'}, decodeCompound k' body = .ok c →
      c.kind = k' ∧ (c.isEmpty = false → decodeCompound k' c.body = .ok c)) :
    c.kind = k ∧ (c.isEmpty = false → decodeKind k c.body = .ok c) := by
  cases k <;> rw [decodeKind] at h ⊢
  case bool | boosting | constantScore | disMax | functionScore | scriptScore => exact hcomp h
  case term =>
    exact rereads_of_leaf (fun _ => rfl) (fun _ => by rw [Clause.body]) (fun _ => rfl)
      TermQuery.decode_body h
  case terms =>
    exact rereads_of_leaf (fun _ => rfl) (fun _ => by rw [Clause.body]) (fun _ => rfl)
      TermsQuery.decode_body h
  case matchText | matchBoolPrefix | matchPhrase | matchPhrasePrefix =>
    exact rereads_of_leaf (fun _ => rfl) (fun _ => by rw [Clause.body]) (fun _ => rfl)
      MatchQuery.decode_body h
  case matchAll | matchNone =>
    exact rereads_of_leaf (fun _ => rfl) (fun _ => by rw [Clause.body]) (fun _ => rfl)
      BareQuery.decode_body h
  case multiMatch =>
    exact rereads_of_leaf (fun _ => rfl) (fun _ => by rw [Clause.body]) (fun _ => rfl)
      MultiMatchQuery.decode_body h
  case queryString =>
    exact rereads_of_leaf (fun _ => rfl) (fun _ => by rw [Clause.body]) (fun _ => rfl)
      QueryStringQuery.decode_body h
  case simpleQueryString =>
    exact rereads_of_leaf (fun _ => rfl) (fun _ => by rw [Clause.body]) (fun _ => rfl)
      SimpleQueryStringQuery.decode_body h
  case fieldExists =>
    exact rereads_of_leaf (fun _ => rfl) (fun _ => by rw [Clause.body]) (fun _ => rfl)
      ExistsQuery.decode_body h
  case termPrefix | wildcard | fuzzy =>
    exact rereads_of_leaf (fun _ => rfl) (fun _ => by rw [Clause.body]) (fun _ => rfl)
      PatternQuery.decode_body h
  case regexp =>
    exact rereads_of_leaf (fun _ => rfl) (fun _ => by rw [Clause.body]) (fun _ => rfl)
      RegexpQuery.decode_body h
  case range =>
    exact rereads_of_leaf (fun _ => rfl) (fun _ => by rw [Clause.body]) (fun _ => rfl)
      RangeQuery.decode_body h
  case ids =>
    exact rereads_of_leaf (fun _ => rfl) (fun _ => by rw [Clause.body]) (fun _ => rfl)
      IdsQuery.decode_body h
  case script =>
    exact rereads_of_leaf (fun _ => rfl) (fun _ => by rw [Clause.body]) (fun _ => rfl)
      ScriptQuery.decode_body h
  case intervals =>
    exact rereads_of_leaf (fun _ => rfl) (fun _ => by rw [Clause.body]) (fun _ => rfl)
      IntervalsQuery.decode_body h

theorem roleMember_eq_opt (key : String) (cs : List Clause) :
    roleMember key cs = Shape.opt key (if cs.isEmpty then none else some (.arr (envelopes cs))) := by
  unfold roleMember
  split <;> rfl

theorem key_of_mem_roleMember {key : String} {cs : List Clause} {m : String × Json}
    (h : m ∈ roleMember key cs) : m.1 = key :=
  mem_opt (roleMember_eq_opt key cs ▸ h)

theorem decodeCompound_bool_body {must filter should mustNot : List Clause} {params : Params}
    (hroles : ∀ c ∈ must ++ filter ++ should ++ mustNot, c.Rereads)
    (hp : Params.Canonical QueryKind.bool.params params)
    (hne : (bool must filter should mustNot params).isEmpty = false) :
    decodeCompound .bool (bool must filter should mustNot params).body =
      .ok (bool must filter should mustNot params) := by
  set own := roleMember "must" must ++ roleMember "filter" filter ++ roleMember "should" should ++
    roleMember "must_not" mustNot with hown
  have hbody : (bool must filter should mustNot params).body =
      Json.mkObj (own ++ params.members QueryKind.bool.params) := by
    simp only [isEmpty] at hne
    simp only [Clause.body, hne, Bool.false_eq_true, if_false, hown]
  have hkeys : ∀ m ∈ own, ∀ p ∈ QueryKind.bool.params, m.1 ≠ p.key := by
    refine own_ne_key ["must", "filter", "should", "must_not"] (fun m hm => ?_) (by decide) _
    simp only [hown, List.mem_append] at hm
    rcases hm with ((hm | hm) | hm) | hm <;> simp [key_of_mem_roleMember hm]
  set ms := Json.Members.ofList (own ++ params.members QueryKind.bool.params) with hms
  have hrole : ∀ role cs, (∀ p ∈ QueryKind.bool.params, p.key ≠ role) →
      (Json.Members.ofList own).get? role = (Json.Members.ofList (roleMember role cs)).get? role →
      (∀ c ∈ cs, c.Rereads) → decodeRole ms role = .ok cs := by
    intro role cs hk hget hcs
    exact decodeRole_of_get? hcs (by rw [hms, Json.Members.get?_own_params own params _ hk, hget])
  -- each role is found under its own key, the other roles having other keys
  have hlook : ∀ {role cs}, (role, cs) ∈ [("must", must), ("filter", filter), ("should", should),
      ("must_not", mustNot)] →
      (Json.Members.ofList own).get? role = (Json.Members.ofList (roleMember role cs)).get? role := by
    intro role cs h
    simp only [List.mem_cons, Prod.mk.injEq, List.not_mem_nil, or_false] at h
    rcases h with ⟨rfl, rfl⟩ | ⟨rfl, rfl⟩ | ⟨rfl, rfl⟩ | ⟨rfl, rfl⟩ <;>
      simp [hown, roleMember_eq_opt, Json.Members.get?_ofList_append]
  rw [hbody, Json.mkObj, decodeCompound, decodeCompoundMembers, ← hms,
    hrole "must" must (by decide) (hlook (by simp)) fun c hc => hroles c (by simp [hc]),
    hrole "filter" filter (by decide) (hlook (by simp)) fun c hc => hroles c (by simp [hc]),
    hrole "should" should (by decide) (hlook (by simp)) fun c hc => hroles c (by simp [hc]),
    hrole "must_not" mustNot (by decide) (hlook (by simp)) fun c hc => hroles c (by simp [hc]),
    hms, Params.ofMembers_own_params _ own hp hkeys]
  rfl

theorem decodeCompound_disMax_body {queries : List Clause} {params : Params}
    (hqs : ∀ c ∈ queries, c.Rereads) (hp : Params.Canonical QueryKind.disMax.params params)
    (hne : (disMax queries params).isEmpty = false) :
    decodeCompound .disMax (disMax queries params).body = .ok (disMax queries params) := by
  set own := [("queries", Json.arr (envelopes queries))] with hown
  have hne' : queries.isEmpty = false := hne
  have hbody : (disMax queries params).body =
      Json.mkObj (own ++ params.members QueryKind.disMax.params) := by
    simp only [Clause.body, hne', Bool.false_eq_true, if_false, hown, List.singleton_append]
  have hkeys : ∀ m ∈ own, ∀ p ∈ QueryKind.disMax.params, m.1 ≠ p.key :=
    own_ne_key ["queries"] (by simp [hown]) (by decide) _
  have hrole : decodeRole (Json.Members.ofList (own ++ params.members QueryKind.disMax.params))
      "queries" = .ok queries := by
    refine decodeRole_of_get? hqs ?_
    rw [Json.Members.get?_own_params own params _ (by decide)]
    simp [hown, roleMember, hne']
  rw [hbody, Json.mkObj, decodeCompound, decodeCompoundMembers, hrole,
    Params.ofMembers_own_params _ own hp hkeys]
  rfl

theorem decodeCompound_constantScore_body {f : Query} {params : Params}
    (hf : f.Readable ∧ f.isEmpty = false)
    (hp : Params.Canonical QueryKind.constantScore.params params) :
    decodeCompound .constantScore (constantScore (some f) params).body =
      .ok (constantScore (some f) params) := by
  set own := [("filter", f.toJson)] with hown
  have hbody : (constantScore (some f) params).body =
      Json.mkObj (own ++ params.members QueryKind.constantScore.params) := by
    simp only [Clause.body, hown, List.singleton_append]
  have hkeys : ∀ m ∈ own, ∀ p ∈ QueryKind.constantScore.params, m.1 ≠ p.key :=
    own_ne_key ["filter"] (by simp [hown]) (by decide) _
  have hslot : Query.decodeSlot
      (Json.Members.ofList (own ++ params.members QueryKind.constantScore.params)) "filter" =
        .ok (some f) := by
    refine Query.decodeSlot_of_get? ?_ fun q hq => Option.some.inj hq ▸ hf
    rw [Json.Members.get?_own_params own params _ (by decide)]
    simp [hown]
  rw [hbody, Json.mkObj, decodeCompound, decodeCompoundMembers, hslot]
  simp only [Except.ok_bind, Params.ofMembers_own_params _ own hp hkeys]
  rfl

theorem decodeCompound_boosting_body {p n : Query} {nb : Float} {params : Params}
    (hpos : p.Readable ∧ p.isEmpty = false) (hneg : n.Readable ∧ n.isEmpty = false)
    (hnb : nb.isFinite = true ∧ 0 < nb ∧ nb ≤ 1)
    (hp : Params.Canonical QueryKind.boosting.params params) :
    decodeCompound .boosting (boosting (some p) (some n) nb params).body =
      .ok (boosting (some p) (some n) nb params) := by
  set own := [("positive", p.toJson), ("negative", n.toJson), ("negative_boost", Json.float nb)]
    with hown
  have hbody : (boosting (some p) (some n) nb params).body =
      Json.mkObj (own ++ params.members QueryKind.boosting.params) := by
    simp [Clause.body, hown, Query.slotMember]
  have hkeys : ∀ m ∈ own, ∀ q ∈ QueryKind.boosting.params, m.1 ≠ q.key :=
    own_ne_key ["positive", "negative", "negative_boost"] (by simp [hown]) (by decide) _
  set ms := Json.Members.ofList (own ++ params.members QueryKind.boosting.params) with hms
  have hget : ∀ key, (∀ q ∈ QueryKind.boosting.params, q.key ≠ key) →
      ms.get? key = (Json.Members.ofList own).get? key := fun key hk =>
    Json.Members.get?_own_params own params _ hk
  have hpos' : Query.decodeSlot ms "positive" = .ok (some p) :=
    Query.decodeSlot_of_get? (by rw [hget _ (by decide)]; simp [hown, Json.Members.get?_ofList_cons])
      fun q hq => Option.some.inj hq ▸ hpos
  have hneg' : Query.decodeSlot ms "negative" = .ok (some n) :=
    Query.decodeSlot_of_get? (by rw [hget _ (by decide)]; simp [hown, Json.Members.get?_ofList_cons])
      fun q hq => Option.some.inj hq ▸ hneg
  have hraw : ms.get? "negative_boost" = some (.float nb) := by
    rw [hget _ (by decide)]
    simp [hown, Json.Members.get?_ofList_cons]
  rw [hbody, Json.mkObj, decodeCompound, decodeCompoundMembers, ← hms]
  simp only [hpos', hneg', hraw, Except.ok_bind, Loose.ofJson, Except.pure_eq,
    negativeBoostOf_float hnb.1 hnb.2]
  rw [hms, Params.ofMembers_own_params _ own hp hkeys]
  rfl

theorem decodeCompound_scriptScore_body {q : Query} {script : Script} {params : Params}
    (hq : q.Readable ∧ q.isEmpty = false) (hs : script.isEmpty = false)
    (hp : Params.Canonical QueryKind.scriptScore.params params) :
    decodeCompound .scriptScore (scriptScore (some q) script params).body =
      .ok (scriptScore (some q) script params) := by
  set own := [("query", q.toJson), ("script", script.toJson)] with hown
  have hbody : (scriptScore (some q) script params).body =
      Json.mkObj (own ++ params.members QueryKind.scriptScore.params) := by
    simp [Clause.body, hown, Query.slotMember]
  have hkeys : ∀ m ∈ own, ∀ p ∈ QueryKind.scriptScore.params, m.1 ≠ p.key :=
    own_ne_key ["query", "script"] (by simp [hown]) (by decide) _
  set ms := Json.Members.ofList (own ++ params.members QueryKind.scriptScore.params) with hms
  have hslot : Query.decodeSlot ms "query" = .ok (some q) := by
    refine Query.decodeSlot_of_get? ?_ fun q' hq' => Option.some.inj hq' ▸ hq
    rw [hms, Json.Members.get?_own_params own params _ (by decide)]
    simp [hown, Json.Members.get?_ofList_cons]
  have hraw : ms.get? "script" = some script.toJson := by
    rw [hms, Json.Members.get?_own_params own params _ (by decide)]
    simp [hown, Json.Members.get?_ofList_cons]
  rw [hbody, Json.mkObj, decodeCompound, decodeCompoundMembers, ← hms]
  simp only [hslot, hraw, Except.ok_bind, Script.decode_toJson, hs]
  rw [hms, Params.ofMembers_own_params _ own hp hkeys]
  rfl

theorem decodeCompound_functionScore_body {query : Option Query} {functions : List ScoreFunction}
    {params : Params} (hq : ∀ q, query = some q → q.Readable ∧ q.isEmpty = false)
    (hfs : ∀ f ∈ functions, f.Rereads)
    (hp : Params.Canonical QueryKind.functionScore.params params)
    (hne : (functionScore query functions params).isEmpty = false) :
    decodeCompound .functionScore (functionScore query functions params).body =
      .ok (functionScore query functions params) := by
  set own := Query.slotMember "query" query ++
    (if functions.isEmpty then [] else [("functions", Json.arr (ScoreFunction.listJson functions))])
    with hown
  have hne' : (query.isNone && functions.isEmpty) = false := hne
  have hbody : (functionScore query functions params).body =
      Json.mkObj (own ++ params.members QueryKind.functionScore.params) := by
    simp only [Clause.body, hne', Bool.false_eq_true, if_false, hown]
  have hownKeys : ∀ m ∈ own, m.1 ∈ ["query", "functions"] := by
    intro m hm
    simp only [hown, List.mem_append, Query.slotMember_eq_opt] at hm
    rcases hm with hm | hm
    · simp [mem_opt hm]
    · split at hm <;> simp_all
  have hkeys : ∀ m ∈ own, ∀ p ∈ QueryKind.functionScore.params, m.1 ≠ p.key :=
    own_ne_key ["query", "functions"] hownKeys (by decide) _
  set ms := Json.Members.ofList (own ++ params.members QueryKind.functionScore.params) with hms
  have hlist : ScoreFunction.decodeSlotList ms = .ok functions := by
    refine ScoreFunction.decodeSlotList_of_get? hfs ?_
    rw [hms, Json.Members.get?_own_params own params _ (by decide)]
    simp [hown, Json.Members.get?_ofList_append, Query.slotMember_eq_opt]
  -- neither the own keys nor the declared parameters are function keys or `weight`
  have hfree : ∀ k ∈ "weight" :: shorthandKeys,
      k ∉ ["query", "functions"] ∧ ∀ p ∈ QueryKind.functionScore.params, p.key ≠ k := by
    decide
  have hshort : shorthandOf ms = [] := shorthandOf_eq_nil fun k hk =>
    Json.Members.get?_written_eq_none hownKeys params _ (hfree k hk).1 (hfree k hk).2
  have hslot : Query.decodeSlot ms "query" = .ok query := by
    refine Query.decodeSlot_of_get? ?_ hq
    rw [hms, Json.Members.get?_own_params own params _ (by decide)]
    simp [hown, Json.Members.get?_ofList_append, Query.slotMember_eq_opt]
  rw [hbody, Json.mkObj, decodeCompound, decodeCompoundMembers, ← hms]
  simp only [hlist, hshort, hslot, Except.ok_bind, Except.pure_eq]
  rw [hms, Params.ofMembers_own_params _ own hp hkeys]
  rfl

end Clause

namespace ScoreFunction

theorem rereads_of {body : FunctionBody} {filter : Option Query} {params : Params}
    (hb : body.Readable) (hf : ∀ q, filter = some q → q.Readable ∧ q.isEmpty = false)
    (hp : Params.Canonical Param.functionList params)
    (hw : body = .weight → params.weight?.isSome = true) : (mk body filter params).Rereads := by
  set own := Shape.opt body.kind.tag body.toJson? ++ Query.slotMember "filter" filter with hown
  have hkeys : ∀ m ∈ own, ∀ p ∈ Param.functionList, m.1 ≠ p.key := by
    intro m hm p hp
    simp only [Param.functionList, List.mem_singleton] at hp
    subst hp
    simp only [hown, List.mem_append, Query.slotMember_eq_opt] at hm
    rcases hm with hm | hm
    · -- a body is written under its own key only when it is not a bare weight
      rw [mem_opt hm]
      cases body with
      | weight => simp [Shape.opt, FunctionBody.toJson?] at hm
      | decay d =>
        cases hc : d.curve <;> simp [FunctionBody.kind, hc, DecayCurve.kind, FunctionKind.tag, Param.key]
      | _ => simp [FunctionBody.kind, FunctionKind.tag, Param.key]
    · simp [mem_opt hm, Param.key]
  set ms := Json.Members.ofList (own ++ params.members Param.functionList) with hms
  have hin : FunctionBody.decodeIn ms = .ok body := by
    refine FunctionBody.decodeIn_of_get? hb fun k hk => ?_
    have hkey : ∀ p ∈ Param.functionList, p.key ≠ k.tag := by
      cases k <;> simp_all [Param.functionList, Param.key, FunctionKind.tag]
    have hfilter : "filter" ≠ k.tag := (FunctionKind.tag_ne_filter k).symm
    rw [hms, Json.Members.get?_own_params own params _ hkey]
    by_cases hkb : k = body.kind
    · subst hkb
      simp [hown, Json.Members.get?_ofList_append, Query.slotMember_eq_opt, hfilter]
    · have htag : body.kind.tag ≠ k.tag := fun h => hkb (FunctionKind.tag_inj h).symm
      simp [hown, Json.Members.get?_ofList_append, Query.slotMember_eq_opt, hfilter, hkb, htag]
  have hslot : Query.decodeSlot ms "filter" = .ok filter := by
    refine Query.decodeSlot_of_get? ?_ hf
    rw [hms, Json.Members.get?_own_params own params _ (by decide)]
    simp [hown, Json.Members.get?_ofList_append, Query.slotMember_eq_opt,
      FunctionKind.tag_ne_filter]
  have hweight : FunctionBody.readWeight body ms = .ok params :=
    FunctionBody.readWeight_of_ofMembers (Params.ofMembers_own_params _ own hp hkeys) hw
  rw [Rereads, toJson, Json.mkObj, ← hown, ← hms, decode, decodeMembers]
  simp only [hin, hslot, hweight, Except.ok_bind, Except.pure_eq, Except.mapError_ok]

theorem ofShorthand_rereads {sh : Json.Members} {f : ScoreFunction} (h : ofShorthand sh = .ok f) :
    f.Rereads := by
  rw [ofShorthand, Except.mapError_eq_ok] at h
  obtain ⟨body, hbody, h⟩ := Except.bind_eq_ok.mp h
  obtain ⟨params, hp, h⟩ := Except.bind_eq_ok.mp h
  cases h
  obtain ⟨hof, hw⟩ := FunctionBody.readWeight_eq_ok hp
  exact rereads_of (FunctionBody.decodeIn_readable hbody) (fun _ h => nomatch h)
    (Params.ofMembers_canonical hof) hw

end ScoreFunction

namespace Clause

/-- What the readers of a compound body's children guarantee: its clause lists read back, its
nested queries are readable with content, and its functions read back. -/
structure ChildrenReread (ms : Json.Members) : Prop where
  role : ∀ {role : String} {cs : List Clause}, decodeRole ms role = .ok cs → ∀ c ∈ cs, c.Rereads
  slot : ∀ {role : String} {o : Option Query}, Query.decodeSlot ms role = .ok o →
    ∀ q, o = some q → q.Readable ∧ q.isEmpty = false
  functions : ∀ {fs : List ScoreFunction}, ScoreFunction.decodeSlotList ms = .ok fs →
    ∀ f ∈ fs, f.Rereads

section Unpack

variable {ms : Json.Members} {c : Clause}

/-! What the compound reader makes of a body's members, one kind at a time: the clause holds the
children that the children's readers read from the members, and the parameters read beside them. -/

theorem decodeCompoundMembers_bool_eq (h : decodeCompoundMembers .bool ms = .ok c) :
    ∃ must filter should mustNot params, decodeRole ms "must" = .ok must ∧
      decodeRole ms "filter" = .ok filter ∧ decodeRole ms "should" = .ok should ∧
      decodeRole ms "must_not" = .ok mustNot ∧
      Params.ofMembers QueryKind.bool.params (some .bool) ms = .ok params ∧
      c = .bool must filter should mustNot params := by
  rw [decodeCompoundMembers] at h
  obtain ⟨must, hmust, h⟩ := Except.bind_eq_ok.mp h
  obtain ⟨filter, hfilter, h⟩ := Except.bind_eq_ok.mp h
  obtain ⟨should, hshould, h⟩ := Except.bind_eq_ok.mp h
  obtain ⟨mustNot, hmustNot, h⟩ := Except.bind_eq_ok.mp h
  obtain ⟨params, hp, h⟩ := Except.bind_eq_ok.mp h
  cases h
  exact ⟨must, filter, should, mustNot, params, hmust, hfilter, hshould, hmustNot, hp, rfl⟩

theorem decodeCompoundMembers_boosting_eq (h : decodeCompoundMembers .boosting ms = .ok c) :
    c = empty .boosting ∨ ∃ p n loose nb params, Query.decodeSlot ms "positive" = .ok (some p) ∧
      Query.decodeSlot ms "negative" = .ok (some n) ∧ (∀ l, loose = some l → l.WellFormed) ∧
      negativeBoostOf loose = .ok nb ∧
      Params.ofMembers QueryKind.boosting.params (some .boosting) ms = .ok params ∧
      c = .boosting (some p) (some n) nb params := by
  rw [decodeCompoundMembers] at h
  obtain ⟨pos, hpos, h⟩ := Except.bind_eq_ok.mp h
  obtain ⟨neg, hneg, h⟩ := Except.bind_eq_ok.mp h
  dsimp only at h
  split at h
  · cases h
    exact .inl rfl
  · cases h
  · cases h
  · rename_i p n raw
    obtain ⟨loose, hwf, h⟩ : ∃ loose : Option Loose, (∀ l, loose = some l → l.WellFormed) ∧
        (do
          let nb ← negativeBoostOf loose
          let params ← Params.ofMembers QueryKind.boosting.params (some .boosting) ms
          pure (boosting (some p) (some n) nb params) : Except Error Clause) = .ok c := by
      split at h
      · split at h
        · rename_i hl
          exact ⟨_, fun l hs => Loose.ofJson_wellFormed (hs ▸ hl), h⟩
        · cases h
      · refine ⟨none, ?_, h⟩
        intro l hs
        cases hs
    obtain ⟨nb, hnb, h⟩ := Except.bind_eq_ok.mp h
    obtain ⟨params, hp, h⟩ := Except.bind_eq_ok.mp h
    cases h
    exact .inr ⟨p, n, loose, nb, params, hpos, hneg, hwf, hnb, hp, rfl⟩

theorem decodeCompoundMembers_constantScore_eq (h : decodeCompoundMembers .constantScore ms = .ok c) :
    ∃ filter params, Query.decodeSlot ms "filter" = .ok filter ∧
      Params.ofMembers QueryKind.constantScore.params (some .constantScore) ms = .ok params ∧
      c = .constantScore filter params := by
  rw [decodeCompoundMembers] at h
  obtain ⟨filter, hfilter, h⟩ := Except.bind_eq_ok.mp h
  obtain ⟨params, hp, h⟩ := Except.bind_eq_ok.mp h
  cases h
  exact ⟨filter, params, hfilter, hp, rfl⟩

theorem decodeCompoundMembers_disMax_eq (h : decodeCompoundMembers .disMax ms = .ok c) :
    ∃ queries params, decodeRole ms "queries" = .ok queries ∧
      Params.ofMembers QueryKind.disMax.params (some .disMax) ms = .ok params ∧
      c = .disMax queries params := by
  rw [decodeCompoundMembers] at h
  obtain ⟨queries, hqueries, h⟩ := Except.bind_eq_ok.mp h
  obtain ⟨params, hp, h⟩ := Except.bind_eq_ok.mp h
  cases h
  exact ⟨queries, params, hqueries, hp, rfl⟩

theorem decodeCompoundMembers_functionScore_eq (h : decodeCompoundMembers .functionScore ms = .ok c) :
    ∃ listed extra query params, ScoreFunction.decodeSlotList ms = .ok listed ∧
      (∀ f ∈ extra, ScoreFunction.ofShorthand (shorthandOf ms) = .ok f) ∧
      Query.decodeSlot ms "query" = .ok query ∧
      Params.ofMembers QueryKind.functionScore.params (some .functionScore) ms = .ok params ∧
      c = .functionScore query (listed ++ extra) params := by
  rw [decodeCompoundMembers] at h
  obtain ⟨listed, hlisted, h⟩ := Except.bind_eq_ok.mp h
  dsimp only at h
  obtain ⟨extra, hextra, h⟩ : ∃ extra : List ScoreFunction,
      (∀ f ∈ extra, ScoreFunction.ofShorthand (shorthandOf ms) = .ok f) ∧
      (do
        let query ← Query.decodeSlot ms "query"
        let params ← Params.ofMembers QueryKind.functionScore.params (some .functionScore) ms
        pure (functionScore query (listed ++ extra) params) : Except Error Clause) = .ok c := by
    generalize hsh : shorthandOf ms = sh at h
    cases sh with
    | nil => exact ⟨[], fun f hf => (List.not_mem_nil hf).elim, by simpa using h⟩
    | cons m rest =>
      obtain ⟨f, hf, h⟩ := Except.bind_eq_ok.mp h
      refine ⟨[f], fun g hg => ?_, h⟩
      rw [List.mem_singleton] at hg
      rw [hg]
      exact hf
  obtain ⟨query, hquery, h⟩ := Except.bind_eq_ok.mp h
  obtain ⟨params, hp, h⟩ := Except.bind_eq_ok.mp h
  cases h
  exact ⟨listed, extra, query, params, hlisted, hextra, hquery, hp, rfl⟩

theorem decodeCompoundMembers_scriptScore_eq (h : decodeCompoundMembers .scriptScore ms = .ok c) :
    c = empty .scriptScore ∨ ∃ q script params, Query.decodeSlot ms "query" = .ok (some q) ∧
      script.isEmpty = false ∧
      (∃ raw, Json.Members.get? ms "script" = some raw ∧ Script.decode raw = .ok script) ∧
      Params.ofMembers QueryKind.scriptScore.params (some .scriptScore) ms = .ok params ∧
      c = .scriptScore (some q) script params := by
  rw [decodeCompoundMembers] at h
  obtain ⟨query, hquery, h⟩ := Except.bind_eq_ok.mp h
  dsimp only at h
  cases hraw : Json.Members.get? ms "script" with
  | none =>
    rw [hraw] at h
    obtain ⟨script, hs, h⟩ := Except.bind_eq_ok.mp h
    cases hs
    split at h
    · cases h
      exact .inl rfl
    · cases h
    · cases h
    · have hse : ({} : Script).isEmpty = false := ‹_›
      simp [Script.isEmpty] at hse
  | some raw =>
    rw [hraw] at h
    obtain ⟨script, hs, h⟩ := Except.bind_eq_ok.mp h
    split at h
    · cases h
      exact .inl rfl
    · cases h
    · cases h
    · rename_i q hse _
      obtain ⟨params, hp, h⟩ := Except.bind_eq_ok.mp h
      cases h
      exact .inr ⟨q, script, params, hquery, hse, ⟨raw, rfl, hs⟩, hp, rfl⟩

theorem empty_rereads (k : QueryKind) :
    (empty k).kind = k ∧ ((empty k).isEmpty = false → decodeCompound k (empty k).body = .ok (empty k)) :=
  ⟨kind_empty k, fun hne => absurd (isEmpty_empty k) (by simp [hne])⟩

theorem decodeCompoundMembers_bool (hc : ChildrenReread ms)
    (h : decodeCompoundMembers .bool ms = .ok c) :
    c.kind = .bool ∧ (c.isEmpty = false → decodeCompound .bool c.body = .ok c) := by
  obtain ⟨must, filter, should, mustNot, params, hmust, hfilter, hshould, hmustNot, hp, rfl⟩ :=
    decodeCompoundMembers_bool_eq h
  refine ⟨rfl, decodeCompound_bool_body (fun d hd => ?_) (Params.ofMembers_canonical hp)⟩
  simp only [List.mem_append] at hd
  rcases hd with ((hd | hd) | hd) | hd
  exacts [hc.role hmust d hd, hc.role hfilter d hd, hc.role hshould d hd, hc.role hmustNot d hd]

theorem decodeCompoundMembers_boosting (hc : ChildrenReread ms)
    (h : decodeCompoundMembers .boosting ms = .ok c) :
    c.kind = .boosting ∧ (c.isEmpty = false → decodeCompound .boosting c.body = .ok c) := by
  rcases decodeCompoundMembers_boosting_eq h with
    rfl | ⟨p, n, loose, nb, params, hpos, hneg, hwf, hnb, hp, rfl⟩
  · exact empty_rereads .boosting
  · exact ⟨rfl, fun _ => decodeCompound_boosting_body (hc.slot hpos p rfl) (hc.slot hneg n rfl)
      (negativeBoostOf_eq_ok hwf hnb) (Params.ofMembers_canonical hp)⟩

theorem decodeCompoundMembers_constantScore (hc : ChildrenReread ms)
    (h : decodeCompoundMembers .constantScore ms = .ok c) :
    c.kind = .constantScore ∧ (c.isEmpty = false → decodeCompound .constantScore c.body = .ok c) := by
  obtain ⟨filter, params, hfilter, hp, rfl⟩ := decodeCompoundMembers_constantScore_eq h
  refine ⟨rfl, fun hne => ?_⟩
  cases filter with
  | none => cases hne
  | some f =>
    exact decodeCompound_constantScore_body (hc.slot hfilter f rfl) (Params.ofMembers_canonical hp)

theorem decodeCompoundMembers_disMax (hc : ChildrenReread ms)
    (h : decodeCompoundMembers .disMax ms = .ok c) :
    c.kind = .disMax ∧ (c.isEmpty = false → decodeCompound .disMax c.body = .ok c) := by
  obtain ⟨queries, params, hqueries, hp, rfl⟩ := decodeCompoundMembers_disMax_eq h
  exact ⟨rfl, decodeCompound_disMax_body (hc.role hqueries) (Params.ofMembers_canonical hp)⟩

theorem decodeCompoundMembers_functionScore (hc : ChildrenReread ms)
    (h : decodeCompoundMembers .functionScore ms = .ok c) :
    c.kind = .functionScore ∧ (c.isEmpty = false → decodeCompound .functionScore c.body = .ok c) := by
  obtain ⟨listed, extra, query, params, hlisted, hextra, hquery, hp, rfl⟩ :=
    decodeCompoundMembers_functionScore_eq h
  have hfs : ∀ f ∈ listed ++ extra, f.Rereads := fun f hf => by
    rcases List.mem_append.mp hf with hf | hf
    · exact hc.functions hlisted f hf
    · exact ScoreFunction.ofShorthand_rereads (hextra f hf)
  exact ⟨rfl, decodeCompound_functionScore_body (hc.slot hquery) hfs (Params.ofMembers_canonical hp)⟩

theorem decodeCompoundMembers_scriptScore (hc : ChildrenReread ms)
    (h : decodeCompoundMembers .scriptScore ms = .ok c) :
    c.kind = .scriptScore ∧ (c.isEmpty = false → decodeCompound .scriptScore c.body = .ok c) := by
  rcases decodeCompoundMembers_scriptScore_eq h with
    rfl | ⟨q, script, params, hquery, hs, -, hp, rfl⟩
  · exact empty_rereads .scriptScore
  · exact ⟨rfl, fun _ => decodeCompound_scriptScore_body (hc.slot hquery q rfl) hs
      (Params.ofMembers_canonical hp)⟩

end Unpack

/-- A clause read from the members of a compound body reads back from its own body, when the
body's children read back. -/
theorem decodeCompoundMembers_rereads_of {k : QueryKind} {ms : Json.Members} {c : Clause}
    (hc : ChildrenReread ms) (h : decodeCompoundMembers k ms = .ok c) :
    c.kind = k ∧ (c.isEmpty = false → decodeCompound k c.body = .ok c) := by
  cases k
  case bool => exact decodeCompoundMembers_bool hc h
  case boosting => exact decodeCompoundMembers_boosting hc h
  case constantScore => exact decodeCompoundMembers_constantScore hc h
  case disMax => exact decodeCompoundMembers_disMax hc h
  case functionScore => exact decodeCompoundMembers_functionScore hc h
  case scriptScore => exact decodeCompoundMembers_scriptScore hc h
  all_goals
    unfold decodeCompoundMembers at h
    cases h
    exact empty_rereads _

end Clause

end SearchDsl
