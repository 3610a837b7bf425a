import SearchDsl.Query.ScoreFunction
import SearchDsl.Proofs.Query.Leaves
/-!
Scoring function bodies read back from their JSON. Reading a body checks it and keeps only what
it can write again: a decay keeps a field that is not `multi_value_mode`, an origin and a scale
that are not empty and a decay other than the default; a factor function keeps a factor other
than 1. Each body is described by what reading it guarantees, and a body with those guarantees
reads back from its JSON.
-/
set_option autoImplicit false

namespace SearchDsl

namespace DecayFunction

/-- What reading a decay body guarantees of it. -/
structure Readable (d : DecayFunction) : Prop where
  field_ne_empty : d.field ≠ ""
  field_ne_mode : d.field ≠ "multi_value_mode"
  origin : Scalar.ofJson? d.origin.toJson = some d.origin
  origin_ne_empty : d.origin.isEmpty = false
  scale : Scalar.ofJson? d.scale.toJson = some d.scale
  scale_ne_empty : d.scale.isEmpty = false
  offset : ∀ s, d.offset = some s → Scalar.ofJson? s.toJson = some s
  decay : ∀ x, d.decay = some x → x.isFinite = true ∧ 0 < x ∧ x < 1 ∧ (x == 0.5) = false

theorem validate_eq_ok {k : FunctionKind} {field : String} {origin scale : Option Scalar}
    {o s : Scalar} (h : validate k field origin scale = .ok (o, s)) :
    field ≠ "" ∧ origin = some o ∧ o.isEmpty = false ∧ scale = some s ∧ s.isEmpty = false := by
  unfold validate at h
  split at h
  · cases h
  · rename_i hfield
    split at h
    · cases h
    · cases h
    · rename_i o' s' ho hs
      cases h
      simp only [Option.filter_eq_some_iff, Bool.not_eq_eq_eq_not, Bool.not_true] at ho hs
      exact ⟨by simpa using hfield, ho.1, ho.2, hs.1, hs.2⟩

theorem decayOf_eq_ok {raw : Option Loose} {decay : Option Float}
    (hraw : ∀ l, raw = some l → l.WellFormed) (h : decayOf raw = .ok decay) :
    ∀ x, decay = some x → x.isFinite = true ∧ 0 < x ∧ x < 1 ∧ (x == 0.5) = false := by
  intro x hx
  subst hx
  cases raw with
  | none => cases h
  | some l =>
    simp only [decayOf] at h
    split at h
    · rename_i d hd
      split at h
      · rename_i hrange
        split at h
        · cases h
        · rename_i hhalf
          cases h
          simp only [Bool.and_eq_true, decide_eq_true_eq] at hrange
          exact ⟨Loose.toF64?_isFinite (hraw l rfl) hd, hrange.1, hrange.2, by simpa using hhalf⟩
      · cases h
    · cases h

theorem decode_readable {c : DecayCurve} {v : Json} {d : DecayFunction} (h : decode c v = .ok d) :
    d.curve = c ∧ d.Readable := by
  unfold decode at h
  dsimp only at h
  split at h
  rotate_left
  · cases h
  rename_i ms
  simp only [Except.pure_eq, Except.ok_bind] at h
  obtain ⟨mode, -, h⟩ := Except.bind_eq_ok.mp h
  -- the field is the one member other than the mode
  split at h
  rotate_left
  · cases h
  · cases h
  rename_i field inner hf
  have hmode : field ≠ "multi_value_mode" := by
    have hmem : (field, Json.obj inner) ∈ ms.filter fun m => decide (m.1 ≠ "multi_value_mode") := by
      rw [hf]
      exact List.mem_singleton_self _
    simpa using (List.mem_filter.mp hmem).2
  obtain ⟨origin, horigin, h⟩ := Except.bind_eq_ok.mp h
  obtain ⟨scale, hscale, h⟩ := Except.bind_eq_ok.mp h
  obtain ⟨offset, hoffset, h⟩ := Except.bind_eq_ok.mp h
  obtain ⟨raw, hwf, h⟩ : ∃ raw : Option Loose, (∀ l, raw = some l → l.WellFormed) ∧
      (do
        let decay ← (decayOf raw).mapError (·.withField field)
        let bounds ← validate c.kind field origin scale
        pure (⟨c, field, bounds.1, bounds.2, offset, decay, mode⟩ : DecayFunction)) = Except.ok d := by
    split at h
    · split at h
      · rename_i hl
        exact ⟨_, fun l hsome => Loose.ofJson_wellFormed (hsome ▸ hl), h⟩
      · cases h
    · refine ⟨none, ?_, h⟩
      intro l hsome
      cases hsome
  obtain ⟨decay, hdecay, h⟩ := Except.bind_eq_ok.mp h
  obtain ⟨⟨o, s⟩, hval, h⟩ := Except.bind_eq_ok.mp h
  cases h
  obtain ⟨hne, rfl, ho, rfl, hs⟩ := validate_eq_ok hval
  exact ⟨rfl, hne, hmode, Shape.ofJson?_of_scalar? (Except.mapError_eq_ok.mp horigin), ho,
    Shape.ofJson?_of_scalar? (Except.mapError_eq_ok.mp hscale), hs,
    fun x (hx : offset = some x) => Shape.ofJson?_of_scalar? (hx ▸ Except.mapError_eq_ok.mp hoffset),
    decayOf_eq_ok hwf (Except.mapError_eq_ok.mp hdecay)⟩

theorem decode_toJson {d : DecayFunction} (hd : d.Readable) : decode d.curve d.toJson = .ok d := by
  obtain ⟨c, field, origin, scale, offset, decay, mode⟩ := d
  have hfield : field ≠ "multi_value_mode" := hd.field_ne_mode
  rw [toJson]
  unfold decode
  simp only [Json.mkObj, Except.pure_eq, Except.ok_bind]
  set inner := Json.Members.ofList ([("origin", origin.toJson), ("scale", scale.toJson)] ++
    Shape.opt "offset" (offset.map Scalar.toJson) ++ Shape.opt "decay" (decay.map .float)) with hinner
  set ms := Json.Members.ofList ((field, Json.obj inner) :: Shape.nonEmpty "multi_value_mode" mode)
    with hms
  have hmode : Shape.text ms "multi_value_mode" = .ok mode := Shape.text_of_get? (by
    by_cases hm : mode = "" <;> simp [hms, Json.Members.get?_ofList_cons, hm, hfield])
  have hfilter : ms.filter (fun m => decide (m.1 ≠ "multi_value_mode")) = [(field, Json.obj inner)] := by
    refine Json.Members.filter_eq_singleton (Json.Members.sorted_ofList _) ?_ (by simpa using hfield) ?_
    · by_cases hm : mode = "" <;> simp [Json.Members.get?_ofList_cons, hm, Ne.symm hfield]
    · intro m hm hkeep
      rcases List.mem_cons.mp (Json.Members.mem_ofList hm) with rfl | hm
      · rfl
      · simp [mem_nonEmpty hm] at hkeep
  have horigin : Shape.scalar? inner "origin" = .ok (some origin) :=
    Shape.scalar?_of_get? (by simp [hinner, Json.Members.get?_ofList_append,
      Json.Members.get?_ofList_cons]) hd.origin
  have hscale : Shape.scalar? inner "scale" = .ok (some scale) :=
    Shape.scalar?_of_get? (by simp [hinner, Json.Members.get?_ofList_append,
      Json.Members.get?_ofList_cons]) hd.scale
  have hoffset : Shape.scalar? inner "offset" = .ok offset :=
    Shape.scalar?_of_get?_map (by simp [hinner, Json.Members.get?_ofList_append,
      Json.Members.get?_ofList_cons]) hd.offset
  have hraw : inner.get? "decay" = decay.map .float := by
    simp [hinner, Json.Members.get?_ofList_append, Json.Members.get?_ofList_cons]
  have hval : validate c.kind field (some origin) (some scale) = .ok (origin, scale) := by
    simp [validate, Option.filter, hd.field_ne_empty, hd.origin_ne_empty, hd.scale_ne_empty]
  rw [hmode]
  simp only [Except.ok_bind, hfilter, horigin, hscale, hoffset, hraw, Except.mapError_ok]
  cases decay with
  | none => simp [decayOf, hval]
  | some x =>
    obtain ⟨hfin, hpos, hlt, hhalf⟩ := hd.decay x rfl
    simp [Loose.ofJson, decayOf, Loose.toF64?_float hfin, hpos, hlt, hhalf, hval]

end DecayFunction

namespace FactorFunction

/-- What reading a factor function guarantees of it. -/
structure Readable (f : FactorFunction) : Prop where
  field_ne_empty : f.field ≠ ""
  factor : ∀ x, f.factor = some x → x.isFinite = true ∧ (x != 1.0) = true
  missing : ∀ x, f.missing = some x → x.isFinite = true
  params : Params.Canonical Param.factorList f.params

theorem decode_readable {v : Json} {f : FactorFunction} (h : decode v = .ok f) : f.Readable := by
  unfold decode at h
  dsimp only at h
  split at h
  rotate_left
  · cases h
  rename_i ms
  simp only [Except.pure_eq, Except.ok_bind] at h
  obtain ⟨field, -, h⟩ := Except.bind_eq_ok.mp h
  obtain ⟨factor, hfactor, h⟩ := Except.bind_eq_ok.mp h
  obtain ⟨missing, hmissing, h⟩ := Except.bind_eq_ok.mp h
  split at h
  · cases h
  rename_i hfield
  obtain ⟨ps, hps, h⟩ := Except.bind_eq_ok.mp h
  cases h
  refine ⟨by simpa using hfield, fun x hx => ?_,
    fun x (hx : missing = some x) => Shape.float?_isFinite (hx ▸ hmissing),
    Params.ofMembers_canonical hps⟩
  cases factor with
  | none => cases hx
  | some y =>
    simp only [Option.filter_eq_some_iff] at hx
    obtain ⟨hyx, hne⟩ := hx
    obtain rfl := Option.some.inj hyx
    exact ⟨Shape.float?_isFinite hfactor, hne⟩

theorem decode_toJson {f : FactorFunction} (hf : f.Readable) : decode f.toJson = .ok f := by
  obtain ⟨field, factor, missing, ps⟩ := f
  let own := ("field", Json.str field) :: Shape.opt "factor" (factor.map .float) ++
    Shape.opt "missing" (missing.map .float)
  have hbody : toJson ⟨field, factor, missing, ps⟩ = Json.mkObj (own ++ ps.members Param.factorList) := by
    simp [toJson, own]
  let ms := Json.Members.ofList (own ++ ps.members Param.factorList)
  have hown : ∀ k, Param.ofKey? k = none → ms.get? k = (Json.Members.ofList own).get? k :=
    fun _ hk => Json.Members.get?_own_params_of_ofKey? own ps _ hk
  have htext : Shape.text ms "field" = .ok field := Shape.text_of_get? ((hown "field" rfl).trans (by
    simp [own, Json.Members.get?_ofList_append, Json.Members.get?_ofList_cons, hf.field_ne_empty]))
  have hfactor : Shape.float? ms "factor" = .ok factor := by
    cases factor with
    | none => exact Shape.looseSlot?_of_get?_none _ ((hown "factor" rfl).trans (by
        simp [own, Json.Members.get?_ofList_append, Json.Members.get?_ofList_cons]))
    | some x => exact Shape.float?_of_get? (hf.factor x rfl).1 ((hown "factor" rfl).trans (by
        simp [own, Json.Members.get?_ofList_append, Json.Members.get?_ofList_cons]))
  have hmissing : Shape.float? ms "missing" = .ok missing := by
    cases missing with
    | none => exact Shape.looseSlot?_of_get?_none _ ((hown "missing" rfl).trans (by
        simp [own, Json.Members.get?_ofList_append, Json.Members.get?_ofList_cons]))
    | some x => exact Shape.float?_of_get? (hf.missing x rfl) ((hown "missing" rfl).trans (by
        simp [own, Json.Members.get?_ofList_append, Json.Members.get?_ofList_cons]))
  have hkeys : ∀ m ∈ own, m.1 ∈ ["field", "factor", "missing"] := by
    intro m hm
    simp only [own, List.mem_append, List.mem_cons] at hm
    rcases hm with (rfl | hm) | hm
    · simp
    · simp [mem_opt hm]
    · simp [mem_opt hm]
  have hpar := Params.ofMembers_own_params (some .functionScore) own hf.params
    (own_ne_key _ hkeys (by decide) _)
  -- a factor that is kept is not 1, so keeping it again changes nothing
  have hkeep : factor.filter (· != 1.0) = factor := by
    cases factor with
    | none => rfl
    | some x => simp [Option.filter, (hf.factor x rfl).2]
  rw [hbody]
  simp only [ms] at htext hfactor hmissing
  simp [decode, Json.mkObj, htext, hfactor, hmissing, hpar, hf.field_ne_empty, hkeep]

end FactorFunction

namespace RandomFunction

theorem decode_readable {v : Json} {r : RandomFunction} (h : decode v = .ok r) :
    ∀ s, r.seed = some s → Scalar.ofJson? s.toJson = some s := by
  unfold decode at h
  obtain ⟨o, -, h⟩ := Except.bind_eq_ok.mp h
  rcases o with _ | ms
  · cases h
    intro s hs
    cases hs
  · obtain ⟨seed, hseed, h⟩ := Except.bind_eq_ok.mp h
    obtain ⟨field, -, h⟩ := Except.bind_eq_ok.mp h
    cases h
    intro s (hs : seed = some s)
    exact Shape.ofJson?_of_scalar? (hs ▸ hseed)

theorem decode_toJson {r : RandomFunction} (hr : ∀ s, r.seed = some s → Scalar.ofJson? s.toJson = some s) :
    decode r.toJson = .ok r := by
  obtain ⟨seed, field⟩ := r
  let ms := Json.Members.ofList (Shape.opt "seed" (seed.map Scalar.toJson) ++ Shape.nonEmpty "field" field)
  have hseed : Shape.scalar? ms "seed" = .ok seed :=
    Shape.scalar?_of_get?_map (by simp [ms, Json.Members.get?_ofList_append]) hr
  have hfield : Shape.text ms "field" = .ok field := Shape.text_of_get? (by
    by_cases hf : field = "" <;> simp [ms, Json.Members.get?_ofList_append, hf])
  simp only [ms] at hseed hfield
  simp [toJson, decode, Shape.flat_mkObj, hseed, hfield]

end RandomFunction

namespace FunctionBody

/-- What reading a function body guarantees of it. -/
def Readable : FunctionBody → Prop
  | decay d => d.Readable
  | fieldValueFactor f => f.Readable
  | scriptScore s => s.isEmpty = false
  | randomScore r => ∀ s, r.seed = some s → Scalar.ofJson? s.toJson = some s
  | weight => True

theorem decodeScript_readable {v : Json} {s : Script} (h : decodeScript v = .ok s) :
    s.isEmpty = false := by
  -- every way of reading ends in the requirement that the script is not empty
  have hreq : ∀ s', Script.required (some s') = .ok s → s.isEmpty = false := by
    intro s' hr
    by_cases hs : s'.isEmpty = true
    · simp [Script.required, hs] at hr
    · simp only [Script.required, hs, Bool.false_eq_true, if_false, Except.ok.injEq] at hr
      subst hr
      simpa using hs
  unfold decodeScript at h
  dsimp only at h
  split at h
  · split at h
    · obtain ⟨s', -, h⟩ := Except.bind_eq_ok.mp h
      exact hreq s' h
    · simp only [Except.pure_eq, Except.ok_bind] at h
      exact hreq _ h
  · cases h

theorem decodeScript_toJson {s : Script} (hs : s.isEmpty = false) :
    decodeScript (.obj [("script", s.toJson)]) = .ok s := by
  simp [decodeScript, Script.decode_toJson, Script.required, hs]

theorem decodeIn_readable {ms : Json.Members} {b : FunctionBody} (h : decodeIn ms = .ok b) :
    b.Readable := by
  unfold decodeIn at h
  dsimp only at h
  split at h
  · cases h
  · obtain ⟨d, hd, rfl⟩ := Except.map_eq_ok.mp h
    exact (DecayFunction.decode_readable hd).2
  · obtain ⟨d, hd, rfl⟩ := Except.map_eq_ok.mp h
    exact (DecayFunction.decode_readable hd).2
  · obtain ⟨d, hd, rfl⟩ := Except.map_eq_ok.mp h
    exact (DecayFunction.decode_readable hd).2
  · obtain ⟨f, hf, rfl⟩ := Except.map_eq_ok.mp h
    exact FactorFunction.decode_readable hf
  · obtain ⟨s, hs, rfl⟩ := Except.map_eq_ok.mp h
    exact decodeScript_readable hs
  · obtain ⟨r, hr, rfl⟩ := Except.map_eq_ok.mp h
    exact RandomFunction.decode_readable hr
  · cases h
    trivial

theorem decodeIn_of_get? {b : FunctionBody} (hb : b.Readable) {ms : Json.Members}
    (h : ∀ k, k ≠ .weight → ms.get? k.tag = if k = b.kind then b.toJson? else none) :
    decodeIn ms = .ok b := by
  unfold decodeIn
  cases b with
  | decay d =>
    have hd := DecayFunction.decode_toJson hb
    obtain ⟨c, field, origin, scale, offset, decay, mode⟩ := d
    cases c <;> simp_all [FunctionKind.keyed, kind, toJson?, DecayCurve.kind]
  | fieldValueFactor f =>
    simp [FunctionKind.keyed, h, kind, toJson?, FactorFunction.decode_toJson hb]
  | scriptScore s =>
    simp [FunctionKind.keyed, h, kind, toJson?, decodeScript_toJson hb]
  | randomScore r =>
    simp [FunctionKind.keyed, h, kind, toJson?, RandomFunction.decode_toJson hb]
  | weight => simp [FunctionKind.keyed, h, kind]

theorem readWeight_eq_ok {b : FunctionBody} {ms : Json.Members} {ps : Params}
    (h : readWeight b ms = .ok ps) :
    Params.ofMembers Param.functionList (some .functionScore) ms = .ok ps ∧
      (b = .weight → ps.weight?.isSome = true) := by
  unfold readWeight at h
  obtain ⟨ps', hps, h⟩ := Except.bind_eq_ok.mp h
  split at h
  · cases h
  · rename_i hnot
    cases h
    refine ⟨hps, fun hb => ?_⟩
    subst hb
    cases hw : ps.weight? with
    | none => exact (hnot rfl hw).elim
    | some w => rfl

theorem readWeight_of_ofMembers {b : FunctionBody} {ms : Json.Members} {ps : Params}
    (h : Params.ofMembers Param.functionList (some .functionScore) ms = .ok ps)
    (hw : b = .weight → ps.weight?.isSome = true) : readWeight b ms = .ok ps := by
  unfold readWeight
  rw [h, Except.ok_bind]
  split
  · rename_i hnone
    simp [hnone] at hw
  · rfl

end FunctionBody

end SearchDsl
