import SearchDsl.Proofs.Mapping.Readable
/-!
Mappings read back from their own JSON. A mapping writes its type and, in its type's order, each
parameter its type accepts and it has; reading those members back sets each parameter to what
the mapping holds, whatever order the members come in, because settings are stored sorted by
parameter and each parameter is written once. So every mapping, child list and mapping document
that reading gives reads back from its JSON as itself, and a mapping read has nothing for
validation to report.
-/
set_option autoImplicit false

namespace SearchDsl

namespace MappingParam

theorem key_ne_type (p : MappingParam) : p.key ≠ "type" := by
  cases p <;> decide

theorem ofKey?_type : ofKey? "type" = none := by
  decide

theorem key_injective : Function.Injective key := fun p q h =>
  Option.some.inj (by rw [← ofKey?_key, ← ofKey?_key, h])

end MappingParam

namespace Fields

theorem entriesJson_eq_map (es : List (String × Mapping)) :
    entriesJson es = es.map fun e => (e.1, e.2.toJson) := by
  induction es with
  | nil => rfl
  | cons e rest ih =>
    obtain ⟨n, m⟩ := e
    rw [entriesJson, ih, List.map_cons]

theorem decodeMembers_entriesJson (acc : List (String × Mapping)) {rest : List (String × Mapping)}
    (errs : MappingErrors)
    (hs : Keyed.Sorted id (acc ++ rest))
    (hback : ∀ e ∈ rest, Mapping.decode e.2.toJson = .ok e.2) :
    decodeMembers (mk acc) errs (entriesJson rest) = (mk (acc ++ rest), errs) := by
  induction rest generalizing acc with
  | nil =>
    rw [entriesJson, decodeMembers, List.append_nil]
  | cons e rest ih =>
    obtain ⟨n, m⟩ := e
    have hlast : (mk acc).insert n m = mk (acc ++ [(n, m)]) := by
      show mk (insertEntry n m acc) = _
      rw [insertEntry_eq_put,
        Keyed.put_of_lt fun d hd => (List.pairwise_append.mp hs).2.2 d hd _ List.mem_cons_self]
    rw [entriesJson, decodeMembers, hback (n, m) List.mem_cons_self]
    dsimp only
    rw [hlast, ih (acc ++ [(n, m)]) (by simpa using hs) fun e he => hback e (List.mem_cons_of_mem _ he),
      List.append_assoc, List.singleton_append]

theorem decode_toJson {fs : Fields} (hs : Keyed.Sorted id fs.entries)
    (hback : ∀ e ∈ fs.entries, Mapping.decode e.2.toJson = .ok e.2) :
    Fields.decode fs.toJson = .ok fs := by
  obtain ⟨es⟩ := fs
  have hwritten : Keyed.Sorted id (entriesJson es) := by
    rw [entriesJson_eq_map]
    exact Keyed.Sorted.of_keys hs (by rw [List.map_map]; rfl)
  have hrun : decodeMembers (mk []) {} (entriesJson es) = (mk es, {}) :=
    decodeMembers_entriesJson [] {} hs hback
  rw [toJson, Json.mkObj, Json.Members.ofList_of_sorted hwritten, Fields.decode]
  dsimp only
  rw [show Fields.empty = mk [] from rfl, hrun]
  rfl

end Fields

theorem FieldSetting.Rereads.not_child {p : MappingParam} {s : FieldSetting} (h : s.Rereads p) :
    p ≠ .fields ∧ p ≠ .properties := by
  obtain ⟨j, -, -, h⟩ := h
  constructor <;> rintro rfl <;> simp [MappingParam.settingOf] at h

theorem Fields.eq_empty_of_isEmpty {fs : Fields} (h : fs.isEmpty = true) : fs = .empty := by
  obtain ⟨es⟩ := fs
  cases es with
  | nil => rfl
  | cons e rest => cases h

namespace Mapping

variable {m acc : Mapping} {p : MappingParam} {j : Json} {R : Json.Members}

/-- The members a mapping writes: its type, then each parameter its type accepts and it has, in
its type's order. -/
def writtenMembers (m : Mapping) : List (String × Json) :=
  ("type", .str m.type.tag) :: m.type.params.filterMap fun p => (m.param? p).map fun j => (p.key, j)

theorem toJson_eq (m : Mapping) : m.toJson = Json.mkObj m.writtenMembers := by
  obtain ⟨t, ss, fs, ps⟩ := m
  simp only [toJson, writtenMembers]
  congr

/-- What the JSON of a mapping holds under a key: its type's tag, or the JSON of a parameter its
type accepts. -/
def Written (m : Mapping) (e : String × Json) : Prop :=
  e.1 = "type" ∨ ∃ p, m.type.supports p = true ∧ e.1 = p.key ∧ m.param? p = some e.2

theorem written_of_mem {e : String × Json} (he : e ∈ Json.Members.ofList m.writtenMembers) :
    m.Written e := by
  rcases List.mem_cons.mp (Json.Members.mem_ofList he) with rfl | he
  · exact .inl rfl
  · obtain ⟨p, hp, hpe⟩ := List.mem_filterMap.mp he
    obtain ⟨j, hj, rfl⟩ := Option.map_eq_some_iff.mp hpe
    exact .inr ⟨p, by simpa [FieldType.supports] using hp, rfl, hj⟩

theorem get?_writtenMembers_of_mem {k : String} {v : Json} (hmem : (k, v) ∈ m.writtenMembers) :
    (Json.Members.ofList m.writtenMembers).get? k = some v := by
  refine Json.Members.get?_ofList_of_mem hmem fun e he hk => ?_
  rcases List.mem_cons.mp hmem with heq | hmem'
  · cases heq
    rcases List.mem_cons.mp he with rfl | he
    · rfl
    · obtain ⟨q, -, hqe⟩ := List.mem_filterMap.mp he
      obtain ⟨j', -, rfl⟩ := Option.map_eq_some_iff.mp hqe
      exact absurd hk (MappingParam.key_ne_type q)
  · obtain ⟨p, -, hpe⟩ := List.mem_filterMap.mp hmem'
    obtain ⟨j, hj, hpj⟩ := Option.map_eq_some_iff.mp hpe
    cases hpj
    rcases List.mem_cons.mp he with rfl | he
    · exact absurd hk.symm (MappingParam.key_ne_type p)
    · obtain ⟨q, -, hqe⟩ := List.mem_filterMap.mp he
      obtain ⟨j', hj', rfl⟩ := Option.map_eq_some_iff.mp hqe
      obtain rfl := MappingParam.key_injective hk
      exact Option.some.inj (hj'.symm.trans hj)

theorem mem_writtenMembers (hp : m.type.supports p = true) (hj : m.param? p = some j) :
    (p.key, j) ∈ m.writtenMembers :=
  List.mem_cons_of_mem _
    (List.mem_filterMap.mpr ⟨p, by simpa [FieldType.supports] using hp, by simp [hj]⟩)

theorem mem_keys_of_param? (hp : m.type.supports p = true) (hj : m.param? p = some j) :
    p.key ∈ (Json.Members.ofList m.writtenMembers).map Prod.fst :=
  List.mem_map.mpr ⟨(p.key, j),
    Json.Members.get?_eq_some_mem (get?_writtenMembers_of_mem (mem_writtenMembers hp hj)), rfl⟩

theorem param?_of_setting? {s : FieldSetting} (hs : m.setting? p = some s) (hr : s.Rereads p) :
    ∃ j, m.param? p = some j ∧ j ≠ .null ∧ p.settingOf j = .ok (some s) := by
  obtain ⟨j, hj, hnull, hset⟩ := hr
  obtain ⟨hf, hp⟩ := FieldSetting.Rereads.not_child ⟨j, hj, hnull, hset⟩
  exact ⟨j, by rw [param?.eq_3 m p hf hp, hs]; exact hj, hnull, hset⟩

theorem Fit.setting?_rereads {s : FieldSetting} (hfit : m.Fit) (hs : m.setting? p = some s) :
    m.type.supports p = true ∧ s.Rereads p :=
  hfit.settings (p, s) (Keyed.mem_of_lookup_eq_some hs)

section Unwritten

variable (hfit : m.Fit)
include hfit

theorem setting?_eq_none_of_not_mem {q : MappingParam}
    (hq : q.key ∉ (Json.Members.ofList m.writtenMembers).map Prod.fst) : m.setting? q = none := by
  cases hs : m.setting? q with
  | none => rfl
  | some s =>
    obtain ⟨hsup, hr⟩ := hfit.setting?_rereads hs
    obtain ⟨j, hj, -⟩ := param?_of_setting? hs hr
    exact absurd (mem_keys_of_param? hsup hj) hq

theorem fields_eq_empty_of_not_mem
    (hq : MappingParam.fields.key ∉ (Json.Members.ofList m.writtenMembers).map Prod.fst) :
    m.fields = .empty := by
  cases hf : m.fields.isEmpty
  · have hj : m.param? .fields = some m.fields.toJson := by simp [param?, hf]
    exact absurd (mem_keys_of_param? (hfit.fields hf) hj) hq
  · exact Fields.eq_empty_of_isEmpty hf

theorem properties_eq_empty_of_not_mem
    (hq : MappingParam.properties.key ∉ (Json.Members.ofList m.writtenMembers).map Prod.fst) :
    m.properties = .empty := by
  cases hf : m.properties.isEmpty
  · have hj : m.param? .properties = some m.properties.toJson := by simp [param?, hf]
    exact absurd (mem_keys_of_param? (hfit.properties hf) hj) hq
  · exact Fields.eq_empty_of_isEmpty hf

end Unwritten

/-! Setting one parameter from its written JSON. -/

theorem setValue_of_ne_null (hj : j ≠ .null) :
    m.setValue p j = (p.settingOf j).map (m.putSetting p) := by
  unfold setValue
  split
  · exact absurd rfl hj
  · rfl

theorem set_setting {s : FieldSetting} (hp : m.type.supports p = true)
    (hne : p ≠ .fields ∧ p ≠ .properties) (hj : j ≠ .null) (hset : p.settingOf j = .ok (some s)) :
    m.set p j = .ok (m.putSetting p (some s)) := by
  unfold Mapping.set
  rw [if_neg (by simp [hp])]
  split
  · exact absurd rfl hne.1
  · exact absurd rfl hne.2
  · rw [setValue_of_ne_null hj, hset]
    rfl

theorem set_fields {c : Fields} (hp : m.type.supports .fields = true) (hc : Fields.decode j = .ok c) :
    m.set .fields j = .ok (mk m.type m.settings c m.properties) := by
  obtain ⟨t, ss, fs, ps⟩ := m
  simp only [type_mk] at hp
  unfold Mapping.set
  simp only [type_mk, settings_mk, properties_mk, hp, hc, setChildren, Bool.not_true, Bool.false_eq_true, if_false]
  rfl

theorem set_properties {c : Fields} (hp : m.type.supports .properties = true)
    (hc : Fields.decode j = .ok c) :
    m.set .properties j = .ok (mk m.type m.settings m.fields c) := by
  obtain ⟨t, ss, fs, ps⟩ := m
  simp only [type_mk] at hp
  unfold Mapping.set
  simp only [type_mk, settings_mk, fields_mk, hp, hc, setChildren, Bool.not_true, Bool.false_eq_true, if_false]
  rfl

/-- Reading the members `R` still left of the JSON of `m` into `acc` gives `m`: `acc` has the
type of `m` and its settings sorted, holds what `m` holds on every parameter whose key is not
left, and nothing on those whose key is. -/
structure Pending (m acc : Mapping) (R : Json.Members) : Prop where
  type : acc.type = m.type
  sorted : Keyed.Sorted paramIndex acc.settings
  setting : ∀ q, acc.setting? q = if q.key ∈ R.map Prod.fst then none else m.setting? q
  fields : acc.fields = if MappingParam.fields.key ∈ R.map Prod.fst then .empty else m.fields
  properties : acc.properties =
    if MappingParam.properties.key ∈ R.map Prod.fst then .empty else m.properties

theorem Pending.start (hfit : m.Fit) : Pending m (new m.type) (Json.Members.ofList m.writtenMembers) := by
  refine ⟨rfl, List.Pairwise.nil, fun q => ?_, ?_, ?_⟩
  · split
    · rfl
    · exact (setting?_eq_none_of_not_mem hfit ‹_›).symm
  · split
    · rfl
    · exact (fields_eq_empty_of_not_mem hfit ‹_›).symm
  · split
    · rfl
    · exact (properties_eq_empty_of_not_mem hfit ‹_›).symm

theorem Pending.eq_of_nil (hacc : Pending m acc []) (hfit : m.Fit) : acc = m := by
  obtain ⟨t, ss, fs, ps⟩ := acc
  obtain ⟨t', ss', fs', ps'⟩ := m
  obtain ⟨ht, hsorted, hset, hf, hp⟩ := hacc
  simp only [type_mk, fields_mk, properties_mk, List.map_nil, List.not_mem_nil, if_false] at ht hf hp
  subst ht hf hp
  congr
  exact Keyed.eq_of_lookup paramIndex_injective hsorted hfit.sorted fun q => by
    simpa [setting?] using hset q

theorem Pending.skip {k : String} (hacc : Pending m acc ((k, j) :: R))
    (hk : ∀ q : MappingParam, q.key ≠ k) : Pending m acc R := by
  have hmem : ∀ q : MappingParam, q.key ∈ ((k, j) :: R).map Prod.fst ↔ q.key ∈ R.map Prod.fst :=
    fun q => by simp [hk q]
  exact ⟨hacc.type, hacc.sorted, fun q => by simpa only [hmem] using hacc.setting q,
    by simpa only [hmem] using hacc.fields, by simpa only [hmem] using hacc.properties⟩

theorem Pending.set (hacc : Pending m acc ((p.key, j) :: R)) (hfresh : p.key ∉ R.map Prod.fst)
    (hfit : m.Fit) (hF : Fields.decode m.fields.toJson = .ok m.fields)
    (hP : Fields.decode m.properties.toJson = .ok m.properties) (hp : m.type.supports p = true)
    (hj : m.param? p = some j) : ∃ acc', acc.set p j = .ok acc' ∧ Pending m acc' R := by
  have hsup : acc.type.supports p = true := hacc.type ▸ hp
  -- the keys left after this member: another parameter's key is left as it was
  have hleft : ∀ q, q ≠ p → (q.key ∈ ((p.key, j) :: R).map Prod.fst ↔ q.key ∈ R.map Prod.fst) :=
    fun q hq => by simp [MappingParam.key_injective.ne hq]
  have hnone : ∀ c, c = MappingParam.fields ∨ c = .properties → m.setting? c = none := by
    intro c hc
    cases hs : m.setting? c with
    | none => rfl
    | some s =>
      have := FieldSetting.Rereads.not_child (hfit.setting?_rereads hs).2
      rcases hc with rfl | rfl <;> simp_all
  by_cases hf : p = .fields
  · subst hf
    have hne : m.fields.isEmpty = false := by
      cases h : m.fields.isEmpty
      · rfl
      · simp [param?, h] at hj
    have hjF : j = m.fields.toJson := by simpa [param?, hne] using hj.symm
    subst hjF
    refine ⟨_, set_fields hsup hF, hacc.type, hacc.sorted, fun q => ?_, ?_, ?_⟩
    · rw [setting?, settings_mk, ← setting?, hacc.setting q]
      by_cases hq : q = .fields
      · subst hq
        simp [hfresh, hnone .fields (.inl rfl)]
      · simp only [hleft q hq]
    · simp [hfresh]
    · simpa only [properties_mk, hleft .properties (by decide)] using hacc.properties
  by_cases hps : p = .properties
  · subst hps
    have hne : m.properties.isEmpty = false := by
      cases h : m.properties.isEmpty
      · rfl
      · simp [param?, h] at hj
    have hjP : j = m.properties.toJson := by simpa [param?, hne] using hj.symm
    subst hjP
    refine ⟨_, set_properties hsup hP, hacc.type, hacc.sorted, fun q => ?_, ?_, ?_⟩
    · rw [setting?, settings_mk, ← setting?, hacc.setting q]
      by_cases hq : q = .properties
      · subst hq
        simp [hfresh, hnone .properties (.inr rfl)]
      · simp only [hleft q hq]
    · simpa only [fields_mk, hleft .fields (by decide)] using hacc.fields
    · simp [hfresh]
  obtain ⟨s, hs, hjs⟩ := Option.bind_eq_some_iff.mp (by rwa [param?.eq_3 m p hf hps] at hj)
  obtain ⟨j', hj', hnull, hset⟩ := (hfit.setting?_rereads hs).2
  obtain rfl : j' = j := Option.some.inj (hj'.symm.trans hjs)
  refine ⟨_, set_setting hsup ⟨hf, hps⟩ hnull hset, ?_, ?_, fun q => ?_, ?_, ?_⟩
  · simp [hacc.type]
  · rw [settings_putSetting_some]
    exact Keyed.sorted_put paramIndex_injective hacc.sorted p s
  · rw [setting?_putSetting_some, hacc.setting q]
    by_cases hq : q = p
    · subst hq
      simp [hfresh, hs]
    · simp only [hq, if_false, hleft q hq]
  · simpa only [fields_putSetting, hleft .fields (Ne.symm hf)] using hacc.fields
  · simpa only [properties_putSetting, hleft .properties (Ne.symm hps)] using hacc.properties

theorem decodeMembers_written (hfit : m.Fit) (hF : Fields.decode m.fields.toJson = .ok m.fields)
    (hP : Fields.decode m.properties.toJson = .ok m.properties) (errs : MappingErrors)
    (hR : ∀ e ∈ R, m.Written e) (hnodup : (R.map Prod.fst).Nodup) (hacc : Pending m acc R) :
    decodeMembers acc errs R = (m, errs) := by
  induction R generalizing acc with
  | nil => rw [decodeMembers, hacc.eq_of_nil hfit]
  | cons e R ih =>
    obtain ⟨k, j⟩ := e
    obtain ⟨hfresh, hrest⟩ := List.nodup_cons.mp hnodup
    have hR' : ∀ e ∈ R, m.Written e := fun e he => hR e (List.mem_cons_of_mem _ he)
    rcases hR (k, j) List.mem_cons_self with hk | ⟨p, hp, hk, hj⟩
    · -- the type, which reading has already taken
      obtain rfl : k = "type" := hk
      rw [decodeMembers, MappingParam.ofKey?_type]
      exact ih hR' hrest (hacc.skip fun q => q.key_ne_type)
    · obtain rfl : k = p.key := hk
      obtain ⟨acc', hset, hacc'⟩ := hacc.set hfresh hfit hF hP hp hj
      rw [decodeMembers, MappingParam.ofKey?_key]
      dsimp only
      rw [if_neg p.key_ne_type, hset]
      exact ih hR' hrest hacc'

theorem readType_writtenMembers (m : Mapping) :
    readType (Json.Members.ofList m.writtenMembers) = .ok m.type := by
  unfold readType
  rw [get?_writtenMembers_of_mem List.mem_cons_self]
  simp [FieldType.parse, FieldType.ofTag?_tag]

/-- A mapping that fits, lacks no required parameter and whose children read back, reads back. -/
theorem decode_toJson_of_fit (hfit : m.Fit) (hreq : m.missingRequired = [])
    (hF : Fields.decode m.fields.toJson = .ok m.fields)
    (hP : Fields.decode m.properties.toJson = .ok m.properties) :
    Mapping.decode m.toJson = .ok m := by
  have hnodup : ((Json.Members.ofList m.writtenMembers).map Prod.fst).Nodup :=
    (List.pairwise_map.mpr (Json.Members.sorted_ofList m.writtenMembers)).imp ne_of_lt
  have hrun := decodeMembers_written hfit hF hP {} (fun e he => written_of_mem he) hnodup
    (Pending.start hfit)
  rw [toJson_eq, Json.mkObj, Mapping.decode]
  dsimp only
  rw [readType_writtenMembers]
  dsimp only
  rw [hrun]
  simp [hreq, MappingErrors.append, MappingErrors.toExcept]

/-- Every readable mapping reads back from its JSON. -/
theorem Readable.decode_toJson (h : m.Readable) : Mapping.decode m.toJson = .ok m := by
  induction h with
  | mk hfit _ _ hreq ihf ihp =>
    exact decode_toJson_of_fit hfit hreq (Fields.decode_toJson hfit.fieldsSorted ihf)
      (Fields.decode_toJson hfit.propertiesSorted ihp)

theorem validateChildren_of_valid {acc : MappingErrors} {es : List (String × Mapping)}
    (h : ∀ e ∈ es, e.2.validate = {}) : validateChildren acc es = acc := by
  induction es with
  | nil => rfl
  | cons e rest ih =>
    obtain ⟨n, child⟩ := e
    rw [validateChildren, h (n, child) List.mem_cons_self]
    exact ih fun e he => h e (List.mem_cons_of_mem _ he)

/-- A readable mapping has nothing for validation to report. -/
theorem Readable.validate (h : m.Readable) : m.validate = {} := by
  induction h with
  | @mk m _ _ _ hreq ihf ihp =>
    obtain ⟨t, ss, ⟨fs⟩, ⟨ps⟩⟩ := m
    have ihf : ∀ e ∈ fs, e.2.validate = {} := ihf
    have ihp : ∀ e ∈ ps, e.2.validate = {} := ihp
    rw [Mapping.validate, hreq, validateChildren_of_valid ihf, validateChildren_of_valid ihp]

end Mapping

namespace Mappings

theorem dynamicOf_toJson (d : Dynamic) : dynamicOf d.toJson = .ok d := by
  have key : ∀ l : Loose, Loose.ofJson d.toJson = .ok (some l) → l.text = Tagged.tag d →
      dynamicOf d.toJson = .ok d := by
    intro l hl ht
    simp [dynamicOf, hl, ht]
  cases d <;> exact key _ rfl rfl

theorem decode_readable {v : Json} {d : Mappings} (h : Mappings.decode v = .ok d) :
    d.properties.Readable := by
  unfold Mappings.decode at h
  split at h
  · split at h
    split at h
    rename_i hq
    obtain ⟨-, rfl⟩ := MappingErrors.toExcept_eq_ok.mp h
    split at hq
    · cases hq
      exact Fields.readable_empty
    · split at hq
      · cases hq
        exact Fields.decode_readable ‹_›
      · cases hq
        exact Fields.readable_empty
  · cases h

theorem decode_toJson {d : Mappings} (h : d.properties.Readable) : Mappings.decode d.toJson = .ok d := by
  obtain ⟨dynamic, properties⟩ := d
  have hF : Fields.decode properties.toJson = .ok properties := Fields.decode_toJson h.1
    fun e he => (h.2 e he).decode_toJson
  have hprops : (Json.Members.ofList ((dynamic.map fun x => ("dynamic", x.toJson)).toList ++
      [("properties", properties.toJson)])).get? "properties" = some properties.toJson := by
    rw [Json.Members.get?_ofList_append]
    simp
  have hdyn : (Json.Members.ofList ((dynamic.map fun x => ("dynamic", x.toJson)).toList ++
      [("properties", properties.toJson)])).get? "dynamic" = dynamic.map Dynamic.toJson := by
    rw [Json.Members.get?_ofList_append]
    cases dynamic <;> simp
  rw [toJson, Json.mkObj, Mappings.decode]
  dsimp only
  rw [hdyn, hprops]
  cases dynamic with
  | none => simp [hF, MappingErrors.toExcept]
  | some x =>
    -- the written `dynamic` is never null, and reads back
    simp only [hF]
    split
    · rename_i heq
      cases heq
    · rename_i heq
      exact absurd (Option.some.inj heq) x.toJson_ne_null
    · rename_i heq
      cases heq
      simp [dynamicOf_toJson, MappingErrors.toExcept]

end Mappings

/-- Reading mappings is undone by writing them: a mapping read from any JSON validates and reads
back from its JSON, and so do the children and the mapping documents that reading gives, at
every depth. -/
theorem mappings_readBack_of_decode :
    (∀ (J : Json) (m : Mapping), Mapping.decode J = .ok m →
      m.validate.toExcept () = .ok () ∧ Mapping.decode m.toJson = .ok m) ∧
    (∀ (J : Json) (f : Fields), Fields.decode J = .ok f → Fields.decode f.toJson = .ok f) ∧
    (∀ (J : Json) (d : Mappings), Mappings.decode J = .ok d → Mappings.decode d.toJson = .ok d) := by
  refine ⟨fun J m h => ?_, fun J f h => ?_, fun J d h => Mappings.decode_toJson (Mappings.decode_readable h)⟩
  · have hm := Mapping.decode_readable h
    rw [hm.validate, hm.decode_toJson]
    exact ⟨rfl, rfl⟩
  · have hf := Fields.decode_readable h
    exact Fields.decode_toJson hf.1 fun e he => (hf.2 e he).decode_toJson

end SearchDsl
