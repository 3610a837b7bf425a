import SearchDsl.Proofs.Param.Registry
import SearchDsl.Proofs.Mapping.Faults
import SearchDsl.Query.Edit
/-!
Setters change one slot. Every setter of the library takes a record and returns either the new
record or an error; a refused value gives no record, so the holder keeps the one it had, and a
set of children fails as a whole when one child fails to read. What a setter that succeeds
changes is its own parameter and nothing else: a parameter setting of a clause, a stored value
or the children of a mapping. A null value, or no value, returns that one parameter to its
default.
-/
set_option autoImplicit false

namespace SearchDsl

namespace Params

/-- `ps'` holds what `ps` holds for every parameter but `p`. -/
def AgreeOff (ps ps' : Params) (p : Param) : Prop := ∀ q, q ≠ p → ps'.get? q = ps.get? q

theorem agreeOff_put (ps : Params) (p : Param) (s : Option Setting) : ps.AgreeOff (ps.put p s) p := by
  intro q hq
  cases s with
  | none => rw [get?_put_none, if_neg hq]
  | some s => rw [get?_put_some, if_neg hq]

variable {ps ps' : Params} {p : Param} {v : Option Loose} {owner : Option QueryKind}

theorem accept_agreeOff (h : ps.accept p v owner = .ok ps') : ps.AgreeOff ps' p := by
  cases v with
  | none =>
    cases h
    exact agreeOff_put ps p none
  | some l =>
    obtain ⟨r, -, rfl⟩ := Except.map_eq_ok.mp h
    exact agreeOff_put ps p r

theorem accept_none_get? (h : ps.accept p none owner = .ok ps') : ps'.get? p = none := by
  cases h
  exact reset_get?_self ps p

end Params

theorem TermQuery.setField_eq_ok {q q' : TermQuery} {field : String} (h : q.setField field = .ok q') :
    q' = { q with field } := by
  unfold TermQuery.setField requireField at h
  split at h
  · cases h
  · cases h
    rfl

theorem TermsQuery.params_pushValue (q : TermsQuery) (v : Scalar) : (q.pushValue v).params = q.params := by
  unfold TermsQuery.pushValue
  split <;> rfl

namespace Clause

@[simp] theorem params_setParams (c : Clause) (ps : Params) : (c.setParams ps).params = ps := by
  cases c <;> rfl

@[simp] theorem kind_setParams (c : Clause) (ps : Params) : (c.setParams ps).kind = c.kind := by
  cases c <;> rfl

@[simp] theorem setParams_setParams (c : Clause) (ps ps' : Params) :
    (c.setParams ps).setParams ps' = c.setParams ps' := by
  cases c <;> rfl

@[simp] theorem setParams_params (c : Clause) : c.setParams c.params = c := by
  cases c <;> rfl

theorem kind_setRole (c : Clause) (r : BoolRole) (cs : List Clause) : (c.setRole r cs).kind = c.kind := by
  unfold setRole
  split <;> rfl

theorem params_setRole (c : Clause) (r : BoolRole) (cs : List Clause) :
    (c.setRole r cs).params = c.params := by
  unfold setRole
  split <;> rfl

/-- A typed setter keeps the clause's kind and its parameter settings. -/
theorem edit_keeps {c c' : Clause} {e : ClauseEdit} {removed : Option Clause}
    (h : c.edit e = .ok (c', removed)) : c'.kind = c.kind ∧ c'.params = c.params := by
  unfold edit at h
  split at h
  case h_1 =>
    obtain ⟨q', hq, hc⟩ := Except.map_eq_ok.mp h
    cases hc
    exact ⟨rfl, (TermQuery.setField_eq_ok hq).symm ▸ rfl⟩
  case h_3 =>
    cases h
    exact ⟨rfl, TermsQuery.params_pushValue ..⟩
  case h_18 =>
    obtain ⟨_, -, hc⟩ := Except.map_eq_ok.mp h
    cases hc
    exact ⟨rfl, rfl⟩
  case h_19 | h_20 =>
    split at h
    · cases h
    · cases h
      exact ⟨rfl, rfl⟩
  case h_14 =>
    cases h
    exact ⟨kind_setRole .., params_setRole ..⟩
  case h_15 =>
    split at h
    cases h
    exact ⟨kind_setRole .., params_setRole ..⟩
  case h_17 =>
    split at h
    cases h
    exact ⟨rfl, rfl⟩
  all_goals
    cases h
    exact ⟨rfl, rfl⟩

end Clause

namespace Mapping

/-- `m'` holds what `m` holds for every parameter but `p`: the same type, the same stored values
and, unless `p` names them, the same children. -/
structure AgreeOff (m m' : Mapping) (p : MappingParam) : Prop where
  type : m'.type = m.type
  setting : ∀ q, q ≠ p → m'.setting? q = m.setting? q
  fields : p ≠ .fields → m'.fields = m.fields
  properties : p ≠ .properties → m'.properties = m.properties

variable {m m' : Mapping} {p : MappingParam}

theorem AgreeOff.refl (m : Mapping) (p : MappingParam) : m.AgreeOff m p :=
  ⟨rfl, fun _ _ => rfl, fun _ => rfl, fun _ => rfl⟩

theorem AgreeOff.param? (h : m.AgreeOff m' p) {q : MappingParam} (hq : q ≠ p) :
    m'.param? q = m.param? q := by
  unfold Mapping.param?
  split
  · rw [h.fields (Ne.symm hq)]
  · rw [h.properties (Ne.symm hq)]
  · rw [h.setting _ hq]

theorem agreeOff_putSetting (m : Mapping) (p : MappingParam) (s : Option FieldSetting) :
    m.AgreeOff (m.putSetting p s) p := by
  refine ⟨type_putSetting .., fun q hq => ?_, fun _ => fields_putSetting .., fun _ =>
    properties_putSetting ..⟩
  rw [setting?_putSetting, if_neg hq]

theorem agreeOff_reset (m : Mapping) (p : MappingParam) : m.AgreeOff (m.reset p) p := by
  unfold reset
  split
  · exact ⟨rfl, fun _ _ => rfl, fun h => absurd rfl h, fun _ => rfl⟩
  · exact ⟨rfl, fun _ _ => rfl, fun _ => rfl, fun h => absurd rfl h⟩
  · exact agreeOff_putSetting _ _ none

@[simp] theorem isSet_reset (m : Mapping) (p : MappingParam) : (m.reset p).isSet p = false := by
  by_cases hf : p = .fields
  · subst hf
    cases m
    rfl
  by_cases hp : p = .properties
  · subst hp
    cases m
    rfl
  rw [isSet, param?.eq_3 _ p hf hp, reset_of_not_child ⟨hf, hp⟩, setting?_putSetting_none,
    if_pos rfl]
  rfl

theorem agreeOff_setValue {v : Json} (h : m.setValue p v = .ok m') : m.AgreeOff m' p := by
  unfold setValue at h
  split at h
  · cases h
    exact agreeOff_reset m p
  · obtain ⟨s, -, rfl⟩ := Except.map_eq_ok.mp h
    exact agreeOff_putSetting m p s

theorem agreeOff_setChildren {cs : Fields} (h : m.setChildren p cs = .ok m') : m.AgreeOff m' p := by
  unfold setChildren at h
  split at h
  · cases h
  · split at h
    · cases h
      exact ⟨rfl, fun _ _ => rfl, fun h => absurd rfl h, fun _ => rfl⟩
    · cases h
      exact ⟨rfl, fun _ _ => rfl, fun _ => rfl, fun h => absurd rfl h⟩
    · cases h

/-- A parameter set changes that parameter's slot only. -/
theorem agreeOff_set {v : Json} (h : m.set p v = .ok m') : m.AgreeOff m' p := by
  obtain ⟨-, ⟨-, cs, -, hs⟩ | ⟨-, hs⟩⟩ := set_cases h
  · exact agreeOff_setChildren hs
  · exact agreeOff_setValue hs

theorem Fields.decode_null : Fields.decode .null = .ok .empty := by
  unfold Fields.decode
  rfl

theorem setChildren_empty {m' : Mapping} (h : m.setChildren p .empty = .ok m') : m' = m.reset p := by
  unfold setChildren at h
  split at h
  · cases h
  · split at h
    · cases h
      rfl
    · cases h
      rfl
    · cases h

theorem set_null (h : m.set p .null = .ok m') : m' = m.reset p := by
  obtain ⟨-, ⟨-, cs, hc, hs⟩ | ⟨-, hs⟩⟩ := set_cases h
  · rw [Fields.decode_null] at hc
    cases hc
    exact setChildren_empty hs
  · unfold setValue at hs
    cases hs
    rfl

theorem set_error_of_decode {v : Json} {e : MappingErrors} (hp : p = .fields ∨ p = .properties)
    (h : Fields.decode v = .error e) : ∃ e', m.set p v = .error e' := by
  unfold Mapping.set
  split
  · exact ⟨_, rfl⟩
  · rcases hp with rfl | rfl <;> simp [h]

theorem agreeOff_addProperty {name : String} {child : Mapping} (h : m.addProperty name child = .ok m') :
    m.AgreeOff m' .properties := by
  unfold addProperty at h
  split at h
  split at h
  · cases h
    exact ⟨rfl, fun _ _ => rfl, fun _ => rfl, fun h => absurd rfl h⟩
  · cases h

theorem agreeOff_addField {name : String} {child : Mapping} (h : m.addField name child = .ok m') :
    m.AgreeOff m' .fields := by
  unfold addField at h
  split at h
  split at h
  · cases h
    exact ⟨rfl, fun _ _ => rfl, fun h => absurd rfl h, fun _ => rfl⟩
  · cases h

end Mapping

/-- Setters are point updates. An accepted query parameter changes its own setting and no
other, and no value returns it to its default; a clause's parameter setter changes nothing of
the clause but that setting. Setting a mapping parameter changes its own slot and no other,
null clearing it, and children that fail to read fail the whole set; replacing or adding
children changes only the parameter that holds them. The typed setters of clauses keep the
clause's kind and parameter settings. A refused value gives an error and no record. -/
theorem setters_changeOnlyTheirSlot :
    (∀ (ps ps' : Params) (p : Param) (v : Option Loose) (owner : Option QueryKind),
      ps.accept p v owner = .ok ps' → ps.AgreeOff ps' p ∧ (v = none → ps'.get? p = none)) ∧
    (∀ (c : Clause) (ps' : Params) (p : Param) (v : Option Loose),
      c.params.accept p v (some c.kind) = .ok ps' →
        c.params.AgreeOff (c.setParams ps').params p ∧ (c.setParams ps').setParams c.params = c) ∧
    (∀ (m m' : Mapping) (p : MappingParam) (v : Json), m.set p v = .ok m' →
      m.AgreeOff m' p ∧ (v = .null → m'.isSet p = false)) ∧
    (∀ (m : Mapping) (p : MappingParam) (v : Json) (e : MappingErrors),
      (p = .fields ∨ p = .properties) → Fields.decode v = .error e → ∃ e', m.set p v = .error e') ∧
    (∀ (m m' : Mapping) (p : MappingParam) (cs : Fields), m.setChildren p cs = .ok m' →
      m.AgreeOff m' p) ∧
    (∀ (m m' : Mapping) (name : String) (child : Mapping), m.addProperty name child = .ok m' →
      m.AgreeOff m' .properties) ∧
    (∀ (m m' : Mapping) (name : String) (child : Mapping), m.addField name child = .ok m' →
      m.AgreeOff m' .fields) ∧
    (∀ (c c' : Clause) (e : ClauseEdit) (removed : Option Clause), c.edit e = .ok (c', removed) →
      c'.kind = c.kind ∧ c'.params = c.params) := by
  refine ⟨fun ps ps' p v owner h => ⟨Params.accept_agreeOff h, ?_⟩, fun c ps' p v h => ?_,
    fun m m' p v h => ⟨Mapping.agreeOff_set h, ?_⟩, fun m p v e hp he => Mapping.set_error_of_decode hp he,
    fun m m' p cs h => Mapping.agreeOff_setChildren h, fun m m' name child h => Mapping.agreeOff_addProperty h,
    fun m m' name child h => Mapping.agreeOff_addField h, fun c c' e removed h => Clause.edit_keeps h⟩
  · rintro rfl
    exact Params.accept_none_get? h
  · rw [Clause.params_setParams, Clause.setParams_setParams, Clause.setParams_params]
    exact ⟨Params.accept_agreeOff h, rfl⟩
  · rintro rfl
    rw [Mapping.set_null h, Mapping.isSet_reset]

end SearchDsl
