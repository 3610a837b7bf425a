import SearchDsl.Mapping.Document
import SearchDsl.Proofs.Mapping.Setting
/-!
What reading a mapping guarantees. A mapping read from any JSON is `Readable`: its settings are
sorted by parameter, each of a parameter its type accepts and each reading back from its own
JSON; it has children only under a parameter its type accepts, sorted by name and each readable
in turn; and no parameter its type requires is missing. The readers are one family, total by
the size of the JSON they read, and so is the proof: each reader has a lemma here with the
reader's own measure, using the others where the reader calls the others.
-/
set_option autoImplicit false

namespace SearchDsl

namespace MappingErrors

theorem toExcept_eq_ok {α : Type} {m : MappingErrors} {a b : α} :
    m.toExcept a = .ok b ↔ m.errors = [] ∧ a = b := by
  unfold toExcept
  split
  · rename_i h
    simp [List.isEmpty_iff.mp h]
  · rename_i h
    simp only [reduceCtorEq, false_iff]
    exact fun hb => h (by simp [hb.1])

end MappingErrors

namespace Fields

theorem insertEntry_eq_put (name : String) (m : Mapping) (es : List (String × Mapping)) :
    insertEntry name m es = Keyed.put id name m es := by
  induction es with
  | nil => rfl
  | cons e rest ih =>
    obtain ⟨n, x⟩ := e
    by_cases h : name = n
    · subst h
      simp [insertEntry, Keyed.put]
    · simp [insertEntry, Keyed.put, h, Ne.symm h, ih]

@[simp] theorem entries_insert (fs : Fields) (name : String) (m : Mapping) :
    (fs.insert name m).entries = Keyed.put id name m fs.entries :=
  insertEntry_eq_put name m fs.entries

end Fields

namespace Mapping

theorem mem_all (p : MappingParam) : p ∈ MappingParam.all := by
  cases p <;> decide

theorem paramIndex_injective : Function.Injective paramIndex := fun p _ h =>
  (List.idxOf_inj (mem_all p)).mp h

theorem insertSetting_eq_put (p : MappingParam) (s : FieldSetting)
    (ss : List (MappingParam × FieldSetting)) : insertSetting p s ss = Keyed.put paramIndex p s ss := by
  induction ss with
  | nil => rfl
  | cons e rest ih =>
    obtain ⟨q, x⟩ := e
    by_cases h : p = q
    · subst h
      simp [insertSetting, Keyed.put]
    · simp [insertSetting, Keyed.put, h, Ne.symm h, ih]

section Storage

variable (m : Mapping) (p : MappingParam)

@[simp] theorem type_mk (t : FieldType) (ss : List (MappingParam × FieldSetting)) (fs ps : Fields) :
    (mk t ss fs ps).type = t := rfl

@[simp] theorem settings_mk (t : FieldType) (ss : List (MappingParam × FieldSetting))
    (fs ps : Fields) : (mk t ss fs ps).settings = ss := rfl

@[simp] theorem fields_mk (t : FieldType) (ss : List (MappingParam × FieldSetting)) (fs ps : Fields) :
    (mk t ss fs ps).fields = fs := rfl

@[simp] theorem properties_mk (t : FieldType) (ss : List (MappingParam × FieldSetting))
    (fs ps : Fields) : (mk t ss fs ps).properties = ps := rfl

@[simp] theorem type_putSetting (s : Option FieldSetting) : (m.putSetting p s).type = m.type := by
  cases m
  cases s <;> rfl

@[simp] theorem fields_putSetting (s : Option FieldSetting) :
    (m.putSetting p s).fields = m.fields := by
  cases m
  cases s <;> rfl

@[simp] theorem properties_putSetting (s : Option FieldSetting) :
    (m.putSetting p s).properties = m.properties := by
  cases m
  cases s <;> rfl

theorem settings_putSetting_some (s : FieldSetting) :
    (m.putSetting p (some s)).settings = Keyed.put paramIndex p s m.settings := by
  cases m
  exact insertSetting_eq_put p s _

theorem settings_putSetting_none :
    (m.putSetting p none).settings = m.settings.filter fun e => e.1 ≠ p := by
  cases m
  rfl

theorem setting?_putSetting_some (s : FieldSetting) (q : MappingParam) :
    (m.putSetting p (some s)).setting? q = if q = p then some s else m.setting? q := by
  simp only [setting?, settings_putSetting_some]
  exact Keyed.lookup_put p q s _

end Storage

/-- One mapping node as reading leaves it, its children's own content apart: settings sorted by
parameter, each of a parameter its type accepts and reading back from its own JSON; children
only under a parameter its type accepts, sorted by name. -/
structure Fit (m : Mapping) : Prop where
  sorted : Keyed.Sorted paramIndex m.settings
  settings : ∀ e ∈ m.settings, m.type.supports e.1 = true ∧ e.2.Rereads e.1
  fields : m.fields.isEmpty = false → m.type.supports .fields = true
  properties : m.properties.isEmpty = false → m.type.supports .properties = true
  fieldsSorted : Keyed.Sorted id m.fields.entries
  propertiesSorted : Keyed.Sorted id m.properties.entries

/-- A mapping as reading leaves it, down to every child, with every parameter its type
requires. -/
inductive Readable : Mapping → Prop
  | mk {m : Mapping} : m.Fit → (∀ e ∈ m.fields.entries, Readable e.2) →
      (∀ e ∈ m.properties.entries, Readable e.2) → m.missingRequired = [] → Readable m

/-- A mapping as reading builds it before it checks the required parameters: the node fits and
every child is readable. -/
def Built (m : Mapping) : Prop :=
  m.Fit ∧ (∀ e ∈ m.fields.entries, e.2.Readable) ∧ ∀ e ∈ m.properties.entries, e.2.Readable

/-- A node that fits, each of its children satisfying `P`. A built node is one whose children are
readable; what the setters keep of a node is said once here, whatever `P` is. -/
def FitOver (P : Mapping → Prop) (m : Mapping) : Prop :=
  m.Fit ∧ (∀ e ∈ m.fields.entries, P e.2) ∧ ∀ e ∈ m.properties.entries, P e.2

end Mapping

/-- Children sorted by name, each satisfying `P`. -/
def Fields.Each (P : Mapping → Prop) (fs : Fields) : Prop :=
  Keyed.Sorted id fs.entries ∧ ∀ e ∈ fs.entries, P e.2

/-- Children as reading leaves them: sorted by name, each readable. -/
def Fields.Readable (fs : Fields) : Prop :=
  Keyed.Sorted id fs.entries ∧ ∀ e ∈ fs.entries, e.2.Readable

namespace Fields

variable {P : Mapping → Prop} {fs : Fields}

theorem each_empty : Fields.empty.Each P :=
  ⟨List.Pairwise.nil, (fun _ h => by cases h)⟩

theorem Each.insert {m : Mapping} (hfs : fs.Each P) (hm : P m) (name : String) :
    (fs.insert name m).Each P := by
  refine ⟨?_, fun e he => ?_⟩
  · rw [entries_insert]
    exact Keyed.sorted_put Function.injective_id hfs.1 name m
  · rw [entries_insert] at he
    rcases Keyed.mem_put he with rfl | he
    · exact hm
    · exact hfs.2 e he

theorem Each.remove (hfs : fs.Each P) (name : String) : (fs.remove name).1.Each P :=
  ⟨hfs.1.filter _, fun e he => hfs.2 e (List.mem_filter.mp he).1⟩

theorem readable_empty : Fields.empty.Readable := each_empty

theorem Readable.insert {m : Mapping} (hfs : fs.Readable) (hm : m.Readable) (name : String) :
    (fs.insert name m).Readable :=
  show (fs.insert name m).Each Mapping.Readable from Each.insert hfs hm name

end Fields

namespace Mapping

variable {m m' : Mapping} {p : MappingParam} {P : Mapping → Prop}

@[simp] theorem type_mapProperties (f : Fields → Fields) : (m.mapProperties f).type = m.type := by
  cases m; rfl

@[simp] theorem fields_mapProperties (f : Fields → Fields) :
    (m.mapProperties f).fields = m.fields := by
  cases m; rfl

@[simp] theorem properties_mapProperties (f : Fields → Fields) :
    (m.mapProperties f).properties = f m.properties := by
  cases m; rfl

@[simp] theorem settings_mapProperties (f : Fields → Fields) :
    (m.mapProperties f).settings = m.settings := by
  cases m; rfl

theorem new_fitOver (t : FieldType) : (new t).FitOver P :=
  ⟨⟨List.Pairwise.nil, (fun _ h => by cases h), (fun h => by cases h), (fun h => by cases h),
    List.Pairwise.nil, List.Pairwise.nil⟩, (fun _ h => by cases h), (fun _ h => by cases h)⟩

theorem FitOver.withSettings (hm : m.FitOver P) (ht : m'.type = m.type)
    (hf : m'.fields = m.fields) (hp : m'.properties = m.properties)
    (hs : Keyed.Sorted paramIndex m'.settings)
    (he : ∀ e ∈ m'.settings, m'.type.supports e.1 = true ∧ e.2.Rereads e.1) : m'.FitOver P := by
  obtain ⟨hfit, hfields, hprops⟩ := hm
  refine ⟨⟨hs, he, ?_, ?_, ?_, ?_⟩, ?_, ?_⟩ <;> simp only [ht, hf, hp]
  · exact hfit.fields
  · exact hfit.properties
  · exact hfit.fieldsSorted
  · exact hfit.propertiesSorted
  · exact hfields
  · exact hprops

theorem FitOver.putSetting_some {s : FieldSetting} (hm : m.FitOver P)
    (hp : m.type.supports p = true) (hs : s.Rereads p) : (m.putSetting p (some s)).FitOver P := by
  refine hm.withSettings (type_putSetting ..) (fields_putSetting ..) (properties_putSetting ..)
    ?_ fun e he => ?_
  · rw [settings_putSetting_some]
    exact Keyed.sorted_put paramIndex_injective hm.1.sorted p s
  · rw [settings_putSetting_some] at he
    rw [type_putSetting]
    rcases Keyed.mem_put he with rfl | he
    · exact ⟨hp, hs⟩
    · exact hm.1.settings e he

theorem FitOver.putSetting_none (hm : m.FitOver P) (p : MappingParam) :
    (m.putSetting p none).FitOver P := by
  refine hm.withSettings (type_putSetting ..) (fields_putSetting ..) (properties_putSetting ..)
    ?_ fun e he => ?_
  · rw [settings_putSetting_none]
    exact hm.1.sorted.filter _
  · rw [settings_putSetting_none] at he
    rw [type_putSetting]
    exact hm.1.settings e (List.mem_filter.mp he).1

theorem FitOver.reset (hm : m.FitOver P) (p : MappingParam) : (m.reset p).FitOver P := by
  obtain ⟨t, ss, fs, ps⟩ := m
  obtain ⟨hfit, hfields, hprops⟩ := hm
  unfold reset
  split
  · rename_i heq
    cases heq
    exact ⟨⟨hfit.sorted, hfit.settings, (fun h => by cases h), hfit.properties, List.Pairwise.nil,
      hfit.propertiesSorted⟩, (fun _ h => by cases h), hprops⟩
  · rename_i heq
    cases heq
    exact ⟨⟨hfit.sorted, hfit.settings, hfit.fields, (fun h => by cases h), hfit.fieldsSorted,
      List.Pairwise.nil⟩, hfields, (fun _ h => by cases h)⟩
  · exact FitOver.putSetting_none ⟨hfit, hfields, hprops⟩ _

theorem FitOver.setValue {v : Json} (hm : m.FitOver P) (hp : m.type.supports p = true)
    (h : m.setValue p v = .ok m') : m'.FitOver P := by
  unfold Mapping.setValue at h
  split at h
  · cases h
    exact hm.reset p
  · obtain ⟨o, ho, rfl⟩ := Except.map_eq_ok.mp h
    cases o with
    | none => exact hm.putSetting_none p
    | some s => exact hm.putSetting_some hp (MappingParam.settingOf_rereads ho)

theorem FitOver.setChildren {children : Fields} (hm : m.FitOver P) (hc : children.Each P)
    (h : m.setChildren p children = .ok m') : m'.FitOver P := by
  obtain ⟨t, ss, fs, ps⟩ := m
  obtain ⟨hfit, hfields, hprops⟩ := hm
  unfold Mapping.setChildren at h
  split at h
  · cases h
  · rename_i hp
    have hp : t.supports p = true := by simpa using hp
    split at h
    · rename_i heq _
      cases heq
      cases h
      exact ⟨⟨hfit.sorted, hfit.settings, fun _ => hp, hfit.properties, hc.1,
        hfit.propertiesSorted⟩, hc.2, hprops⟩
    · rename_i heq _
      cases heq
      cases h
      exact ⟨⟨hfit.sorted, hfit.settings, hfit.fields, fun _ => hp, hfit.fieldsSorted, hc.1⟩,
        hfields, hc.2⟩
    · cases h

theorem FitOver.mapProperties {f : Fields → Fields} (hm : m.FitOver P)
    (hf : (f m.properties).Each P)
    (ht : (f m.properties).isEmpty = false → m.type.supports .properties = true) :
    (m.mapProperties f).FitOver P := by
  obtain ⟨hfit, hfields, -⟩ := hm
  refine ⟨⟨?_, ?_, ?_, ?_, ?_, ?_⟩, ?_, ?_⟩ <;>
    simp only [settings_mapProperties, type_mapProperties, fields_mapProperties,
      properties_mapProperties]
  · exact hfit.sorted
  · exact hfit.settings
  · exact hfit.fields
  · exact ht
  · exact hfit.fieldsSorted
  · exact hf.1
  · exact hfields
  · exact hf.2

theorem FitOver.addProperty {name : String} {child : Mapping} (hm : m.FitOver P) (hc : P child)
    (h : m.addProperty name child = .ok m') : m'.FitOver P := by
  unfold Mapping.addProperty at h
  split at h
  split at h
  · rename_i ht
    cases h
    exact FitOver.mapProperties (f := fun ps => ps.insert name child) hm
      (Fields.Each.insert ⟨hm.1.propertiesSorted, hm.2.2⟩ hc name) fun _ => ht
  · cases h

theorem FitOver.addField {name : String} {child : Mapping} (hm : m.FitOver P) (hc : P child)
    (h : m.addField name child = .ok m') : m'.FitOver P := by
  obtain ⟨hfit, hfields, hprops⟩ := hm
  unfold Mapping.addField at h
  split at h
  split at h
  · rename_i ht
    cases h
    have hfs := Fields.Each.insert ⟨hfit.fieldsSorted, hfields⟩ hc name
    exact ⟨⟨hfit.sorted, hfit.settings, fun _ => ht, hfit.properties, hfs.1,
      hfit.propertiesSorted⟩, hfs.2, hprops⟩
  · cases h

theorem Built.readable (hm : m.Built) (hc : m.missingRequired = []) : m.Readable :=
  .mk hm.1 hm.2.1 hm.2.2 hc

theorem new_built (t : FieldType) : (new t).Built := new_fitOver t

theorem Built.withSettings (hm : m.Built) (ht : m'.type = m.type) (hf : m'.fields = m.fields)
    (hp : m'.properties = m.properties) (hs : Keyed.Sorted paramIndex m'.settings)
    (he : ∀ e ∈ m'.settings, m'.type.supports e.1 = true ∧ e.2.Rereads e.1) : m'.Built :=
  FitOver.withSettings hm ht hf hp hs he

theorem Built.putSetting_some {s : FieldSetting} (hm : m.Built) (hp : m.type.supports p = true)
    (hs : s.Rereads p) : (m.putSetting p (some s)).Built :=
  FitOver.putSetting_some hm hp hs

theorem Built.putSetting_none (hm : m.Built) (p : MappingParam) : (m.putSetting p none).Built :=
  FitOver.putSetting_none hm p

theorem Built.reset (hm : m.Built) (p : MappingParam) : (m.reset p).Built :=
  FitOver.reset hm p

theorem Built.setValue {v : Json} (hm : m.Built) (hp : m.type.supports p = true)
    (h : m.setValue p v = .ok m') : m'.Built :=
  FitOver.setValue hm hp h

theorem Built.setChildren {children : Fields} (hm : m.Built) (hc : children.Readable)
    (h : m.setChildren p children = .ok m') : m'.Built :=
  FitOver.setChildren hm hc h

/-- What a set can do: under `fields` or `properties`, put in place the children read from the
value; under any other parameter, set the value. Either only for a parameter the type accepts. -/
theorem set_cases {v : Json} (h : m.set p v = .ok m') :
    m.type.supports p = true ∧
      (((p = .fields ∨ p = .properties) ∧
          ∃ cs, Fields.decode v = .ok cs ∧ m.setChildren p cs = .ok m') ∨
        (p ≠ .fields ∧ p ≠ .properties) ∧ m.setValue p v = .ok m') := by
  unfold Mapping.set at h
  split at h
  · cases h
  · rename_i hs
    refine ⟨by simpa using hs, ?_⟩
    split at h
    · split at h
      · cases h
      · rename_i cs hc
        exact .inl ⟨.inl rfl, cs, hc, Except.mapError_eq_ok.mp h⟩
    · split at h
      · cases h
      · rename_i cs hc
        exact .inl ⟨.inr rfl, cs, hc, Except.mapError_eq_ok.mp h⟩
    · rename_i hf hp
      exact .inr ⟨⟨hf, hp⟩, Except.mapError_eq_ok.mp h⟩

end Mapping

mutual

theorem Mapping.decode_readable {v : Json} {m : Mapping} (h : Mapping.decode v = .ok m) :
    m.Readable := by
  unfold Mapping.decode at h
  split at h
  · split at h
    · cases h
    · rename_i ms _ t _
      generalize hrun : Mapping.decodeMembers (Mapping.new t) {} ms = r at h
      obtain ⟨m', errs⟩ := r
      obtain ⟨hnone, rfl⟩ := MappingErrors.toExcept_eq_ok.mp h
      exact (Mapping.decodeMembers_built (Mapping.new_built t) hrun).readable
        (List.append_eq_nil_iff.mp hnone).2
  · cases h
termination_by 4 * sizeOf v + 3
decreasing_by all_goals (subst_vars; simp -failIfUnchanged only [Json.obj.sizeOf_spec]; omega)

theorem Mapping.decodeMembers_built {m : Mapping} {errs : MappingErrors} {ms : Json.Members}
    {r : Mapping × MappingErrors} (hm : m.Built) (h : Mapping.decodeMembers m errs ms = r) :
    r.1.Built := by
  unfold Mapping.decodeMembers at h
  split at h
  · rw [← h]
    exact hm
  · split at h
    · split at h
      · exact Mapping.decodeMembers_built hm h
      · split at h
        · rename_i hset
          exact Mapping.decodeMembers_built (Mapping.set_built hm hset) h
        · exact Mapping.decodeMembers_built hm h
    · exact Mapping.decodeMembers_built hm h
termination_by 4 * sizeOf ms + 2
decreasing_by
  all_goals
    subst_vars
    simp -failIfUnchanged only [List.cons.sizeOf_spec, Prod.mk.sizeOf_spec]
    omega

theorem Mapping.set_built {m m' : Mapping} {p : MappingParam} {v : Json} (hm : m.Built)
    (h : Mapping.set m p v = .ok m') : m'.Built := by
  obtain ⟨hp, ⟨-, cs, hc, hs⟩ | ⟨-, hs⟩⟩ := Mapping.set_cases h
  · exact hm.setChildren (Fields.decode_readable hc) hs
  · exact hm.setValue hp hs
termination_by 4 * sizeOf v + 1
decreasing_by all_goals omega

theorem Fields.decode_readable {v : Json} {fs : Fields} (h : Fields.decode v = .ok fs) :
    fs.Readable := by
  unfold Fields.decode at h
  split at h
  · cases h
    exact Fields.readable_empty
  · rename_i ms
    generalize hrun : Fields.decodeMembers .empty {} ms = r at h
    obtain ⟨fs', errs⟩ := r
    obtain ⟨-, rfl⟩ := MappingErrors.toExcept_eq_ok.mp h
    exact Fields.decodeMembers_readable Fields.readable_empty hrun
  · cases h
termination_by 4 * sizeOf v
decreasing_by all_goals (subst_vars; simp -failIfUnchanged only [Json.obj.sizeOf_spec]; omega)

theorem Fields.decodeMembers_readable {fs : Fields} {errs : MappingErrors} {ms : Json.Members}
    {r : Fields × MappingErrors} (hfs : fs.Readable) (h : Fields.decodeMembers fs errs ms = r) :
    r.1.Readable := by
  unfold Fields.decodeMembers at h
  split at h
  · rw [← h]
    exact hfs
  · split at h
    · rename_i hm
      exact Fields.decodeMembers_readable (hfs.insert (Mapping.decode_readable hm) _) h
    · exact Fields.decodeMembers_readable hfs h
termination_by 4 * sizeOf ms + 3
decreasing_by
  all_goals
    subst_vars
    simp -failIfUnchanged only [List.cons.sizeOf_spec, Prod.mk.sizeOf_spec]
    omega

end

end SearchDsl
