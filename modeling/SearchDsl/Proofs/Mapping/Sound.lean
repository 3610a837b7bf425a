import SearchDsl.Proofs.Mapping.Build
/-!
A mapping holds only what its type accepts, as long as it is made by the calls that check the
type. `Sound` is that invariant at every depth: every node fits as reading leaves it, though a
parameter its type requires may still be missing, which validation reports. The constructors, the
readers and the checked setters keep it, and so do the edits of the children under `properties`
that leave a type which takes no children without any (`Reachable`). A sound mapping writes each
parameter it holds in its JSON, and once validation finds nothing it reads back as itself.

The children under `properties` can also be changed whatever the type; children put there under a
type that does not take them are held but never written, and such a mapping does not read back.
-/
set_option autoImplicit false

namespace SearchDsl

namespace MappingErrors

theorem eq_empty_of_isEmpty {m : MappingErrors} (h : m.isEmpty = true) : m = {} := by
  obtain ⟨es⟩ := m
  cases es with
  | nil => rfl
  | cons e rest => cases h

end MappingErrors

namespace Fields

variable {fs : Fields} {name : String}

theorem isEmpty_eq_false_of_get? {c : Mapping} (h : fs.get? name = some c) : fs.isEmpty = false := by
  obtain ⟨es⟩ := fs
  cases es with
  | nil => cases h
  | cons e rest => rfl

theorem isEmpty_eq_false_of_remove (h : (fs.remove name).1.isEmpty = false) : fs.isEmpty = false := by
  obtain ⟨es⟩ := fs
  cases es with
  | nil => cases h
  | cons e rest => rfl

end Fields

namespace Mapping

/-- Every node fits, at every depth: what the checked calls keep of a mapping. -/
inductive Sound : Mapping → Prop
  | mk {m : Mapping} : m.Fit → (∀ e ∈ m.fields.entries, Sound e.2) →
      (∀ e ∈ m.properties.entries, Sound e.2) → Sound m

variable {m m' : Mapping} {p : MappingParam}

theorem Sound.fitOver (h : m.Sound) : m.FitOver Sound := by
  cases h with
  | mk hfit hf hp => exact ⟨hfit, hf, hp⟩

theorem FitOver.sound (h : m.FitOver Sound) : m.Sound := .mk h.1 h.2.1 h.2.2

theorem Sound.properties (h : m.Sound) : m.properties.Each Sound :=
  ⟨h.fitOver.1.propertiesSorted, h.fitOver.2.2⟩

theorem Readable.sound (h : m.Readable) : m.Sound := by
  induction h with
  | mk hfit _ _ _ ihf ihp => exact .mk hfit ihf ihp

theorem each_sound_of_readable {fs : Fields} (h : fs.Readable) : fs.Each Sound :=
  ⟨h.1, fun e he => (h.2 e he).sound⟩

/-! ### Every checked call keeps a mapping sound -/

theorem sound_new (t : FieldType) : (new t).Sound := (new_fitOver t).sound

theorem decode_sound {v : Json} (h : Mapping.decode v = .ok m) : m.Sound := (decode_readable h).sound

theorem Sound.reset (h : m.Sound) (p : MappingParam) : (m.reset p).Sound :=
  (h.fitOver.reset p).sound

theorem Sound.setValue {v : Json} (h : m.Sound) (hp : m.type.supports p = true)
    (hv : m.setValue p v = .ok m') : m'.Sound :=
  (h.fitOver.setValue hp hv).sound

theorem Sound.setChildren {children : Fields} (h : m.Sound) (hc : children.Each Sound)
    (hs : m.setChildren p children = .ok m') : m'.Sound :=
  (h.fitOver.setChildren hc hs).sound

theorem Sound.set {v : Json} (h : m.Sound) (hs : m.set p v = .ok m') : m'.Sound := by
  obtain ⟨hp, ⟨-, cs, hc, hs⟩ | ⟨-, hs⟩⟩ := set_cases hs
  · exact h.setChildren (each_sound_of_readable (Fields.decode_readable hc)) hs
  · exact h.setValue hp hs

theorem Sound.addProperty {name : String} {child : Mapping} (h : m.Sound) (hc : child.Sound)
    (ha : m.addProperty name child = .ok m') : m'.Sound :=
  (h.fitOver.addProperty hc ha).sound

theorem Sound.addField {name : String} {child : Mapping} (h : m.Sound) (hc : child.Sound)
    (ha : m.addField name child = .ok m') : m'.Sound :=
  (h.fitOver.addField hc ha).sound

theorem Sound.mapProperties {f : Fields → Fields} (h : m.Sound) (hf : (f m.properties).Each Sound)
    (ht : (f m.properties).isEmpty = false → m.type.supports .properties = true) :
    (m.mapProperties f).Sound :=
  (h.fitOver.mapProperties hf ht).sound

theorem sound_object {fs : Fields} (hfs : fs.Each Sound) : (object fs).Sound :=
  (sound_new .object).mapProperties (f := fun _ => fs) hfs fun _ => rfl

theorem sound_nested {fs : Fields} (hfs : fs.Each Sound) : (nested fs).Sound :=
  (sound_new .nested).mapProperties (f := fun _ => fs) hfs fun _ => rfl

theorem denseVector_sound {n : Int} (h : denseVector n = .ok m) : m.Sound :=
  (sound_new .denseVector).setValue rfl (Except.mapError_eq_ok.mp h)

section Build

variable {given : List (MappingParam × Json)}

theorem buildStep_sound {acc : Mapping × MappingErrors} (h : acc.1.Sound) (q : MappingParam) :
    (buildStep given acc q).1.Sound := by
  unfold Mapping.buildStep
  split
  · exact h
  · split
    · rename_i hset
      exact h.set hset
    · exact h

theorem foldl_buildStep_sound {acc : Mapping × MappingErrors} (h : acc.1.Sound)
    (l : List MappingParam) : (l.foldl (buildStep given) acc).1.Sound := by
  induction l generalizing acc with
  | nil => exact h
  | cons q rest ih => exact ih (buildStep_sound h q)

theorem buildChild_sound {acc : Mapping × MappingErrors} {fs : Option Fields} (h : acc.1.Sound)
    (hfs : ∀ c ∈ fs, c.Each Sound) (q : MappingParam) : (buildChild acc q fs).1.Sound := by
  cases fs with
  | none => exact h
  | some c =>
    cases hset : acc.1.setChildren q c with
    | ok m' =>
      simp only [Mapping.buildChild, hset]
      exact h.setChildren (hfs c rfl) hset
    | error e =>
      simp only [Mapping.buildChild, hset]
      exact h

theorem build_sound {t : FieldType} {fs ps : Option Fields} (hfs : ∀ c ∈ fs, c.Each Sound)
    (hps : ∀ c ∈ ps, c.Each Sound) (h : build t given fs ps = .ok m) : m.Sound := by
  obtain ⟨-, rfl⟩ := buildRun_of_build h
  exact buildChild_sound (buildChild_sound (foldl_buildStep_sound (sound_new t) _) hfs _) hps _

end Build

/-! ### What a sound mapping writes and reads back -/

theorem Fit.supports_of_param? {j : Json} (hfit : m.Fit) (hj : m.param? p = some j) :
    m.type.supports p = true := by
  by_cases hf : p = .fields
  · subst hf
    refine hfit.fields ?_
    cases he : m.fields.isEmpty
    · rfl
    · simp [param?, he] at hj
  by_cases hp : p = .properties
  · subst hp
    refine hfit.properties ?_
    cases he : m.properties.isEmpty
    · rfl
    · simp [param?, he] at hj
  rw [param?.eq_3 m p hf hp] at hj
  obtain ⟨s, hs, -⟩ := Option.bind_eq_some_iff.mp hj
  exact (hfit.setting?_rereads hs).1

theorem Sound.param?_written {j : Json} (h : m.Sound) (hj : m.param? p = some j) :
    m.type.supports p = true ∧ m.toJson.get? p.key = some j := by
  have hp := h.fitOver.1.supports_of_param? hj
  refine ⟨hp, ?_⟩
  rw [toJson_eq]
  exact get?_writtenMembers_of_mem (mem_writtenMembers hp hj)

theorem validateChildren_eq_empty {acc : MappingErrors} {es : List (String × Mapping)}
    (h : validateChildren acc es = {}) : acc = {} ∧ ∀ e ∈ es, e.2.validate = {} := by
  induction es generalizing acc with
  | nil => exact ⟨h, fun _ he => by cases he⟩
  | cons e rest ih =>
    obtain ⟨n, child⟩ := e
    rw [validateChildren] at h
    obtain ⟨hacc, hrest⟩ := ih h
    by_cases hc : child.validate.isEmpty = true
    · rw [if_pos hc] at hacc
      refine ⟨hacc, fun e he => ?_⟩
      rcases List.mem_cons.mp he with rfl | he
      · exact MappingErrors.eq_empty_of_isEmpty hc
      · exact hrest e he
    · rw [if_neg hc] at hacc
      have hnil := congrArg MappingErrors.errors hacc
      simp only [MappingErrors.absorb, List.append_eq_nil_iff, List.map_eq_nil_iff] at hnil
      exact absurd (by simp [MappingErrors.isEmpty, hnil.2]) hc

theorem validate_eq_empty (h : m.validate = {}) :
    m.missingRequired = [] ∧ (∀ e ∈ m.fields.entries, e.2.validate = {}) ∧
      ∀ e ∈ m.properties.entries, e.2.validate = {} := by
  obtain ⟨t, ss, ⟨fs⟩, ⟨ps⟩⟩ := m
  rw [Mapping.validate] at h
  obtain ⟨hf, hps⟩ := validateChildren_eq_empty h
  obtain ⟨hreq, hfs⟩ := validateChildren_eq_empty hf
  exact ⟨congrArg MappingErrors.errors hreq, hfs, hps⟩

theorem Sound.readable (h : m.Sound) (hv : m.validate = {}) : m.Readable := by
  induction h with
  | mk hfit _ _ ihf ihp =>
    obtain ⟨hreq, hfv, hpv⟩ := validate_eq_empty hv
    exact .mk hfit (fun e he => ihf e he (hfv e he)) (fun e he => ihp e he (hpv e he)) hreq

/-- A sound mapping holds only parameters its type accepts, each written in its JSON under its
key; once validation finds nothing, it reads back from its JSON as itself. -/
theorem Sound.holdsOnlyAccepted (h : m.Sound) :
    (∀ p j, m.param? p = some j → m.type.supports p = true ∧ m.toJson.get? p.key = some j) ∧
      (m.validate = {} → Mapping.decode m.toJson = .ok m) :=
  ⟨fun _ _ hj => h.param?_written hj, fun hv => (h.readable hv).decode_toJson⟩

/-! ### The mappings the API makes -/

/-- The mappings made by the constructors and readers, then by the calls that check the type, and
by the edits of the children under `properties`: removing one, replacing one that is there, and
inserting one into a container. A child is itself made so, so the edits reach any depth. -/
inductive Reachable : Mapping → Prop
  | new (t : FieldType) : Reachable (new t)
  | decode {v : Json} {m : Mapping} : Mapping.decode v = .ok m → Reachable m
  | object {fs : Fields} : Keyed.Sorted id fs.entries → (∀ e ∈ fs.entries, Reachable e.2) →
      Reachable (object fs)
  | nested {fs : Fields} : Keyed.Sorted id fs.entries → (∀ e ∈ fs.entries, Reachable e.2) →
      Reachable (nested fs)
  | denseVector {n : Int} {m : Mapping} : denseVector n = .ok m → Reachable m
  | build {t : FieldType} {given : List (MappingParam × Json)} {fs ps : Option Fields}
      {m : Mapping} : (∀ c ∈ fs, Keyed.Sorted id c.entries) →
      (∀ c ∈ fs, ∀ e ∈ c.entries, Reachable e.2) → (∀ c ∈ ps, Keyed.Sorted id c.entries) →
      (∀ c ∈ ps, ∀ e ∈ c.entries, Reachable e.2) → build t given fs ps = .ok m → Reachable m
  | set {m m' : Mapping} {p : MappingParam} {v : Json} : Reachable m → m.set p v = .ok m' →
      Reachable m'
  | setChildren {m m' : Mapping} {p : MappingParam} {cs : Fields} : Reachable m →
      Keyed.Sorted id cs.entries → (∀ e ∈ cs.entries, Reachable e.2) →
      m.setChildren p cs = .ok m' → Reachable m'
  | addProperty {m m' child : Mapping} {name : String} : Reachable m → Reachable child →
      m.addProperty name child = .ok m' → Reachable m'
  | addField {m m' child : Mapping} {name : String} : Reachable m → Reachable child →
      m.addField name child = .ok m' → Reachable m'
  | reset {m : Mapping} (p : MappingParam) : Reachable m → Reachable (m.reset p)
  | removeProperty {m : Mapping} (name : String) : Reachable m →
      Reachable (m.mapProperties fun ps => (ps.remove name).1)
  | replaceProperty {m c child : Mapping} {name : String} : Reachable m →
      m.properties.get? name = some c → Reachable child →
      Reachable (m.mapProperties fun ps => ps.insert name child)
  | insertProperty {m child : Mapping} {name : String} : Reachable m → m.type.isContainer = true →
      Reachable child → Reachable (m.mapProperties fun ps => ps.insert name child)

/-- Every mapping the API makes is sound: each step keeps the invariant. -/
theorem Reachable.sound (h : m.Reachable) : m.Sound := by
  induction h with
  | new t => exact sound_new t
  | decode h => exact decode_sound h
  | object hs _ ih => exact sound_object ⟨hs, ih⟩
  | nested hs _ ih => exact sound_nested ⟨hs, ih⟩
  | denseVector h => exact denseVector_sound h
  | build hfs _ hps _ h ihf ihp =>
    exact build_sound (fun c hc => ⟨hfs c hc, ihf c hc⟩) (fun c hc => ⟨hps c hc, ihp c hc⟩) h
  | set _ hs ih => exact ih.set hs
  | setChildren _ hs _ hset ih ihc => exact ih.setChildren ⟨hs, ihc⟩ hset
  | addProperty _ _ ha ih ihc => exact ih.addProperty ihc ha
  | addField _ _ ha ih ihc => exact ih.addField ihc ha
  | reset p _ ih => exact ih.reset p
  | removeProperty name _ ih =>
    -- what is left of the children is among them, so it is none unless the type takes them
    exact ih.mapProperties (ih.properties.remove name)
      fun he => ih.fitOver.1.properties (Fields.isEmpty_eq_false_of_remove he)
  | replaceProperty _ hget _ ih ihc =>
    -- a child is there to replace, so the type takes children
    exact ih.mapProperties (ih.properties.insert ihc _)
      fun _ => ih.fitOver.1.properties (Fields.isEmpty_eq_false_of_get? hget)
  | insertProperty _ ht _ ih ihc => exact ih.mapProperties (ih.properties.insert ihc _) fun _ => ht

/-! ### Children under a type that takes none -/

theorem param?_mapProperties_of_ne {f : Fields → Fields} (hp : p ≠ .properties) :
    (m.mapProperties f).param? p = m.param? p := by
  obtain ⟨t, ss, fs, ps⟩ := m
  by_cases hf : p = .fields
  · subst hf
    rfl
  · rw [param?.eq_3 _ p hf hp, param?.eq_3 _ p hf hp]
    rfl

/-- Children put under `properties` of a type that does not take them are not written. -/
theorem toJson_mapProperties_of_unaccepted {f : Fields → Fields}
    (ht : m.type.supports .properties = false) : (m.mapProperties f).toJson = m.toJson := by
  rw [toJson_eq, toJson_eq]
  simp only [writtenMembers, type_mapProperties]
  congr 2
  refine List.filterMap_congr fun q hq => ?_
  have hq : q ≠ .properties := by
    rintro rfl
    simp [FieldType.supports, hq] at ht
  rw [param?_mapProperties_of_ne hq]

/-- So a mapping holding such children does not read back from its JSON as itself. -/
theorem decode_toJson_ne_of_unaccepted {f : Fields → Fields}
    (ht : m.type.supports .properties = false) (hf : (f m.properties).isEmpty = false) :
    Mapping.decode (m.mapProperties f).toJson ≠ .ok (m.mapProperties f) := by
  intro h
  cases decode_readable h with
  | mk hfit _ _ _ =>
    have := hfit.properties (by simpa using hf)
    simp [ht] at this

end Mapping

end SearchDsl
