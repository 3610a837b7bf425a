import SearchDsl.Proofs.Mapping.Sound
import SearchDsl.Service.MappingSession
/-!
A session of steps on one mapping keeps it sound. Each step either leaves the mapping as it is or
makes one checked call on it: a set, a reset, a child added or children set from what reading
gave, a child removed, or a child that is there set in turn (`StepEffect`). So whatever the steps,
the mapping a session holds has only parameters its type accepts, and once validation finds
nothing it reads back from its JSON as itself: no request reaches a mapping that does not.
-/
set_option autoImplicit false

namespace SearchDsl.Service

open Mapping

/-- What one step of a session can do to its mapping. -/
inductive StepEffect (m : Mapping) : Mapping → Prop
  | keep : StepEffect m m
  | set {p : MappingParam} {v : Json} {m' : Mapping} : m.set p v = .ok m' → StepEffect m m'
  | reset (p : MappingParam) : StepEffect m (m.reset p)
  | addProperty {name : String} {child m' : Mapping} :
      ((∃ v, Mapping.decode v = .ok child) ∨ ∃ t, child = Mapping.new t) →
      m.addProperty name child = .ok m' → StepEffect m m'
  | addField {name : String} {child m' : Mapping} :
      ((∃ v, Mapping.decode v = .ok child) ∨ ∃ t, child = Mapping.new t) →
      m.addField name child = .ok m' → StepEffect m m'
  | setChildren {p : MappingParam} {v : Json} {cs : Fields} {m' : Mapping} :
      Fields.decode v = .ok cs → m.setChildren p cs = .ok m' → StepEffect m m'
  | removeProperty (name : String) :
      StepEffect m (m.mapProperties fun _ => (m.properties.remove name).1)
  | childSet {name : String} {child child' : Mapping} {p : MappingParam} {v : Json} :
      m.properties.get? name = some child → child.set p v = .ok child' →
      StepEffect m (m.mapProperties (·.insert name child'))

variable {m m' : Mapping}

theorem liftErrors_eq_ok {α : Type} {r : Except MappingErrors α} {a : α} :
    liftErrors r = .ok a ↔ r = .ok a :=
  Except.mapError_eq_ok

theorem liftError_eq_ok {α : Type} {r : Except Error α} {a : α} : liftError r = .ok a ↔ r = .ok a :=
  Except.mapError_eq_ok

/-- Each step that succeeds is one of the effects. -/
theorem mappingStepBy_effect {what : String} {ms : Json.Members} {r : Json}
    (h : mappingStepBy m what ms = .ok (m', r)) : StepEffect m m' := by
  unfold mappingStepBy at h
  split at h
  case h_1 =>
    obtain ⟨p, -, h⟩ := Except.bind_eq_ok.mp h
    obtain ⟨m'', hs, h⟩ := Except.bind_eq_ok.mp h
    cases h
    exact .set (liftErrors_eq_ok.mp hs)
  case h_2 =>
    obtain ⟨p, -, h⟩ := Except.bind_eq_ok.mp h
    cases h
    exact .reset p
  case h_5 =>
    obtain ⟨name, -, h⟩ := Except.bind_eq_ok.mp h
    obtain ⟨child, hc, h⟩ := Except.bind_eq_ok.mp h
    obtain ⟨m'', ha, h⟩ := Except.bind_eq_ok.mp h
    cases h
    exact .addProperty (.inl ⟨_, liftErrors_eq_ok.mp hc⟩) (liftError_eq_ok.mp ha)
  case h_6 =>
    obtain ⟨name, -, h⟩ := Except.bind_eq_ok.mp h
    obtain ⟨child, hc, h⟩ := Except.bind_eq_ok.mp h
    obtain ⟨m'', ha, h⟩ := Except.bind_eq_ok.mp h
    cases h
    exact .addField (.inl ⟨_, liftErrors_eq_ok.mp hc⟩) (liftError_eq_ok.mp ha)
  case h_7 =>
    obtain ⟨name, -, h⟩ := Except.bind_eq_ok.mp h
    obtain ⟨tag, -, h⟩ := Except.bind_eq_ok.mp h
    obtain ⟨t, -, h⟩ := Except.bind_eq_ok.mp h
    obtain ⟨m'', ha, h⟩ := Except.bind_eq_ok.mp h
    cases h
    exact .addProperty (.inr ⟨t, rfl⟩) (liftError_eq_ok.mp ha)
  case h_8 =>
    obtain ⟨name, -, h⟩ := Except.bind_eq_ok.mp h
    obtain ⟨tag, -, h⟩ := Except.bind_eq_ok.mp h
    obtain ⟨t, -, h⟩ := Except.bind_eq_ok.mp h
    obtain ⟨m'', ha, h⟩ := Except.bind_eq_ok.mp h
    cases h
    exact .addField (.inr ⟨t, rfl⟩) (liftError_eq_ok.mp ha)
  case h_9 =>
    obtain ⟨p, -, h⟩ := Except.bind_eq_ok.mp h
    obtain ⟨cs, hc, h⟩ := Except.bind_eq_ok.mp h
    obtain ⟨m'', hs, h⟩ := Except.bind_eq_ok.mp h
    cases h
    exact .setChildren (liftErrors_eq_ok.mp hc) (liftError_eq_ok.mp hs)
  case h_10 =>
    obtain ⟨name, -, h⟩ := Except.bind_eq_ok.mp h
    cases h
    exact .removeProperty name
  case h_13 =>
    obtain ⟨name, -, h⟩ := Except.bind_eq_ok.mp h
    obtain ⟨p, -, h⟩ := Except.bind_eq_ok.mp h
    split at h
    · cases h
      exact .keep
    · rename_i child hget
      obtain ⟨child', hs, h⟩ := Except.bind_eq_ok.mp h
      cases h
      exact .childSet hget (liftErrors_eq_ok.mp hs)
  case h_3 | h_4 | h_11 =>
    obtain ⟨key, -, h⟩ := Except.bind_eq_ok.mp h
    cases h
    exact .keep
  case h_12 =>
    dsimp only at h
    split at h
    · cases h
      exact .keep
    · cases h
  case h_14 | h_15 | h_16 =>
    cases h
    exact .keep
  case h_17 => cases h

/-- A step that fails leaves the mapping as it was. -/
theorem runMappingStep_effect (step : Json) : StepEffect m (runMappingStep m step).1 := by
  unfold runMappingStep
  dsimp only
  split
  · rename_i m' r hok
    split at hok
    · split at hok
      · exact mappingStepBy_effect hok
      · cases hok
    · cases hok
  · exact .keep

theorem StepEffect.sound (he : StepEffect m m') (hm : m.Sound) : m'.Sound := by
  cases he with
  | keep => exact hm
  | set hs => exact hm.set hs
  | reset p => exact hm.reset p
  | addProperty hc ha =>
    rcases hc with ⟨v, hv⟩ | ⟨t, rfl⟩
    · exact hm.addProperty (decode_sound hv) ha
    · exact hm.addProperty (sound_new t) ha
  | addField hc ha =>
    rcases hc with ⟨v, hv⟩ | ⟨t, rfl⟩
    · exact hm.addField (decode_sound hv) ha
    · exact hm.addField (sound_new t) ha
  | setChildren hc hs => exact hm.setChildren (each_sound_of_readable (Fields.decode_readable hc)) hs
  | removeProperty name =>
    exact hm.mapProperties (f := fun _ => (m.properties.remove name).1) (hm.properties.remove name)
      fun he => hm.fitOver.1.properties (Fields.isEmpty_eq_false_of_remove he)
  | childSet hget hs =>
    -- the child set is one of the mapping's own, so it is sound and the type takes children
    have hchild : Sound _ := hm.properties.2 _ (Keyed.mem_of_lookup_eq_some hget)
    exact hm.mapProperties (hm.properties.insert (hchild.set hs) _)
      fun _ => hm.fitOver.1.properties (Fields.isEmpty_eq_false_of_get? hget)

theorem initialMapping_sound {init : Json} (h : initialMapping init = .ok m) : m.Sound := by
  unfold initialMapping at h
  split at h
  · split at h
    · cases h
      exact sound_new _
    · cases h
      exact sound_new _
    · cases h
    · -- a type, with a number of dimensions or with children
      split at h
      all_goals obtain ⟨tag, -, h⟩ := Except.bind_eq_ok.mp h
      · split at h
        · exact denseVector_sound (liftError_eq_ok.mp h)
        · obtain ⟨t, -, rfl⟩ := Except.map_eq_ok.mp (liftError_eq_ok.mp h)
          exact sound_new t
      · split at h
        · cases h
        · obtain ⟨t, -, rfl⟩ := Except.map_eq_ok.mp (liftError_eq_ok.mp h)
          exact sound_new t
      · obtain ⟨cs, hc, h⟩ := Except.bind_eq_ok.mp h
        have hcs := each_sound_of_readable (Fields.decode_readable (liftErrors_eq_ok.mp hc))
        cases h
        split
        · exact sound_nested hcs
        · exact sound_object hcs
      · obtain ⟨t, -, rfl⟩ := Except.map_eq_ok.mp (liftError_eq_ok.mp h)
        exact sound_new t
  · cases h

theorem foldl_runMappingStep_sound (hm : m.Sound) (steps : List Json) :
    (steps.foldl (fun m step => (runMappingStep m step).1) m).Sound := by
  induction steps generalizing m with
  | nil => exact hm
  | cons step rest ih => exact ih ((runMappingStep_effect step).sound hm)

/-- Whatever steps a session runs, the mapping it holds has only parameters its type accepts, each
written in its JSON under its key, and once validation finds nothing it reads back from its JSON
as itself. -/
theorem session_holdsOnlyAccepted {init : Json} (h : initialMapping init = .ok m)
    (steps : List Json) :
    let m' := steps.foldl (fun m step => (runMappingStep m step).1) m
    (∀ p j, m'.param? p = some j → m'.type.supports p = true ∧ m'.toJson.get? p.key = some j) ∧
      (m'.validate = {} → Mapping.decode m'.toJson = .ok m') :=
  (foldl_runMappingStep_sound (initialMapping_sound h) steps).holdsOnlyAccepted

end SearchDsl.Service
