import SearchDsl.Proofs.Setters
import SearchDsl.Mapping.Document
/-!
Building a mapping keeps what it is given. A build sets each given value in parameter order,
collecting the errors of the values it refuses, then puts the given children in place, and it
succeeds only when nothing was refused. Each set changes its own parameter only, so every
parameter given a value holds, in the built mapping, what setting that value stores: nothing for
null, and for any other value the value itself, except a `max_shingle_size` of 0 and an empty
`meta` or `relations`, which ask for the default. A loose value of a record is given as its
JSON, which is null for a double that is not finite: such a value clears its parameter.
-/
set_option autoImplicit false

namespace SearchDsl

theorem Except.eq_nil_of_mapM_eq_ok_nil {α β ε : Type} {f : α → Except ε β} {l : List α}
    (h : l.mapM f = .ok []) : l = [] := by
  cases l with
  | nil => rfl
  | cons a rest =>
    rw [List.mapM_cons] at h
    obtain ⟨_, -, h⟩ := Except.bind_eq_ok.mp h
    obtain ⟨_, -, h⟩ := Except.bind_eq_ok.mp h
    cases h

theorem Json.Members.ofList_eq_nil {ps : List (String × Json)} (h : Json.Members.ofList ps = []) :
    ps = [] := by
  cases ps with
  | nil => rfl
  | cons p rest =>
    have hget := Json.Members.get?_ofList_cons p rest p.1
    rw [h, if_pos rfl, Json.Members.get?_nil] at hget
    cases hg : (Json.Members.ofList rest).get? p.1 <;> simp [hg] at hget

namespace MappingParam

theorem all_nodup : all.Nodup := by decide

/-- A value that asks a parameter for its default: a `max_shingle_size` that coerces to 0, or an
empty `meta` or `relations` object. -/
def AsksDefault (p : MappingParam) (v : Json) : Prop :=
  p = .maxShingleSize ∧ (∃ l, p.looseOf v = .ok l ∧ l.toI64? = some 0) ∨
    (p = .metadata ∨ p = .relations) ∧ v = .obj []

theorem settingOf_eq_ok_none {p : MappingParam} {v : Json} (h : p.settingOf v = .ok none) :
    p.AsksDefault v := by
  cases p <;> simp only [settingOf, reduceCtorEq] at h
  case analyzer | searchAnalyzer | searchQuoteAnalyzer | normalizer | format | path | dynamic
      | indexOptions | orientation | similarity | termVector | nullValue | value | copyTo =>
    obtain ⟨_, -, h⟩ := Except.bind_eq_ok.mp h
    cases h
  case boost | scalingFactor | coerce | docValues | eagerGlobalOrdinals | enabled | ignoreMalformed
      | ignoreZValue | index | norms | positiveScoreImpact | preservePositionIncrements
      | preserveSeparators | splitQueriesOnWhitespace | store | dims | depthLimit | ignoreAbove
      | maxInputLength | positionIncrementGap =>
    obtain ⟨_, -, h⟩ := Except.bind_eq_ok.mp h
    obtain ⟨_, -, h⟩ := Except.bind_eq_ok.mp h
    cases h
  case maxShingleSize =>
    obtain ⟨l, hl, h⟩ := Except.bind_eq_ok.mp h
    obtain ⟨size, hsize, h⟩ := Except.bind_eq_ok.mp h
    obtain ⟨o, ho, h⟩ := Except.bind_eq_ok.mp h
    have ho : o = none := Option.map_eq_none_iff.mp (Except.ok.inj h)
    subst ho
    refine .inl ⟨rfl, l, hl, ?_⟩
    rw [require_eq_ok.mp hsize]
    unfold shingleSizeOf at ho
    split at ho
    · rename_i h0
      rw [h0]
    · split at ho <;> cases ho
  -- the entries of an object, which store nothing only when there are none
  case metadata =>
    split at h
    · obtain ⟨entries, hentries, h⟩ := Except.bind_eq_ok.mp h
      obtain ⟨_, -, h⟩ := Except.bind_eq_ok.mp h
      cases entries with
      | nil =>
        have hms := Json.Members.ofList_eq_nil (Except.eq_nil_of_mapM_eq_ok_nil hentries)
        subst hms
        exact .inr ⟨.inl rfl, rfl⟩
      | cons e rest => cases h
    · cases h
  case relations =>
    split at h
    · obtain ⟨entries, hentries, h⟩ := Except.bind_eq_ok.mp h
      cases entries with
      | nil =>
        have hms := Json.Members.ofList_eq_nil (Except.eq_nil_of_mapM_eq_ok_nil hentries)
        subst hms
        exact .inr ⟨.inr rfl, rfl⟩
      | cons e rest => cases h
    · cases h

end MappingParam

namespace Mapping

/-- One parameter of a build: its given value set, or the errors of setting it collected. -/
def buildStep (given : List (MappingParam × Json)) (acc : Mapping × MappingErrors)
    (q : MappingParam) : Mapping × MappingErrors :=
  match given.lookup q with
  | none => acc
  | some v =>
    match acc.1.set q v with
    | .ok m => (m, acc.2)
    | .error more => (acc.1, acc.2.append more)

/-- The children given to a build put in place, or the error of putting them collected. -/
def buildChild (acc : Mapping × MappingErrors) (q : MappingParam) :
    Option Fields → Mapping × MappingErrors
  | none => acc
  | some fs =>
    match acc.1.setChildren q fs with
    | .ok m => (m, acc.2)
    | .error e => (acc.1, acc.2.push e)

/-- A build before its check of required parameters: the given values set, then the children. -/
def buildRun (t : FieldType) (given : List (MappingParam × Json)) (fs ps : Option Fields) :
    Mapping × MappingErrors :=
  buildChild (buildChild (MappingParam.all.foldl (buildStep given) (new t, {})) .fields fs)
    .properties ps

theorem build_eq (t : FieldType) (given : List (MappingParam × Json)) (fs ps : Option Fields) :
    build t given fs ps = ((buildRun t given fs ps).2.append
      ⟨(buildRun t given fs ps).1.missingRequired⟩).toExcept (buildRun t given fs ps).1 := rfl

theorem buildRun_of_build {t : FieldType} {given : List (MappingParam × Json)} {fs ps : Option Fields}
    {m : Mapping} (h : build t given fs ps = .ok m) :
    (buildRun t given fs ps).2.errors = [] ∧ (buildRun t given fs ps).1 = m := by
  rw [build_eq] at h
  obtain ⟨hnil, hm⟩ := MappingErrors.toExcept_eq_ok.mp h
  exact ⟨(List.append_eq_nil_iff.mp hnil).1, hm⟩

theorem MappingErrors.ne_nil_of_mapError {α ε : Type} {x : Except ε α} {f : ε → MappingErrors}
    {E : MappingErrors} (h : x.mapError f = .error E) (hf : ∀ e, (f e).errors ≠ []) :
    E.errors ≠ [] := by
  cases x with
  | error e =>
    cases h
    exact hf e
  | ok a => cases h

theorem set_error_ne_nil {m : Mapping} {q : MappingParam} {v : Json} {E : MappingErrors}
    (h : m.set q v = .error E) : E.errors ≠ [] := by
  have hsingle : ∀ e : Error, (MappingErrors.single e).errors ≠ [] := fun _ => List.cons_ne_nil _ _
  unfold Mapping.set at h
  split at h
  · cases h
    exact List.cons_ne_nil _ _
  · split at h
    case h_3 => exact MappingErrors.ne_nil_of_mapError h fun _ => hsingle _
    all_goals
      split at h
      · rename_i inner hinner
        cases h
        simpa using Fields.decode_error_ne_nil hinner
      · exact MappingErrors.ne_nil_of_mapError h hsingle

section Steps

variable {given : List (MappingParam × Json)} {p : MappingParam}

theorem buildStep_errors_ne_nil {acc : Mapping × MappingErrors} (q : MappingParam)
    (h : acc.2.errors ≠ []) : (buildStep given acc q).2.errors ≠ [] := by
  unfold buildStep
  split
  · exact h
  · split
    · exact h
    · simp [MappingErrors.append, h]

theorem foldl_buildStep_errors_ne_nil {acc : Mapping × MappingErrors} (l : List MappingParam)
    (h : acc.2.errors ≠ []) : (l.foldl (buildStep given) acc).2.errors ≠ [] := by
  induction l generalizing acc with
  | nil => exact h
  | cons q rest ih => exact ih (buildStep_errors_ne_nil q h)

theorem buildChild_errors_ne_nil {acc : Mapping × MappingErrors} (q : MappingParam) (fs : Option Fields)
    (h : acc.2.errors ≠ []) : (buildChild acc q fs).2.errors ≠ [] := by
  unfold buildChild
  split
  · exact h
  · split
    · exact h
    · simp [MappingErrors.push]

theorem agreeOff_buildStep (acc : Mapping × MappingErrors) (q : MappingParam) :
    acc.1.AgreeOff (buildStep given acc q).1 q := by
  unfold buildStep
  split
  · exact .refl _ _
  · split
    · rename_i hset
      exact agreeOff_set hset
    · exact .refl _ _

theorem agreeOff_buildChild (acc : Mapping × MappingErrors) (q : MappingParam) (fs : Option Fields) :
    acc.1.AgreeOff (buildChild acc q fs).1 q := by
  unfold buildChild
  split
  · exact .refl _ _
  · split
    · rename_i hset
      exact agreeOff_setChildren hset
    · exact .refl _ _

theorem foldl_buildStep_setting? {acc : Mapping × MappingErrors} {l : List MappingParam} (hp : p ∉ l) :
    (l.foldl (buildStep given) acc).1.setting? p = acc.1.setting? p := by
  induction l generalizing acc with
  | nil => rfl
  | cons q rest ih =>
    have hq : p ≠ q := fun h => hp (h ▸ List.mem_cons_self)
    rw [List.foldl_cons, ih (fun h => hp (List.mem_cons_of_mem q h)),
      (agreeOff_buildStep acc q).setting p hq]

theorem buildChild_some {acc : Mapping × MappingErrors} {q : MappingParam} {c : Fields}
    (h : (buildChild acc q (some c)).2.errors = []) :
    acc.1.setChildren q c = .ok (buildChild acc q (some c)).1 := by
  cases hset : acc.1.setChildren q c with
  | ok m' => simp [buildChild, hset]
  | error e => simp [buildChild, hset, MappingErrors.push] at h

theorem buildStep_self {acc : Mapping × MappingErrors} {v : Json} (hv : given.lookup p = some v)
    (hc : p ≠ .fields ∧ p ≠ .properties) (h : (buildStep given acc p).2.errors = []) :
    ∃ s, (buildStep given acc p).1.setting? p = s ∧
      (v = .null ∧ s = none ∨ v ≠ .null ∧ p.settingOf v = .ok s) := by
  cases hset : acc.1.set p v with
  | error more =>
    simp only [buildStep, hv, hset, MappingErrors.append, List.append_eq_nil_iff] at h
    exact absurd h.2 (set_error_ne_nil hset)
  | ok m' =>
    simp only [buildStep, hv, hset]
    rcases (set_eq_ok hset).2 with ⟨hq, -⟩ | ⟨-, s, rfl, hs⟩
    · rcases hq with rfl | rfl
      · exact absurd rfl hc.1
      · exact absurd rfl hc.2
    · exact ⟨s, by rw [setting?_putSetting, if_pos rfl], hs⟩

end Steps

variable {t : FieldType} {given : List (MappingParam × Json)} {fs ps : Option Fields} {m : Mapping}

/-- Building keeps what it is given: in a built mapping, each parameter other than the children
that is given a value holds what setting that value stores, and nothing for null. -/
theorem build_setting? (h : build t given fs ps = .ok m) {p : MappingParam} {v : Json}
    (hv : given.lookup p = some v) (hc : p ≠ .fields ∧ p ≠ .properties) :
    ∃ s, m.setting? p = s ∧ (v = .null ∧ s = none ∨ v ≠ .null ∧ p.settingOf v = .ok s) := by
  obtain ⟨hrun, rfl⟩ := buildRun_of_build h
  -- split the parameters at `p`; those after it do not include `p` again
  obtain ⟨pre, post, hall⟩ := List.append_of_mem (mem_all p)
  have hpost : p ∉ post :=
    (List.nodup_cons.mp (List.Nodup.of_append_right (hall ▸ MappingParam.all_nodup))).1
  unfold buildRun at hrun ⊢
  rw [hall, List.foldl_append, List.foldl_cons] at hrun ⊢
  generalize List.foldl (buildStep given) (new t, {}) pre = r at hrun ⊢
  -- the step of `p` collected no error, since errors once collected stay
  have hp : (buildStep given r p).2.errors = [] := by
    by_contra hne
    exact buildChild_errors_ne_nil _ _
      (buildChild_errors_ne_nil _ _ (foldl_buildStep_errors_ne_nil post hne)) hrun
  obtain ⟨s, hs, hsv⟩ := buildStep_self hv hc hp
  refine ⟨s, ?_, hsv⟩
  rw [(agreeOff_buildChild _ _ _).setting p hc.2, (agreeOff_buildChild _ _ _).setting p hc.1,
    foldl_buildStep_setting? hpost, hs]

/-- A build never drops a value it is given: a parameter other than the children, given a value
that is not null and does not ask for the default, is set in the built mapping. -/
theorem build_isSet (h : build t given fs ps = .ok m) {p : MappingParam} {v : Json}
    (hv : given.lookup p = some v) (hc : p ≠ .fields ∧ p ≠ .properties) (hnull : v ≠ .null)
    (hdef : ¬ p.AsksDefault v) : m.isSet p = true := by
  obtain ⟨s, hs, hsv⟩ := build_setting? h hv hc
  rcases hsv with ⟨hn, -⟩ | ⟨-, hset⟩
  · exact absurd hn hnull
  cases s with
  | none => exact absurd (MappingParam.settingOf_eq_ok_none hset) hdef
  | some x =>
    obtain ⟨j, hj, -, -⟩ := MappingParam.settingOf_rereads hset
    rw [isSet, param?.eq_3 _ p hc.1 hc.2, hs]
    simp [hj]

theorem children_setChildren {m m' : Mapping} {q : MappingParam} {c : Fields}
    (h : m.setChildren q c = .ok m') : q = .fields ∧ m'.fields = c ∨ q = .properties ∧ m'.properties = c := by
  unfold setChildren at h
  split at h
  · cases h
  · split at h
    · cases h
      exact .inl ⟨rfl, rfl⟩
    · cases h
      exact .inr ⟨rfl, rfl⟩
    · cases h

/-- The children given to a build are the children it holds. -/
theorem build_children (h : build t given fs ps = .ok m) :
    (∀ c, fs = some c → m.fields = c) ∧ ∀ c, ps = some c → m.properties = c := by
  obtain ⟨hrun, rfl⟩ := buildRun_of_build h
  unfold buildRun at hrun ⊢
  generalize MappingParam.all.foldl (buildStep given) (new t, {}) = r at hrun ⊢
  have hmid : (buildChild r .fields fs).2.errors = [] := by
    by_contra hne
    exact buildChild_errors_ne_nil _ _ hne hrun
  refine ⟨fun c hc => ?_, fun c hc => ?_⟩
  · subst hc
    rw [(agreeOff_buildChild _ _ _).fields (fun h => MappingParam.noConfusion h)]
    rcases children_setChildren (buildChild_some hmid) with ⟨-, hf⟩ | ⟨h, -⟩
    · exact hf
    · cases h
  · subst hc
    rcases children_setChildren (buildChild_some hrun) with ⟨h, -⟩ | ⟨-, hp⟩
    · cases h
    · exact hp

end Mapping

/-- The JSON a record's loose value is set from is null, which clears its parameter, only for a
double that is not finite. -/
theorem Loose.toJson_eq_null_iff (l : Loose) :
    l.toJson = .null ↔ ∃ f, l = .float f ∧ f.isFinite = false := by
  cases l with
  | float f =>
    by_cases hf : f.isFinite = true <;> simp [Loose.toJson, hf]
  | bool b => simp [Loose.toJson]
  | int i => simp [Loose.toJson]
  | str s => simp [Loose.toJson]

end SearchDsl
