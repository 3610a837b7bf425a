import SearchDsl.Proofs.Mapping.RoundTrip
/-!
The faults of a mapping document, and how reading reports them. Reading a mapping reports every
fault of every node it examines, each once, in the order of the document: a node that is no
mapping object or names no valid type has that one fault; any other node has, member by member,
the fault of each value a parameter refuses and of each parameter its type does not accept,
with the faults of the children under `fields` and `properties`, then one fault per missing
required parameter. A node is examined when every mapping above it has a valid type that accepts
the parameter the node sits under: children under a parameter their parent's type does not
accept are not read at all.

Each error is placed in the document by three values: the path of child names down to its node,
the type of the nearest mapping at or above it with a valid type, and the parameter at fault.
Readers pass errors up with `Error.underField` and `Error.withMapping`; `Error.locate` is what a
path of readers does, and it places every error a node makes on its own.
-/
set_option autoImplicit false

namespace SearchDsl

/-- The field a path of child names denotes: the names joined by dots, none at the top. -/
def fieldPath : List String → Option String
  | [] => none
  | name :: rest => some (match fieldPath rest with
    | some inner => name ++ "." ++ inner
    | none => name)

theorem fieldPath_eq_intercalate {path : List String} (h : path ≠ []) :
    fieldPath path = some (".".intercalate path) := by
  induction path with
  | nil => exact absurd rfl h
  | cons name rest ih =>
    cases rest with
    | nil => simp [fieldPath]
    | cons next more =>
      rw [fieldPath, ih (List.cons_ne_nil next more), String.intercalate_cons_cons]

namespace Error

/-- The error placed in a document: the path of the node it concerns, the mapping type and the
parameter it names. -/
def place (e : Error) (path : List String) (mapping : Option FieldType) (param : Option String) :
    Error :=
  { e with context := { e.context with field := fieldPath path, mapping := mapping, param := param } }

/-- An error as the readers above a node pass it on: the mapping the node sits in names the type
unless something below did, and each name of the path goes in front of the field. -/
def locate (path : List String) (outer : Option FieldType) (e : Error) : Error :=
  path.foldr underField (match outer with
    | some t => e.withMapping t
    | none => e)

variable {e : Error} {path : List String} {outer : Option FieldType}

theorem underField_withMapping (name : String) (t : FieldType) (e : Error) :
    (e.withMapping t).underField name = (e.underField name).withMapping t := by
  obtain ⟨kind, ⟨clause, mapping, role, field, param, received, detail, json⟩⟩ := e
  cases field <;> rfl

theorem underField_place (name : String) (m : Option FieldType) (q : Option String) :
    (e.place path m q).underField name = e.place (name :: path) m q := by
  unfold underField
  cases h : fieldPath path <;> simp [place, withField, fieldPath, h]

theorem locate_append (name : String) :
    locate (path ++ [name]) outer e = locate path outer (e.underField name) := by
  cases outer <;> simp [locate, underField_withMapping]

theorem locate_withMapping (t : FieldType) :
    locate path outer (e.withMapping t) = locate path (some t) e := by
  cases outer with
  | none => rfl
  | some t' =>
    have hkeep : (e.withMapping t).withMapping t' = e.withMapping t := by
      obtain ⟨kind, ⟨clause, mapping, role, field, param, received, detail, json⟩⟩ := e
      cases mapping <;> rfl
    simp only [locate, hkeep]

theorem locate_eq_place (hf : e.context.field = none) :
    locate path outer e = e.place path (e.context.mapping.orElse fun _ => outer) e.context.param := by
  induction path with
  | nil =>
    obtain ⟨kind, context⟩ := e
    simp only at hf
    cases outer <;> cases context <;> simp_all [locate, place, withMapping, fieldPath]
  | cons name rest ih =>
    simp only [locate, List.foldr_cons] at ih ⊢
    rw [ih, underField_place]

theorem place_withParam (k : String) (m : Option FieldType) (q : Option String) :
    (e.withParam k).place path m q = e.place path m q := rfl

/-- An error that names the parameter `key` and no field or mapping, as the refusal of a
parameter's value does. -/
def NamesParam (e : Error) (key : String) : Prop :=
  e.context.field = none ∧ e.context.mapping = none ∧ e.context.param = some key

theorem NamesParam.withDetail {key : String} (h : e.NamesParam key) (d : String) :
    (e.withDetail d).NamesParam key := h

theorem NamesParam.withReceived {key : String} (h : e.NamesParam key) (r : String) :
    (e.withReceived r).NamesParam key := h

/-- Every error a run can end in names the parameter `key`, and no field or mapping. -/
def Refusals (key : String) {α : Type} (x : Except Error α) : Prop :=
  ∀ e, x = .error e → e.NamesParam key

namespace Refusals

variable {key : String} {α β : Type}

theorem ok (a : α) : Refusals key (.ok a : Except Error α) := fun _ h => by cases h

theorem error (h : e.NamesParam key) : Refusals key (.error e : Except Error α) := fun _ he => by
  cases he
  exact h

theorem bind {x : Except Error α} {f : α → Except Error β} (hx : Refusals key x)
    (hf : ∀ a, Refusals key (f a)) : Refusals key (x >>= f) := fun e h => by
  rcases Except.bind_eq_error.mp h with h | ⟨a, -, h⟩
  · exact hx e h
  · exact hf a e h

theorem map {x : Except Error α} (f : α → β) (hx : Refusals key x) : Refusals key (x.map f) :=
  fun e h => hx e (Except.map_eq_error.mp h)

theorem mapM {f : α → Except Error β} (hf : ∀ a, Refusals key (f a)) (l : List α) :
    Refusals key (l.mapM f) := fun e h => by
  obtain ⟨a, -, h⟩ := Except.mapM_eq_error h
  exact hf a e h

theorem forM {f : α → Except Error PUnit} (hf : ∀ a, Refusals key (f a)) (l : List α) :
    Refusals key (l.forM f) := fun e h => by
  obtain ⟨a, -, h⟩ := Except.forM_eq_error h
  exact hf a e h

end Refusals

end Error

namespace MappingParam

open Error (Refusals)

variable (p : MappingParam) (v : Json)

theorem refuse_namesParam (kind : ErrorKind) : (p.refuse kind v).NamesParam p.key :=
  ⟨rfl, rfl, rfl⟩

theorem looseOf_refusals : Refusals p.key (p.looseOf v) := by
  unfold looseOf
  split
  · exact Refusals.ok _
  · exact Refusals.error (p.refuse_namesParam v _)

theorem require_refusals {α : Type} (kind : ErrorKind) (a : Option α) :
    Refusals p.key (p.require kind v a) := by
  cases a with
  | none => exact Refusals.error (p.refuse_namesParam v kind)
  | some a => exact Refusals.ok a

theorem tagOf_refusals (α : Type) [Tagged α] : Refusals p.key (tagOf α p v) := by
  refine (p.looseOf_refusals v).bind fun l e h => ?_
  cases hparse : (Tagged.parse l.text : Except Error α) with
  | ok a => simp [hparse, Except.mapError] at h
  | error e' =>
    simp only [hparse, Except.mapError, Except.error.injEq] at h
    subst h
    simp only [Tagged.parse] at hparse
    split at hparse
    · cases hparse
    · cases hparse
      exact ⟨rfl, rfl, rfl⟩

theorem shingleSizeOf_refusals (size : Int) : Refusals maxShingleSize.key (shingleSizeOf size) := by
  unfold shingleSizeOf
  split
  · exact Refusals.ok _
  · split
    · exact Refusals.ok _
    · exact Refusals.error ⟨rfl, rfl, rfl⟩

theorem validateMeta_refusals (entries : List (String × String)) :
    Refusals metadata.key (validateMeta entries) := by
  simp only [validateMeta]
  split
  · exact Refusals.error ⟨rfl, rfl, rfl⟩
  · refine Refusals.forM (fun kv => ?_) entries
    split
    · exact Refusals.error ⟨rfl, rfl, rfl⟩
    · split
      · exact Refusals.error ⟨rfl, rfl, rfl⟩
      · exact Refusals.ok _

/-- Every value a parameter refuses is refused with an error that names the parameter, and no
field or mapping yet. -/
theorem settingOf_refusals : Refusals p.key (p.settingOf v) := by
  have hloose := p.looseOf_refusals v
  have hreq : ∀ {α : Type} (kind : ErrorKind) (a : Option α), Refusals p.key (p.require kind v a) :=
    p.require_refusals v
  cases p <;> simp only [settingOf]
  case metadata =>
    split
    · refine (Refusals.mapM (fun kx => ?_) _).bind fun entries =>
        (validateMeta_refusals entries).bind fun _ => Refusals.ok _
      split
      · exact Refusals.ok _
      · exact Refusals.error ⟨rfl, rfl, rfl⟩
    · exact Refusals.error (refuse_namesParam _ v _)
  case relations =>
    split
    · exact (Refusals.mapM (fun _ => (hreq _ _).map _) _).bind fun _ => Refusals.ok _
    · exact Refusals.error (refuse_namesParam _ v _)
  case fields | properties => exact Refusals.error ((refuse_namesParam _ v _).withDetail _)
  case maxShingleSize =>
    exact hloose.bind fun l => (hreq _ _).bind fun size =>
      (shingleSizeOf_refusals size).bind fun _ => Refusals.ok _
  case dynamic | indexOptions | orientation | similarity | termVector =>
    exact (tagOf_refusals _ v _).bind fun _ => Refusals.ok _
  case analyzer | searchAnalyzer | searchQuoteAnalyzer | normalizer | format | path =>
    exact hloose.bind fun _ => Refusals.ok _
  case boost | scalingFactor | dims | coerce | docValues | eagerGlobalOrdinals | enabled
      | ignoreMalformed | ignoreZValue | index | norms | positiveScoreImpact
      | preservePositionIncrements | preserveSeparators | splitQueriesOnWhitespace | store
      | depthLimit | ignoreAbove | maxInputLength | positionIncrementGap =>
    exact hloose.bind fun _ => (hreq _ _).bind fun _ => Refusals.ok _
  case nullValue | value | copyTo => exact (hreq _ _).bind fun _ => Refusals.ok _

theorem ofKey?_eq_some {s : String} {p : MappingParam} (h : ofKey? s = some p) : p.key = s := by
  simpa using List.find?_some h

theorem key_ne_of_ofKey?_eq_none {s : String} (h : ofKey? s = none) (p : MappingParam) :
    p.key ≠ s := by
  simpa using List.find?_eq_none.mp h p (Mapping.mem_all p)

end MappingParam

namespace Mapping

/-! ### What a parameter holds once a mapping object is read -/

/-- What a parameter holds once one more member is read: null clears it, a value it accepts
replaces what it held, and a value it refuses leaves that. -/
def holdStep (p : MappingParam) (held : Option FieldSetting) (member : String × Json) :
    Option FieldSetting :=
  if member.1 = p.key then
    match member.2 with
    | .null => none
    | v =>
      match p.settingOf v with
      | .ok s => s
      | .error _ => held
  else held

/-- The parameters a type requires that are missing, given what each parameter holds, each with
the kind of its error: `dims` of a `dense_vector`, `scaling_factor` of a `scaled_float`, and a
non-empty `path` of an `alias`. -/
def lacking (t : FieldType) (held : MappingParam → Option FieldSetting) :
    List (ErrorKind × MappingParam) :=
  match t with
  | .denseVector => if (held .dims).isNone then [(.dimsRequired, .dims)] else []
  | .scaledFloat =>
    if (held .scalingFactor).isNone then [(.valueRequired, .scalingFactor)] else []
  | .fieldAlias =>
    match held .path with
    | some (.text s) => if s.isEmpty then [(.pathRequired, .path)] else []
    | _ => [(.pathRequired, .path)]
  | _ => []

theorem missingRequired_eq_lacking (m : Mapping) :
    m.missingRequired = (lacking m.type m.setting?).map fun q =>
      ((Error.ofKind q.1).withMapping m.type).withParam q.2.key := by
  unfold missingRequired lacking
  generalize m.type = t
  cases t <;> dsimp only
  case denseVector | scaledFloat => split <;> rfl
  case fieldAlias =>
    generalize m.setting? .path = held
    cases held with
    | none => rfl
    | some s =>
      cases s
      case text s =>
        dsimp only
        split <;> rfl
      all_goals rfl
  all_goals rfl

section Step

variable {m m' : Mapping} {p q : MappingParam} {v : Json} {held : Option FieldSetting}

theorem holdStep_of_ne {key : String} (h : key ≠ p.key) : holdStep p held (key, v) = held :=
  if_neg h

@[simp] theorem holdStep_null : holdStep p held (p.key, .null) = none := by
  simp [holdStep]

theorem holdStep_of_ne_null (hv : v ≠ .null) :
    holdStep p held (p.key, v) = match p.settingOf v with
      | .ok s => s
      | .error _ => held := by
  unfold holdStep
  rw [if_pos rfl]
  split
  · rename_i heq
    exact absurd heq hv
  · rfl

theorem setting?_putSetting_none (q : MappingParam) :
    (m.putSetting p none).setting? q = if q = p then none else m.setting? q := by
  simp only [setting?, settings_putSetting_none]
  exact Keyed.lookup_filter_ne p q m.settings

theorem reset_of_not_child (hc : p ≠ .fields ∧ p ≠ .properties) : m.reset p = m.putSetting p none := by
  unfold reset
  split
  · rename_i heq
    cases heq
    exact absurd rfl hc.1
  · rename_i heq
    cases heq
    exact absurd rfl hc.2
  · rfl

theorem setChildren_eq_ok {c : Fields} (h : m.setChildren q c = .ok m') :
    m'.type = m.type ∧ m'.settings = m.settings := by
  unfold setChildren at h
  split at h
  · cases h
  · split at h
    · cases h
      exact ⟨rfl, rfl⟩
    · cases h
      exact ⟨rfl, rfl⟩
    · cases h

theorem setting?_putSetting (s : Option FieldSetting) (q : MappingParam) :
    (m.putSetting p s).setting? q = if q = p then s else m.setting? q := by
  cases s with
  | none => exact setting?_putSetting_none q
  | some s => exact setting?_putSetting_some m p s q

theorem set_eq_ok (h : m.set q v = .ok m') :
    m.type.supports q = true ∧
      ((q = .fields ∨ q = .properties) ∧ m'.type = m.type ∧ m'.settings = m.settings ∨
        (q ≠ .fields ∧ q ≠ .properties) ∧ ∃ s, m' = m.putSetting q s ∧
          (v = .null ∧ s = none ∨ v ≠ .null ∧ q.settingOf v = .ok s)) := by
  obtain ⟨hq, ⟨hc, cs, -, hs⟩ | ⟨hc, hs⟩⟩ := set_cases h
  · exact ⟨hq, .inl ⟨hc, setChildren_eq_ok hs⟩⟩
  · refine ⟨hq, .inr ⟨hc, ?_⟩⟩
    unfold setValue at hs
    split at hs
    · cases hs
      exact ⟨none, reset_of_not_child hc, .inl ⟨rfl, rfl⟩⟩
    · rename_i hv
      obtain ⟨s, hset, rfl⟩ := Except.map_eq_ok.mp hs
      exact ⟨s, rfl, .inr ⟨hv, hset⟩⟩

theorem set_ok_type (h : m.set q v = .ok m') : m'.type = m.type := by
  rcases (set_eq_ok h).2 with ⟨-, ht, -⟩ | ⟨-, s, rfl, -⟩
  · exact ht
  · exact type_putSetting m q s

theorem decodeMembers_type (m : Mapping) (errs : MappingErrors) (ms : Json.Members) :
    (decodeMembers m errs ms).1.type = m.type := by
  induction ms generalizing m errs with
  | nil => rw [decodeMembers]
  | cons member rest ih =>
    obtain ⟨key, raw⟩ := member
    rw [decodeMembers]
    split
    · split
      · exact ih m errs
      · split
        · rename_i hset
          rw [ih, set_ok_type hset]
        · exact ih m _
    · exact ih m errs

variable (hc : p ≠ .fields ∧ p ≠ .properties)
include hc

theorem set_ok_setting? (h : m.set q v = .ok m') :
    m'.setting? p = holdStep p (m.setting? p) (q.key, v) := by
  rcases (set_eq_ok h).2 with ⟨hq, -, hss⟩ | ⟨-, s, rfl, hs⟩
  · have hne : q.key ≠ p.key := fun heq => by
      rcases hq with rfl | rfl
      · exact hc.1 (MappingParam.key_injective heq).symm
      · exact hc.2 (MappingParam.key_injective heq).symm
    rw [holdStep_of_ne hne, setting?, hss]
    rfl
  · rw [setting?_putSetting]
    by_cases hpq : p = q
    · subst hpq
      rw [if_pos rfl]
      rcases hs with ⟨rfl, rfl⟩ | ⟨hv, hs⟩
      · exact holdStep_null.symm
      · rw [holdStep_of_ne_null hv, hs]
    · rw [if_neg hpq, holdStep_of_ne fun heq => hpq (MappingParam.key_injective heq).symm]

theorem set_error_holdStep (hs : m.type.supports p = true) {E : MappingErrors}
    (h : m.set q v = .error E) : holdStep p (m.setting? p) (q.key, v) = m.setting? p := by
  by_cases hpq : q = p
  · subst hpq
    unfold Mapping.set at h
    rw [if_neg (by simp [hs])] at h
    split at h
    · exact absurd rfl hc.1
    · exact absurd rfl hc.2
    · unfold setValue at h
      split at h
      · cases h
      · rename_i hv
        rw [holdStep_of_ne_null hv]
        split
        · rename_i s hset
          rw [hset] at h
          cases h
        · rfl
  · exact holdStep_of_ne fun heq => hpq (MappingParam.key_injective heq)

theorem decodeMembers_setting? (errs : MappingErrors) (ms : Json.Members)
    (hs : m.type.supports p = true) :
    (decodeMembers m errs ms).1.setting? p = ms.foldl (holdStep p) (m.setting? p) := by
  induction ms generalizing m errs with
  | nil => rw [decodeMembers, List.foldl_nil]
  | cons member rest ih =>
    obtain ⟨key, raw⟩ := member
    rw [decodeMembers, List.foldl_cons]
    split
    · rename_i q hq
      have hkey := MappingParam.ofKey?_eq_some hq
      subst hkey
      rw [if_neg (MappingParam.key_ne_type q)]
      split
      · rename_i m' hset
        rw [ih _ (set_ok_type hset ▸ hs), set_ok_setting? hc hset]
      · rename_i E hset
        rw [ih _ hs, set_error_holdStep hc hs hset]
    · rename_i hq
      rw [ih _ hs, holdStep_of_ne (MappingParam.key_ne_of_ofKey?_eq_none hq p).symm]

end Step

end Mapping

/-! ### The faults of a document -/

namespace Mapping

/-- The faults of the required parameters of a mapping object of type `t` at `path`: one for
each parameter it lacks once its members are read. -/
def requiredFaults (path : List String) (t : FieldType) (ms : Json.Members) : List Error :=
  (lacking t fun p => ms.foldl (holdStep p) none).map fun q =>
    (Error.ofKind q.1).place path (some t) (some q.2.key)

/-- The fault of a value given to a parameter other than the children: none for null, which
clears the parameter, else the parameter's refusal, if it refuses the value. -/
def settingFaults (path : List String) (t : FieldType) (p : MappingParam) : Json → List Error
  | .null => []
  | v =>
    match p.settingOf v with
    | .ok _ => []
    | .error e => [e.place path (some t) (some p.key)]

/-- The faults of a member that names the parameter `p` of a mapping object of type `t`, given the
faults of its value read as children: a parameter the type does not accept is one fault, and
its value is not read; the children count under `fields` and `properties`; any other parameter
has its refusal of the value. -/
def paramFaults (path : List String) (t : FieldType) (p : MappingParam) (raw : Json)
    (children : List Error) : List Error :=
  if !t.supports p then [(Mapping.unsupported t p).place path (some t) (some p.key)]
  else if p = .fields ∨ p = .properties then children
  else settingFaults path t p raw

end Mapping

mutual

/-- The faults of the mapping node at `path`, below a mapping of type `outer`. -/
def Mapping.faults (path : List String) (outer : Option FieldType) : Json → List Error
  | .obj ms =>
    match Mapping.readType ms with
    | .error e => [(e.withJson (.obj ms)).place path outer none]
    | .ok t => Mapping.memberFaults path t ms ++ Mapping.requiredFaults path t ms
  | v => [(((Error.ofKind .invalidParams).withDetail "expected a mapping object").withJson v).place
      path outer none]

/-- The faults of the members of a mapping object of type `t`, in order: a parameter the type
does not accept, the children under `fields` and `properties`, a value another parameter
refuses. -/
def Mapping.memberFaults (path : List String) (t : FieldType) : Json.Members → List Error
  | [] => []
  | (key, raw) :: rest =>
    (match MappingParam.ofKey? key with
      | some p => Mapping.paramFaults path t p raw (Fields.faults path (some t) raw)
      | none => []) ++ Mapping.memberFaults path t rest

/-- The faults of the children of the node at `path`, a mapping of type `outer`: each child's
own, under its name. A value that is neither null nor an object is refused as `properties`. -/
def Fields.faults (path : List String) (outer : Option FieldType) : Json → List Error
  | .null => []
  | .obj ms => Fields.memberFaults path outer ms
  | v => [((Error.ofKind .invalidParams).withReceived v.render).place path outer (some "properties")]

def Fields.memberFaults (path : List String) (outer : Option FieldType) :
    Json.Members → List Error
  | [] => []
  | (name, child) :: rest =>
    Mapping.faults (path ++ [name]) outer child ++ Fields.memberFaults path outer rest

end

/-! ### Reading reports the faults -/

namespace MappingErrors

/-- The errors a reading reports: none when it gives a value. -/
def found {α : Type} : Except MappingErrors α → List Error
  | .ok _ => []
  | .error E => E.errors

@[simp] theorem found_ok {α : Type} (a : α) : found (.ok a : Except MappingErrors α) = [] := rfl

@[simp] theorem found_error {α : Type} (E : MappingErrors) :
    found (.error E : Except MappingErrors α) = E.errors := rfl

@[simp] theorem found_toExcept {α : Type} (m : MappingErrors) (a : α) :
    found (m.toExcept a) = m.errors := by
  unfold toExcept
  split
  · rename_i h
    exact (List.isEmpty_iff.mp h).symm
  · rfl

end MappingErrors

namespace Error

variable {e : Error} {path : List String} {outer : Option FieldType}

/-- An error that names no field, mapping or parameter, as an error of a node's own value does. -/
def Bare (e : Error) : Prop :=
  e.context.field = none ∧ e.context.mapping = none ∧ e.context.param = none

theorem Bare.withJson (h : e.Bare) (j : Json) : (e.withJson j).Bare := by
  unfold Error.withJson
  split
  · exact h
  · exact h

theorem locate_nil : locate [] none = id := rfl

theorem locate_of_bare (h : e.Bare) : locate path outer e = e.place path outer none := by
  rw [locate_eq_place h.1, h.2.1, h.2.2]
  rfl

theorem locate_tagged {t : FieldType} {k : String} (hf : e.context.field = none)
    (hm : e.context.mapping = none) (hp : e.context.param = none ∨ e.context.param = some k) :
    locate path outer ((e.withMapping t).withParam k) = e.place path (some t) (some k) := by
  have hswap : (e.withMapping t).withParam k = (e.withParam k).withMapping t := rfl
  rw [hswap, locate_withMapping,
    locate_eq_place (show (e.withParam k).context.field = none from hf)]
  have hp' : (e.withParam k).context.param = some k := by
    rcases hp with hp | hp <;> simp [withParam, hp]
  rw [show (e.withParam k).context.mapping = none from hm, hp']
  exact place_withParam k (some t) (some k)

theorem NamesParam.locate_tagged {t : FieldType} {k : String} (h : e.NamesParam k) :
    locate path outer ((e.withMapping t).withParam k) = e.place path (some t) (some k) :=
  Error.locate_tagged h.1 h.2.1 (.inr h.2.2)

end Error

namespace Mapping

variable {path : List String} {outer : Option FieldType}

theorem readType_error_bare {ms : Json.Members} {e : Error} (h : readType ms = .error e) :
    e.Bare := by
  unfold readType at h
  split at h
  · unfold FieldType.parse at h
    split at h
    · cases h
    · cases h
      exact ⟨rfl, rfl, rfl⟩
  · cases h
    exact ⟨rfl, rfl, rfl⟩
  · split at h
    · cases h
    · cases h
      exact ⟨rfl, rfl, rfl⟩

theorem locate_unsupported (t : FieldType) (p : MappingParam) :
    (unsupported t p).locate path outer = (unsupported t p).place path (some t) (some p.key) := by
  rw [Error.locate_eq_place rfl]
  rfl

theorem lacking_congr {t : FieldType} {held held' : MappingParam → Option FieldSetting}
    (h : ∀ p, t.supports p = true → p ≠ .fields ∧ p ≠ .properties → held p = held' p) :
    lacking t held = lacking t held' := by
  cases t
  case denseVector => simp only [lacking, h .dims (by decide) ⟨by decide, by decide⟩]
  case scaledFloat => simp only [lacking, h .scalingFactor (by decide) ⟨by decide, by decide⟩]
  case fieldAlias => simp only [lacking, h .path (by decide) ⟨by decide, by decide⟩]
  all_goals rfl

theorem missingRequired_decodeMembers (path : List String) (outer : Option FieldType) (t : FieldType)
    (ms : Json.Members) :
    (decodeMembers (new t) {} ms).1.missingRequired.map (Error.locate path outer) =
      requiredFaults path t ms := by
  have ht : (decodeMembers (new t) {} ms).1.type = t := decodeMembers_type (new t) {} ms
  have hheld : lacking t (decodeMembers (new t) {} ms).1.setting? =
      lacking t fun p => ms.foldl (holdStep p) none := lacking_congr fun p hs hc =>
    decodeMembers_setting? hc {} ms hs
  rw [missingRequired_eq_lacking, ht, hheld, requiredFaults, List.map_map]
  exact List.map_congr_left fun q _ => Error.locate_tagged rfl rfl (.inl rfl)

theorem setChildren_ok {m : Mapping} {q : MappingParam} (c : Fields) (hs : m.type.supports q = true)
    (hq : q = .fields ∨ q = .properties) : ∃ m', m.setChildren q c = .ok m' := by
  obtain ⟨t, ss, fs, ps⟩ := m
  unfold setChildren
  rw [if_neg (by simpa using hs)]
  rcases hq with rfl | rfl
  · exact ⟨_, rfl⟩
  · exact ⟨_, rfl⟩

theorem settingFaults_of_ok {t : FieldType} {p : MappingParam} {v : Json} {s : Option FieldSetting}
    (hv : v ≠ .null) (h : p.settingOf v = .ok s) : settingFaults path t p v = [] := by
  unfold settingFaults
  split
  · exact absurd rfl hv
  · rw [h]

theorem settingFaults_of_error {t : FieldType} {p : MappingParam} {v : Json} {e : Error}
    (hv : v ≠ .null) (h : p.settingOf v = .error e) :
    settingFaults path t p v = [e.place path (some t) (some p.key)] := by
  unfold settingFaults
  split
  · exact absurd rfl hv
  · rw [h]

end Mapping

mutual

/-- Reading a mapping node reports its faults, placed below the path and the outer mapping. -/
theorem Mapping.decode_found (J : Json) (path : List String) (outer : Option FieldType) :
    (MappingErrors.found (Mapping.decode J)).map (Error.locate path outer) =
      Mapping.faults path outer J := by
  unfold Mapping.decode
  split
  · rename_i ms
    split
    · rename_i e he
      rw [MappingErrors.found_error, MappingErrors.single, List.map_singleton,
        Error.locate_of_bare ((Mapping.readType_error_bare he).withJson _)]
      simp only [Mapping.faults, he]
    · rename_i t ht
      have hmembers := Mapping.decodeMembers_found (Mapping.new t) {} ms path outer
      have hrequired := Mapping.missingRequired_decodeMembers path outer t ms
      generalize Mapping.decodeMembers (Mapping.new t) {} ms = r at hmembers hrequired
      obtain ⟨m, errs⟩ := r
      simp only [MappingErrors.found_toExcept, MappingErrors.append, List.map_append] at hmembers ⊢
      rw [hmembers, hrequired]
      simp [Mapping.faults, ht, Mapping.new, Mapping.type]
  · rename_i hobj
    rw [MappingErrors.found_error, MappingErrors.single, List.map_singleton,
      Error.locate_of_bare (Error.Bare.withJson ⟨rfl, rfl, rfl⟩ J)]
    cases J
    case obj ms => exact absurd rfl (hobj ms)
    all_goals rfl
termination_by 4 * sizeOf J + 3
decreasing_by all_goals (subst_vars; simp -failIfUnchanged only [Json.obj.sizeOf_spec]; omega)

theorem Mapping.decodeMembers_found (m : Mapping) (errs : MappingErrors) (ms : Json.Members)
    (path : List String) (outer : Option FieldType) :
    (Mapping.decodeMembers m errs ms).2.errors.map (Error.locate path outer) =
      errs.errors.map (Error.locate path outer) ++ Mapping.memberFaults path m.type ms := by
  unfold Mapping.decodeMembers
  split
  · simp [Mapping.memberFaults]
  · rename_i key raw rest
    split
    · rename_i p hp
      have hkey := MappingParam.ofKey?_eq_some hp
      subst hkey
      rw [if_neg (MappingParam.key_ne_type p)]
      have hset := Mapping.set_found m p raw path outer
      split
      · rename_i m' hok
        rw [hok, MappingErrors.found_ok, List.map_nil] at hset
        rw [Mapping.decodeMembers_found m' errs rest path outer, Mapping.set_ok_type hok]
        simp [Mapping.memberFaults, hp, ← hset]
      · rename_i E herr
        rw [herr, MappingErrors.found_error] at hset
        rw [Mapping.decodeMembers_found m (errs.append E) rest path outer]
        simp [MappingErrors.append, Mapping.memberFaults, hp, hset]
    · rename_i hp
      rw [Mapping.decodeMembers_found m errs rest path outer]
      simp [Mapping.memberFaults, hp]
termination_by 4 * sizeOf ms + 2
decreasing_by
  all_goals
    subst_vars
    simp -failIfUnchanged only [List.cons.sizeOf_spec, Prod.mk.sizeOf_spec]
    omega

theorem Mapping.set_found (m : Mapping) (p : MappingParam) (v : Json) (path : List String)
    (outer : Option FieldType) :
    (MappingErrors.found (m.set p v)).map (Error.locate path outer) =
      Mapping.paramFaults path m.type p v (Fields.faults path (some m.type) v) := by
  unfold Mapping.set
  split
  · rename_i hns
    rw [MappingErrors.found_error, MappingErrors.single, List.map_singleton,
      Mapping.locate_unsupported, Mapping.paramFaults, if_pos hns]
  · rename_i hs
    have hsupp : m.type.supports p = true := by simpa using hs
    have hchildren := Fields.decode_found v path (some m.type)
    have hholds : ∀ q, (q = .fields ∨ q = .properties) → m.type.supports q = true →
        (MappingErrors.found (match Fields.decode v with
          | .error inner => .error ⟨inner.errors.map (·.withMapping m.type)⟩
          | .ok children => (m.setChildren q children).mapError .single)).map
          (Error.locate path outer) = Fields.faults path (some m.type) v := by
      intro q hq hqs
      split
      · rename_i inner hinner
        rw [hinner, MappingErrors.found_error] at hchildren
        rw [MappingErrors.found_error, List.map_map, ← hchildren]
        exact List.map_congr_left fun e _ => Error.locate_withMapping m.type
      · rename_i c hc
        rw [hc, MappingErrors.found_ok, List.map_nil] at hchildren
        obtain ⟨m', hm'⟩ := Mapping.setChildren_ok c hqs hq
        rw [← hchildren, hm']
        rfl
    split
    · rw [Mapping.paramFaults, if_neg hs, if_pos (.inl rfl)]
      exact hholds .fields (.inl rfl) hsupp
    · rw [Mapping.paramFaults, if_neg hs, if_pos (.inr rfl)]
      exact hholds .properties (.inr rfl) hsupp
    · rename_i hf hp
      rw [Mapping.paramFaults, if_neg hs, if_neg fun h => h.elim hf hp]
      unfold Mapping.setValue
      split
      · rfl
      · rename_i hv
        cases hset : p.settingOf v with
        | ok s =>
          rw [Mapping.settingFaults_of_ok hv hset]
          rfl
        | error e =>
          rw [Mapping.settingFaults_of_error hv hset]
          exact congrArg (fun e => [e])
            ((MappingParam.settingOf_refusals p v e hset).locate_tagged)
termination_by 4 * sizeOf v + 1
decreasing_by all_goals omega

/-- Reading children reports their faults, each under its name. -/
theorem Fields.decode_found (v : Json) (path : List String) (outer : Option FieldType) :
    (MappingErrors.found (Fields.decode v)).map (Error.locate path outer) =
      Fields.faults path outer v := by
  unfold Fields.decode
  split
  · rfl
  · rename_i ms
    have hmembers := Fields.decodeMembers_found .empty {} ms path outer
    generalize Fields.decodeMembers .empty {} ms = r at hmembers
    obtain ⟨fs, errs⟩ := r
    rw [MappingErrors.found_toExcept, hmembers]
    rfl
  · rename_i hnull hobj
    rw [MappingErrors.found_error, MappingErrors.single, List.map_singleton,
      Error.locate_eq_place rfl]
    cases v
    case null => exact absurd rfl hnull
    case obj ms => exact absurd rfl (hobj ms)
    all_goals rfl
termination_by 4 * sizeOf v
decreasing_by all_goals (subst_vars; simp -failIfUnchanged only [Json.obj.sizeOf_spec]; omega)

theorem Fields.decodeMembers_found (fs : Fields) (errs : MappingErrors) (ms : Json.Members)
    (path : List String) (outer : Option FieldType) :
    (Fields.decodeMembers fs errs ms).2.errors.map (Error.locate path outer) =
      errs.errors.map (Error.locate path outer) ++ Fields.memberFaults path outer ms := by
  unfold Fields.decodeMembers
  split
  · simp [Fields.memberFaults]
  · rename_i name child rest
    have hchild := Mapping.decode_found child (path ++ [name]) outer
    split
    · rename_i m hm
      rw [hm, MappingErrors.found_ok, List.map_nil] at hchild
      rw [Fields.decodeMembers_found (fs.insert name m) errs rest path outer]
      simp [Fields.memberFaults, ← hchild]
    · rename_i inner hinner
      rw [hinner, MappingErrors.found_error] at hchild
      rw [Fields.decodeMembers_found fs (errs.absorb name inner) rest path outer]
      -- the child's errors, each under its name, are its faults one level down the path
      have hunder : (inner.errors.map (Error.underField name)).map (Error.locate path outer) =
          Mapping.faults (path ++ [name]) outer child := by
        rw [← hchild, List.map_map]
        exact List.map_congr_left fun e _ => (Error.locate_append name).symm
      simp [MappingErrors.absorb, Fields.memberFaults, ← hunder]
termination_by 4 * sizeOf ms + 3
decreasing_by
  all_goals
    subst_vars
    simp -failIfUnchanged only [List.cons.sizeOf_spec, Prod.mk.sizeOf_spec]
    omega

end

namespace Mappings

/-- The faults of a mappings document: a `dynamic` that its setting refuses, then the faults of
the top-level fields. -/
def faults : Json → List Error
  | .obj ms =>
    (match Json.Members.get? ms "dynamic" with
      | none | some .null => []
      | some raw =>
        match dynamicOf raw with
        | .ok _ => []
        | .error e => [e]) ++
    (match Json.Members.get? ms "properties" with
      | none => []
      | some raw => Fields.faults [] none raw)
  | v => [((Error.ofKind .invalidParams).withDetail "expected a mappings object").withJson v]

theorem decode_found (J : Json) : MappingErrors.found (decode J) = faults J := by
  unfold decode
  split
  · rename_i ms
    have hfields : ∀ raw, MappingErrors.found (Fields.decode raw) = Fields.faults [] none raw := by
      intro raw
      have h := Fields.decode_found raw [] none
      rwa [Error.locate_nil, List.map_id] at h
    simp only [faults]
    cases hd : Json.Members.get? ms "dynamic" with
    | none =>
      cases hp : Json.Members.get? ms "properties" with
      | none => simp
      | some raw => cases hf : Fields.decode raw <;> simp [← hfields raw, hf, MappingErrors.append]
    | some raw =>
      -- a null `dynamic` is no setting; any other value is read by `dynamicOf`
      cases raw
      case null =>
        cases hp : Json.Members.get? ms "properties" with
        | none => simp
        | some raw => cases hf : Fields.decode raw <;> simp [← hfields raw, hf, MappingErrors.append]
      all_goals
        simp only
        generalize dynamicOf _ = r
        cases hp : Json.Members.get? ms "properties" with
        | none => cases r <;> simp [MappingErrors.single]
        | some praw =>
          cases hf : Fields.decode praw <;> cases r <;>
            simp [← hfields praw, hf, MappingErrors.append, MappingErrors.single]
  · rename_i hobj
    cases J
    case obj ms => exact absurd rfl (hobj ms)
    all_goals rfl

end Mappings

/-! ### Reading succeeds exactly when there is no fault -/

namespace MappingErrors

/-- A reading reports exactly `faults`: a value when there are none, else every one of them,
in order. -/
def Reports {α : Type} (r : Except MappingErrors α) (faults : List Error) : Prop :=
  match r with
  | .ok _ => faults = []
  | .error E => E.errors = faults ∧ faults ≠ []

theorem reports_of_found {α : Type} {r : Except MappingErrors α} {faults : List Error}
    (h : found r = faults) (hne : ∀ E, r = .error E → E.errors ≠ []) : Reports r faults := by
  cases r with
  | ok a => exact h.symm
  | error E => exact ⟨h, h ▸ hne E rfl⟩

theorem toExcept_error_ne_nil {α : Type} {m E : MappingErrors} {a : α}
    (h : m.toExcept a = .error E) : E.errors ≠ [] := by
  unfold toExcept at h
  split at h
  · cases h
  · rename_i hne
    cases h
    exact fun h => hne (by simp [h])

end MappingErrors

theorem Mapping.decode_error_ne_nil {J : Json} {E : MappingErrors} (h : Mapping.decode J = .error E) :
    E.errors ≠ [] := by
  unfold Mapping.decode at h
  split at h
  · split at h
    · cases h
      exact List.cons_ne_nil _ _
    · exact MappingErrors.toExcept_error_ne_nil h
  · cases h
    exact List.cons_ne_nil _ _

theorem Fields.decode_error_ne_nil {J : Json} {E : MappingErrors} (h : Fields.decode J = .error E) :
    E.errors ≠ [] := by
  unfold Fields.decode at h
  split at h
  · cases h
  · exact MappingErrors.toExcept_error_ne_nil h
  · cases h
    exact List.cons_ne_nil _ _

theorem Mappings.decode_error_ne_nil {J : Json} {E : MappingErrors}
    (h : Mappings.decode J = .error E) : E.errors ≠ [] := by
  unfold Mappings.decode at h
  split at h
  · exact MappingErrors.toExcept_error_ne_nil h
  · cases h
    exact List.cons_ne_nil _ _

/-- Reading a mapping, the children of a mapping, or a mappings document gives a value exactly
when no node it examines has a fault, and otherwise reports every fault of every examined node,
each once, in the order of the document, placed at its node's path, under the type of the
nearest mapping with a valid type, and with the parameter at fault. -/
theorem mappings_reportEveryFault :
    (∀ J, MappingErrors.Reports (Mapping.decode J) (Mapping.faults [] none J)) ∧
      (∀ J, MappingErrors.Reports (Fields.decode J) (Fields.faults [] none J)) ∧
      ∀ J, MappingErrors.Reports (Mappings.decode J) (Mappings.faults J) := by
  refine ⟨fun J => ?_, fun J => ?_, fun J => ?_⟩
  · have h := Mapping.decode_found J [] none
    rw [Error.locate_nil, List.map_id] at h
    exact MappingErrors.reports_of_found h fun _ => Mapping.decode_error_ne_nil
  · have h := Fields.decode_found J [] none
    rw [Error.locate_nil, List.map_id] at h
    exact MappingErrors.reports_of_found h fun _ => Fields.decode_error_ne_nil
  · exact MappingErrors.reports_of_found (Mappings.decode_found J) fun _ =>
      Mappings.decode_error_ne_nil

/-- Children under a parameter that a type does not accept are not read: a `text` mapping with
`properties` is refused for that alone, and the invalid type of its child goes unreported. -/
theorem decode_skips_children_of_unaccepted :
    (∃ E, Mapping.decode (.obj [("type", .str "bogus")]) = .error E) ∧
      Mapping.decode (.obj [("properties", .obj [("x", .obj [("type", .str "bogus")])]),
        ("type", .str "text")]) = .error (.single (Mapping.unsupported .text .properties)) := by
  have htext : FieldType.parse "text" = .ok .text := rfl
  have hprops : MappingParam.ofKey? "properties" = some .properties := rfl
  have htype : (Mapping.new .text).type = .text := rfl
  have hsupp : FieldType.text.supports .properties = false := rfl
  have hreq : (Mapping.new .text).missingRequired = [] := rfl
  refine ⟨⟨_, by rw [Mapping.decode]; rfl⟩, ?_⟩
  rw [Mapping.decode]
  simp [Mapping.readType, Json.Members.get?, Mapping.decodeMembers, Mapping.set, htext, hprops,
    MappingParam.ofKey?_type, htype, hsupp, hreq, MappingErrors.toExcept, MappingErrors.append,
    MappingErrors.single]

end SearchDsl
