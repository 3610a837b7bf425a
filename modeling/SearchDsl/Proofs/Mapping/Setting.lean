import SearchDsl.Mapping.Basic
import SearchDsl.Proofs.Param.Reread
/-!
Mapping parameter values read back from their own JSON. A mapping stores a value only as its
parameter coerced it from JSON, and every coercion keeps what it accepted in a form that its
JSON gives back: a float is finite, an integer has 64 bits, a tag is written in its canonical
spelling, and the entries of `meta` and `relations` are sorted by key, as the map they were
collected into. Settings are stored sorted by parameter, so they are determined by what each
parameter looks up.
-/
set_option autoImplicit false

namespace SearchDsl

namespace MappingParam

theorem require_eq_ok {α : Type} {p : MappingParam} {kind : ErrorKind} {v : Json} {a : Option α}
    {x : α} : p.require kind v a = .ok x ↔ a = some x := by
  cases a <;> simp [require]

theorem looseOf_wellFormed {p : MappingParam} {v : Json} {l : Loose} (h : p.looseOf v = .ok l) :
    l.WellFormed := by
  unfold looseOf at h
  split at h
  · rename_i hl
    cases h
    exact Loose.ofJson_wellFormed hl
  · cases h

@[simp] theorem looseOf_str (p : MappingParam) (s : String) : p.looseOf (.str s) = .ok (.str s) :=
  rfl

@[simp] theorem looseOf_float (p : MappingParam) (f : Float) :
    p.looseOf (.float f) = .ok (.float f) := rfl

@[simp] theorem looseOf_bool (p : MappingParam) (b : Bool) : p.looseOf (.bool b) = .ok (.bool b) :=
  rfl

theorem looseOf_int (p : MappingParam) {n : Int} (h : Loose.fitsI64 n = true) :
    p.looseOf (.int n) = .ok (.int n) := by
  simp [looseOf, Loose.ofJson_int h]

theorem tagOf_of_text {α : Type} [Tagged α] [LawfulTagged α] {p : MappingParam} {v : Json}
    {l : Loose} {x : α} (hl : p.looseOf v = .ok l) (ht : l.text = Tagged.tag x) :
    tagOf α p v = .ok x := by
  simp [tagOf, hl, ht]

theorem tagOf_tag {α : Type} [Tagged α] [LawfulTagged α] (p : MappingParam) (x : α) :
    tagOf α p (.str (Tagged.tag x)) = .ok x :=
  tagOf_of_text rfl rfl

theorem tagOf_dynamic (p : MappingParam) (d : Dynamic) : tagOf Dynamic p d.toJson = .ok d := by
  cases d <;> exact tagOf_of_text rfl rfl

end MappingParam

theorem Dynamic.toJson_ne_null (d : Dynamic) : d.toJson ≠ .null := by
  cases d <;> exact fun h => Json.noConfusion h

theorem shingleSizeOf_eq_some {size n : Int} :
    shingleSizeOf size = .ok (some n) ↔ n = size ∧ 2 ≤ size ∧ size ≤ 4 := by
  unfold shingleSizeOf
  by_cases h0 : size = 0
  · simp [h0]
  · by_cases hr : 2 ≤ size ∧ size ≤ 4
    · simp [h0, hr, eq_comm]
    · rw [if_neg h0, if_neg hr]
      exact ⟨(fun h => by cases h), fun h => absurd h.2 hr⟩

theorem namesOfJson?_namesValueJson (xs : List String) : namesOfJson? (namesValueJson xs) = some xs := by
  match xs with
  | [] => rfl
  | [x] => rfl
  | x :: y :: rest => exact namesOfJson?_namesJson (x :: y :: rest)

theorem namesValueJson_ne_null (xs : List String) : namesValueJson xs ≠ .null := by
  unfold namesValueJson
  split <;> exact fun h => Json.noConfusion h

theorem Scalar.toJson_ne_null (s : Scalar) : s.toJson ≠ .null := by
  cases s with
  | num n => cases n <;> exact fun h => Json.noConfusion h
  | _ => exact fun h => Json.noConfusion h

theorem sorted_of_collected {β : Type} {f : String × Json → Except Error (String × β)}
    (hkey : ∀ a b, f a = .ok b → b.1 = a.1) {ms : Json.Members} {entries : List (String × β)}
    (h : (Json.Members.ofList ms).mapM f = .ok entries) : Keyed.Sorted id entries :=
  Keyed.Sorted.of_keys (Json.Members.sorted_ofList ms) (Except.map_of_mapM_eq_ok hkey h)

theorem ofList_ofList_written {β : Type} {entries : List (String × β)}
    {g : String × β → String × Json} (hs : Keyed.Sorted id entries) (hg : ∀ b, (g b).1 = b.1) :
    Json.Members.ofList (Json.Members.ofList (entries.map g)) = entries.map g := by
  have hwritten : Keyed.Sorted id (entries.map g) :=
    hs.of_keys (by rw [List.map_map]; exact List.map_congr_left fun b _ => hg b)
  rw [Json.Members.ofList_of_sorted hwritten, Json.Members.ofList_of_sorted hwritten]

/-- A stored value that its parameter reads back from the value's own JSON, which is not null. -/
def FieldSetting.Rereads (p : MappingParam) (s : FieldSetting) : Prop :=
  ∃ j, s.toJson? = some j ∧ j ≠ .null ∧ p.settingOf j = .ok (some s)

namespace MappingParam

/-- Every value a parameter stores reads back from its JSON. -/
theorem settingOf_rereads {p : MappingParam} {v : Json} {s : FieldSetting}
    (h : p.settingOf v = .ok (some s)) : s.Rereads p := by
  cases p <;> simp only [settingOf, reduceCtorEq] at h
  case analyzer | searchAnalyzer | searchQuoteAnalyzer | normalizer | format | path =>
    obtain ⟨l, -, h⟩ := Except.bind_eq_ok.mp h
    cases h
    exact ⟨.str l.text, rfl, fun h => Json.noConfusion h, rfl⟩
  case boost | scalingFactor =>
    obtain ⟨l, hl, h⟩ := Except.bind_eq_ok.mp h
    obtain ⟨f, hf, h⟩ := Except.bind_eq_ok.mp h
    cases h
    obtain ⟨hf, hbound⟩ := Option.filter_eq_some_iff.mp (require_eq_ok.mp hf)
    refine ⟨.float f, rfl, fun h => Json.noConfusion h, ?_⟩
    simp [settingOf, Loose.toF64?_float (Loose.toF64?_isFinite (looseOf_wellFormed hl) hf),
      Option.filter_some, hbound, require]
  case coerce | docValues | eagerGlobalOrdinals | enabled | ignoreMalformed | ignoreZValue | index
      | norms | positiveScoreImpact | preservePositionIncrements | preserveSeparators
      | splitQueriesOnWhitespace | store =>
    obtain ⟨l, -, h⟩ := Except.bind_eq_ok.mp h
    obtain ⟨b, -, h⟩ := Except.bind_eq_ok.mp h
    cases h
    exact ⟨.bool b, rfl, fun h => Json.noConfusion h, by simp [settingOf, Loose.toBool?, require]⟩
  case dims | depthLimit | ignoreAbove | maxInputLength | positionIncrementGap =>
    obtain ⟨l, hl, h⟩ := Except.bind_eq_ok.mp h
    obtain ⟨n, hn, h⟩ := Except.bind_eq_ok.mp h
    cases h
    obtain ⟨hn, hbound⟩ := Option.filter_eq_some_iff.mp (require_eq_ok.mp hn)
    refine ⟨.int n, rfl, fun h => Json.noConfusion h, ?_⟩
    simp [settingOf, looseOf_int _ (Loose.toI64?_fits (looseOf_wellFormed hl) hn), Loose.toI64?,
      Option.filter_some, hbound, require]
  case maxShingleSize =>
    obtain ⟨l, hl, h⟩ := Except.bind_eq_ok.mp h
    obtain ⟨size, hsize, h⟩ := Except.bind_eq_ok.mp h
    obtain ⟨o, ho, h⟩ := Except.bind_eq_ok.mp h
    obtain ⟨n, rfl, hs⟩ := Option.map_eq_some_iff.mp (Except.ok.inj h)
    subst hs
    obtain ⟨hn, hrange⟩ := shingleSizeOf_eq_some.mp ho
    subst hn
    refine ⟨.int n, rfl, fun h => Json.noConfusion h, ?_⟩
    simp [settingOf, looseOf_int _ (Loose.toI64?_fits (looseOf_wellFormed hl) (require_eq_ok.mp hsize)),
      Loose.toI64?, require, ho]
  case dynamic =>
    obtain ⟨d, -, h⟩ := Except.bind_eq_ok.mp h
    cases h
    exact ⟨d.toJson, rfl, d.toJson_ne_null, by simp [settingOf, tagOf_dynamic]⟩
  case indexOptions | orientation | similarity | termVector =>
    obtain ⟨x, -, h⟩ := Except.bind_eq_ok.mp h
    cases h
    exact ⟨.str (Tagged.tag x), rfl, fun h => Json.noConfusion h, by simp [settingOf, tagOf_tag]⟩
  case nullValue | value =>
    obtain ⟨x, hx, h⟩ := Except.bind_eq_ok.mp h
    cases h
    exact ⟨x.toJson, rfl, x.toJson_ne_null,
      by simp [settingOf, Scalar.ofJson?_toJson (require_eq_ok.mp hx), require]⟩
  case copyTo =>
    obtain ⟨xs, -, h⟩ := Except.bind_eq_ok.mp h
    cases h
    exact ⟨namesValueJson xs, rfl, namesValueJson_ne_null xs,
      by simp [settingOf, namesOfJson?_namesValueJson, require]⟩
  case metadata =>
    split at h
    · obtain ⟨entries, hentries, h⟩ := Except.bind_eq_ok.mp h
      obtain ⟨u, hvalid, h⟩ := Except.bind_eq_ok.mp h
      have hsorted := sorted_of_collected (fun a b hab => by
        split at hab
        · cases hab
          rfl
        · cases hab) hentries
      cases entries with
      | nil => cases h
      | cons e rest =>
        cases h
        refine ⟨_, rfl, fun h => Json.noConfusion h, ?_⟩
        simp only [settingOf, Json.mkObj]
        rw [ofList_ofList_written hsorted fun _ => rfl]
        refine Except.bind_eq_ok.mpr ⟨e :: rest, Except.mapM_map_eq_ok fun _ _ => rfl, ?_⟩
        simp [hvalid]
    · cases h
  case relations =>
    split at h
    · obtain ⟨entries, hentries, h⟩ := Except.bind_eq_ok.mp h
      have hsorted := sorted_of_collected (fun _ _ hab => by
        obtain ⟨xs, -, rfl⟩ := Except.map_eq_ok.mp hab
        rfl) hentries
      cases entries with
      | nil => cases h
      | cons e rest =>
        cases h
        refine ⟨_, rfl, fun h => Json.noConfusion h, ?_⟩
        simp only [settingOf, Json.mkObj]
        rw [ofList_ofList_written hsorted fun _ => rfl]
        refine Except.bind_eq_ok.mpr ⟨e :: rest, Except.mapM_map_eq_ok fun b _ => ?_, rfl⟩
        obtain ⟨k, xs⟩ := b
        simp [namesOfJson?_namesValueJson, require]
    · cases h

end MappingParam

end SearchDsl
