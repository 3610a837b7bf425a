import SearchDsl.Query.FullText
import SearchDsl.Query.Script
import SearchDsl.Proofs.Query.Slots
/-!
Clauses without children read back from their own bodies. Reading a body keeps only what it can
write again: a field and a payload it checked, parameters in canonical form. Writing such a
clause and reading it back gives the same clause, for every kind of clause that holds no child
clause.
-/
set_option autoImplicit false

namespace SearchDsl

namespace TermQuery

theorem decode_body_of {field : String} {v : Scalar} {ps : Params} (hfield : field.isEmpty = false)
    (hv : Scalar.ofJson? v.toJson = some v) (hc : Params.Canonical QueryKind.term.params ps) :
    decode (body ⟨field, some v, ps⟩) = .ok ⟨field, some v, ps⟩ := by
  have hval : Shape.scalar? (Json.Members.ofList (("value", v.toJson) ::
      ps.members QueryKind.term.params)) "value" = .ok (some v) :=
    Shape.scalar?_of_get?
      ((Json.Members.get?_own_params_of_ofKey? [("value", v.toJson)] ps _ rfl).trans (by simp)) hv
  have hpar : Params.ofMembers QueryKind.term.params (some .term) (Json.Members.ofList
      (("value", v.toJson) :: ps.members QueryKind.term.params)) = .ok ps :=
    Params.ofMembers_own_params (some .term) [("value", v.toJson)] hc
      (by simp [ne_key_of_ofKey? (k := "value") rfl])
  simp [body, isEmpty, hfield, Shape.opt, decode, Shape.fieldKeyed_wrapField, hval, hpar]

theorem decode_body {J : Json} {q : TermQuery} (h : decode J = .ok q) (hne : q.isEmpty = false) :
    decode q.body = .ok q := by
  -- what reading kept: the field, a value that is no time, canonical parameters
  obtain ⟨field, v, ps, rfl, hv, hc⟩ : ∃ field v ps, q = ⟨field, some v, ps⟩ ∧
      Scalar.ofJson? v.toJson = some v ∧ Params.Canonical QueryKind.term.params ps := by
    unfold decode at h
    obtain ⟨r, -, h⟩ := Except.bind_eq_ok.mp h
    rcases r with _ | ⟨field, ms⟩
    · cases h
      simp [isEmpty] at hne
    · obtain ⟨value, hvalue, h⟩ := Except.bind_eq_ok.mp h
      obtain ⟨ps, hps, h⟩ := Except.bind_eq_ok.mp h
      rcases value with _ | v
      · cases h
      · cases h
        exact ⟨field, v, ps, rfl, Shape.ofJson?_of_scalar? (Except.mapError_eq_ok.mp hvalue),
          Params.ofMembers_canonical (Except.mapError_eq_ok.mp hps)⟩
  exact decode_body_of hne hv hc

end TermQuery

namespace PatternQuery

theorem decode_body_of {k : QueryKind} {field value : String} {ps : Params}
    (hfield : field.isEmpty = false) (hvalue : value.isEmpty = false)
    (hc : Params.Canonical k.params ps) :
    decode k (body k ⟨field, value, ps⟩) = .ok ⟨field, value, ps⟩ := by
  have hval : Shape.text (Json.Members.ofList (("value", .str value) :: ps.members k.params))
      "value" = .ok value :=
    Shape.text_of_get?
      ((Json.Members.get?_own_params_of_ofKey? [("value", .str value)] ps _ rfl).trans
        (by simp [hvalue]))
  have hpar : Params.ofMembers k.params (some k) (Json.Members.ofList
      (("value", .str value) :: ps.members k.params)) = .ok ps :=
    Params.ofMembers_own_params (some k) [("value", .str value)] hc
      (by simp [ne_key_of_ofKey? (k := "value") rfl])
  have hvalue' : value ≠ "" := String.isEmpty_eq_false_iff.mp hvalue
  simp [body, isEmpty, hfield, decode, Shape.fieldKeyed_wrapField, hval, hpar, hvalue']

theorem decode_body {k : QueryKind} {J : Json} {q : PatternQuery} (h : decode k J = .ok q)
    (hne : q.isEmpty = false) : decode k (q.body k) = .ok q := by
  obtain ⟨field, value, ps, rfl, hvalue, hc⟩ : ∃ field value ps, q = ⟨field, value, ps⟩ ∧
      value.isEmpty = false ∧ Params.Canonical k.params ps := by
    unfold decode at h
    obtain ⟨r, -, h⟩ := Except.bind_eq_ok.mp h
    rcases r with _ | ⟨field, ms⟩
    · cases h
      simp [isEmpty] at hne
    · obtain ⟨value, -, h⟩ := Except.bind_eq_ok.mp h
      obtain ⟨ps, hps, h⟩ := Except.bind_eq_ok.mp h
      split at h
      · cases h
      · rename_i hvalue
        cases h
        exact ⟨field, value, ps, rfl, by simpa using hvalue,
          Params.ofMembers_canonical (Except.mapError_eq_ok.mp hps)⟩
  exact decode_body_of hne hvalue hc

end PatternQuery

namespace RegexpQuery

theorem decode_body_of {field value flags : String} {ps : Params} (hfield : field.isEmpty = false)
    (hvalue : value ≠ "") (hc : Params.Canonical QueryKind.regexp.params ps) :
    decode (body ⟨field, value, flags, ps⟩) = .ok ⟨field, value, flags, ps⟩ := by
  let own := ("value", Json.str value) :: Shape.nonEmpty "flags" flags
  have hown : ∀ m ∈ own, ∀ p ∈ QueryKind.regexp.params, m.1 ≠ p.key := by
    intro m hm p _
    simp only [own, Shape.nonEmpty, List.mem_cons] at hm
    split at hm <;> simp at hm <;> rcases hm with rfl | rfl <;>
      exact ne_key_of_ofKey? rfl p
  have hval : Shape.text (Json.Members.ofList (own ++ ps.members QueryKind.regexp.params))
      "value" = .ok value :=
    Shape.text_of_get? ((Json.Members.get?_own_params_of_ofKey? own ps _ rfl).trans (by
        cases hf : flags.isEmpty <;>
          simp [own, Shape.nonEmpty, hf, hvalue, Json.Members.get?_ofList_cons]))
  have hflags : Shape.text (Json.Members.ofList (own ++ ps.members QueryKind.regexp.params))
      "flags" = .ok flags :=
    Shape.text_of_get? ((Json.Members.get?_own_params_of_ofKey? own ps _ rfl).trans (by
        cases hf : flags.isEmpty <;> simp [own, Shape.nonEmpty, hf, Json.Members.get?_ofList_cons]))
  have hpar := Params.ofMembers_own_params (some .regexp) own hc hown
  have hbody : (RegexpQuery.body ⟨field, value, flags, ps⟩) =
      Shape.wrapField field (own ++ ps.members QueryKind.regexp.params) := by
    simp [body, isEmpty, hfield, own]
  rw [hbody]
  simp [decode, Shape.fieldKeyed_wrapField, hval, hflags, hpar, hvalue]

theorem decode_body {J : Json} {q : RegexpQuery} (h : decode J = .ok q) (hne : q.isEmpty = false) :
    decode q.body = .ok q := by
  obtain ⟨field, value, flags, ps, rfl, hvalue, hc⟩ : ∃ field value flags ps,
      q = ⟨field, value, flags, ps⟩ ∧ value ≠ "" ∧ Params.Canonical QueryKind.regexp.params ps := by
    unfold decode at h
    obtain ⟨r, -, h⟩ := Except.bind_eq_ok.mp h
    rcases r with _ | ⟨field, ms⟩
    · cases h
      simp [isEmpty] at hne
    · obtain ⟨value, -, h⟩ := Except.bind_eq_ok.mp h
      obtain ⟨flags, -, h⟩ := Except.bind_eq_ok.mp h
      obtain ⟨ps, hps, h⟩ := Except.bind_eq_ok.mp h
      split at h
      · cases h
      · rename_i hvalue
        cases h
        exact ⟨field, value, flags, ps, rfl, by simpa using hvalue,
          Params.ofMembers_canonical (Except.mapError_eq_ok.mp hps)⟩
  exact decode_body_of hne hvalue hc

end RegexpQuery

namespace ExistsQuery

theorem decode_body_of {field : String} {ps : Params} (hfield : field ≠ "")
    (hc : Params.Canonical QueryKind.fieldExists.params ps) :
    decode (body ⟨field, ps⟩) = .ok ⟨field, ps⟩ := by
  let own := [("field", Json.str field)]
  have htext : Shape.text (Json.Members.ofList (own ++ ps.members QueryKind.fieldExists.params))
      "field" = .ok field :=
    Shape.text_of_get?
      ((Json.Members.get?_own_params_of_ofKey? own ps _ rfl).trans (by simp [own, hfield]))
  have hpar := Params.ofMembers_own_params (some .fieldExists) own hc
    (own_ne_key ["field"] (by simp [own]) (by decide) _)
  have hbody : body ⟨field, ps⟩ = Json.mkObj (own ++ ps.members QueryKind.fieldExists.params) := by
    simp [body, isEmpty, hfield, own]
  rw [hbody]
  simp [decode, Shape.flat_mkObj, htext, hpar, hfield]

theorem decode_body {J : Json} {q : ExistsQuery} (h : decode J = .ok q) (hne : q.isEmpty = false) :
    decode q.body = .ok q := by
  obtain ⟨field, ps, rfl, hc⟩ : ∃ field ps, q = ⟨field, ps⟩ ∧
      Params.Canonical QueryKind.fieldExists.params ps := by
    unfold decode at h
    obtain ⟨r, -, h⟩ := Except.bind_eq_ok.mp h
    rcases r with _ | ms
    · cases h
      simp [isEmpty] at hne
    · obtain ⟨field, -, h⟩ := Except.bind_eq_ok.mp h
      obtain ⟨ps, hps, h⟩ := Except.bind_eq_ok.mp h
      split at h
      · cases h
      · cases h
        exact ⟨field, ps, rfl, Params.ofMembers_canonical hps⟩
  exact decode_body_of (by simpa [isEmpty] using hne) hc

end ExistsQuery

namespace IdsQuery

theorem mapM_idOf_str (xs : List String) : (xs.map Json.str).mapM idOf = .ok xs := by
  induction xs with
  | nil => rfl
  | cons x rest ih => simp [List.mapM_cons, idOf, ih]

theorem decode_body_of {values : List String} {ps : Params} (hvalues : values.isEmpty = false)
    (hc : Params.Canonical QueryKind.ids.params ps) :
    decode (body ⟨values, ps⟩) = .ok ⟨values, ps⟩ := by
  let own := [("values", namesJson values)]
  have hget : (Json.Members.ofList (own ++ ps.members QueryKind.ids.params)).get? "values" =
      some (.arr (values.map Json.str)) :=
    (Json.Members.get?_own_params_of_ofKey? own ps _ rfl).trans
      (by simp [own, namesJson])
  have hpar := Params.ofMembers_own_params (some .ids) own hc
    (own_ne_key ["values"] (by simp [own]) (by decide) _)
  have hbody : body ⟨values, ps⟩ = Json.mkObj (own ++ ps.members QueryKind.ids.params) := by
    simp [body, isEmpty, hvalues, own]
  rw [hbody]
  have hmap : List.mapM (idOf ∘ Json.str) values = .ok values := by
    simpa [List.mapM_map] using mapM_idOf_str values
  simp [decode, Shape.flat_mkObj, hget, hpar, hmap]

theorem decode_body {J : Json} {q : IdsQuery} (h : decode J = .ok q) (hne : q.isEmpty = false) :
    decode q.body = .ok q := by
  obtain ⟨values, ps, rfl, hc⟩ : ∃ values ps, q = ⟨values, ps⟩ ∧
      Params.Canonical QueryKind.ids.params ps := by
    unfold decode at h
    obtain ⟨r, -, h⟩ := Except.bind_eq_ok.mp h
    rcases r with _ | ms
    · cases h
      simp [isEmpty] at hne
    · -- every way of reading the values goes on to read the parameters
      dsimp only at h
      have hparams : ∀ values : List String,
          (do
            let params ← Params.ofMembers QueryKind.ids.params (some .ids) ms
            pure ⟨values, params⟩ : Except Error IdsQuery) = .ok q →
          ∃ values ps, q = ⟨values, ps⟩ ∧ Params.Canonical QueryKind.ids.params ps := by
        intro values hv
        obtain ⟨ps, hps, hv⟩ := Except.bind_eq_ok.mp hv
        cases hv
        exact ⟨values, ps, rfl, Params.ofMembers_canonical hps⟩
      split at h
      · exact hparams _ h
      · exact hparams _ h
      · obtain ⟨values, -, h⟩ := Except.bind_eq_ok.mp h
        exact hparams _ h
      · exact hparams _ h
      · cases h
  exact decode_body_of hne hc

end IdsQuery

namespace BareQuery

theorem decode_body_of {k : QueryKind} {ps : Params} (hc : Params.Canonical k.params ps) :
    decode k (body k ⟨true, ps⟩) = .ok ⟨true, ps⟩ := by
  have hpar : Params.ofMembers k.params (some k) (Json.Members.ofList (ps.members k.params)) =
      .ok ps :=
    Params.ofMembers_own_params (some k) [] hc (by simp)
  simp [body, isEmpty, decode, Shape.flat_mkObj, hpar]

theorem decode_body {k : QueryKind} {J : Json} {q : BareQuery} (h : decode k J = .ok q)
    (hne : q.isEmpty = false) : decode k (q.body k) = .ok q := by
  obtain ⟨ps, rfl, hc⟩ : ∃ ps, q = ⟨true, ps⟩ ∧ Params.Canonical k.params ps := by
    unfold decode at h
    obtain ⟨r, -, h⟩ := Except.bind_eq_ok.mp h
    rcases r with _ | ms
    · cases h
      simp [isEmpty] at hne
    · obtain ⟨ps, hps, h⟩ := Except.bind_eq_ok.mp h
      cases h
      exact ⟨ps, rfl, Params.ofMembers_canonical hps⟩
  exact decode_body_of hc

end BareQuery

namespace MatchQuery

theorem decode_body_of {k : QueryKind} {field : String} {s : Scalar} {ps : Params}
    (hfield : field.isEmpty = false) (hs : Scalar.ofJson? s.toJson = some s)
    (hsne : s.isEmpty = false) (hc : Params.Canonical k.params ps) :
    decode k (body k ⟨field, some s, ps⟩) = .ok ⟨field, some s, ps⟩ := by
  let own := [("query", s.toJson)]
  have hquery : Shape.scalar? (Json.Members.ofList (own ++ ps.members k.params)) "query" =
      .ok (some s) :=
    Shape.scalar?_of_get?
      ((Json.Members.get?_own_params_of_ofKey? own ps _ rfl).trans (by simp [own])) hs
  have hpar := Params.ofMembers_own_params (some k) own hc
    (own_ne_key ["query"] (by simp [own]) (by decide) _)
  have hbody : body k ⟨field, some s, ps⟩ = Shape.wrapField field (own ++ ps.members k.params) := by
    simp [body, isEmpty, hfield, own, Shape.opt]
  rw [hbody]
  simp [decode, Shape.fieldKeyed_wrapField, hquery, hpar, lacksQuery, hsne]

theorem decode_body {k : QueryKind} {J : Json} {q : MatchQuery} (h : decode k J = .ok q)
    (hne : q.isEmpty = false) : decode k (q.body k) = .ok q := by
  obtain ⟨field, s, ps, rfl, hs, hsne, hc⟩ : ∃ field s ps, q = ⟨field, some s, ps⟩ ∧
      Scalar.ofJson? s.toJson = some s ∧ s.isEmpty = false ∧ Params.Canonical k.params ps := by
    unfold decode at h
    obtain ⟨r, -, h⟩ := Except.bind_eq_ok.mp h
    rcases r with _ | ⟨field, ms⟩
    · cases h
      simp [isEmpty] at hne
    · obtain ⟨query, hquery, h⟩ := Except.bind_eq_ok.mp h
      obtain ⟨ps, hps, h⟩ := Except.bind_eq_ok.mp h
      split at h
      · cases h
      · rename_i hlack
        cases h
        rcases query with _ | s
        · simp [lacksQuery] at hlack
        · exact ⟨field, s, ps, rfl, Shape.ofJson?_of_scalar? (Except.mapError_eq_ok.mp hquery),
            by simpa [lacksQuery] using hlack, Params.ofMembers_canonical (Except.mapError_eq_ok.mp hps)⟩
  exact decode_body_of hne hs hsne hc

end MatchQuery

namespace Script

theorem decode_toJson (s : Script) : decode s.toJson = .ok s := by
  obtain ⟨source, id, lang, params⟩ := s
  -- each part is found under its own key, the others having other keys
  let ms := Json.Members.ofList (Shape.nonEmpty "source" source ++ Shape.nonEmpty "id" id ++
      Shape.nonEmpty "lang" lang ++ (if params.isEmpty then [] else [("params", .obj params)]))
  have hsource : Shape.text ms "source" = .ok source := Shape.text_of_get? (by
    by_cases hp : params.isEmpty <;> by_cases hs : source = "" <;>
      simp [ms, Json.Members.get?_ofList_append, hp, hs])
  have hid : Shape.text ms "id" = .ok id := Shape.text_of_get? (by
    by_cases hp : params.isEmpty <;> by_cases hs : id = "" <;>
      simp [ms, Json.Members.get?_ofList_append, hp, hs])
  have hlang : Shape.text ms "lang" = .ok lang := Shape.text_of_get? (by
    by_cases hp : params.isEmpty <;> by_cases hs : lang = "" <;>
      simp [ms, Json.Members.get?_ofList_append, hp, hs])
  have hparams : ms.get? "params" = if params.isEmpty then none else some (.obj params) := by
    by_cases hp : params.isEmpty <;> simp [ms, Json.Members.get?_ofList_append, hp]
  change decode (.obj ms) = _
  by_cases hp : params.isEmpty
  · rw [hp, if_pos rfl] at hparams
    rw [List.isEmpty_iff.mp hp]
    simp [decode, hparams, hsource, hid, hlang]
  · rw [Bool.not_eq_true] at hp
    rw [hp] at hparams
    simp [decode, hparams, hsource, hid, hlang]

end Script

namespace ScriptQuery

theorem decode_body_of {script : Script} {ps : Params} (hscript : script.isEmpty = false)
    (hc : Params.Canonical QueryKind.script.params ps) :
    decode (body ⟨script, ps⟩) = .ok ⟨script, ps⟩ := by
  let own := [("script", script.toJson)]
  have hget : (Json.Members.ofList (own ++ ps.members QueryKind.script.params)).get? "script" =
      some script.toJson :=
    (Json.Members.get?_own_params_of_ofKey? own ps _ rfl).trans
      (by simp [own])
  have hpar := Params.ofMembers_own_params (some .script) own hc
    (own_ne_key ["script"] (by simp [own]) (by decide) _)
  have hbody : body ⟨script, ps⟩ = Json.mkObj (own ++ ps.members QueryKind.script.params) := by
    simp [body, isEmpty, hscript, own]
  rw [hbody]
  simp [decode, Shape.flat_mkObj, hget, Script.decode_toJson, hpar, hscript]

theorem decode_body {J : Json} {q : ScriptQuery} (h : decode J = .ok q) (hne : q.isEmpty = false) :
    decode q.body = .ok q := by
  obtain ⟨script, ps, rfl, hc⟩ : ∃ script ps, q = ⟨script, ps⟩ ∧
      Params.Canonical QueryKind.script.params ps := by
    unfold decode at h
    obtain ⟨r, -, h⟩ := Except.bind_eq_ok.mp h
    rcases r with _ | ms
    · cases h
      simp [isEmpty, Script.isEmpty] at hne
    · -- the script is read or left empty; either way the parameters are read next
      dsimp only at h
      split at h
      all_goals
        obtain ⟨script, -, h⟩ := Except.bind_eq_ok.mp h
        obtain ⟨ps, hps, h⟩ := Except.bind_eq_ok.mp h
        split at h
        · cases h
        · cases h
          exact ⟨script, ps, rfl, Params.ofMembers_canonical hps⟩
  exact decode_body_of hne hc

end ScriptQuery

namespace Bounds

theorem readable_of_decode {ms : Json.Members} {b : Bounds} (h : decode ms = .ok b) :
    ∀ x ∈ [b.gt, b.gte, b.lt, b.lte], ∀ s, x = some s → Scalar.ofJson? s.toJson = some s := by
  unfold decode at h
  obtain ⟨gt, hgt, h⟩ := Except.bind_eq_ok.mp h
  obtain ⟨gte, hgte, h⟩ := Except.bind_eq_ok.mp h
  obtain ⟨lt, hlt, h⟩ := Except.bind_eq_ok.mp h
  obtain ⟨lte, hlte, h⟩ := Except.bind_eq_ok.mp h
  cases h
  intro x hx s hs
  simp only [List.mem_cons, List.not_mem_nil, or_false] at hx
  rcases hx with rfl | rfl | rfl | rfl
  · exact Shape.ofJson?_of_scalar? (hs ▸ hgt)
  · exact Shape.ofJson?_of_scalar? (hs ▸ hgte)
  · exact Shape.ofJson?_of_scalar? (hs ▸ hlt)
  · exact Shape.ofJson?_of_scalar? (hs ▸ hlte)

theorem decode_of_get? {ms : Json.Members} {b : Bounds}
    (hb : ∀ x ∈ [b.gt, b.gte, b.lt, b.lte], ∀ s, x = some s → Scalar.ofJson? s.toJson = some s)
    (hget : ∀ k, k ∈ ["gt", "gte", "lt", "lte"] → ms.get? k = (Json.Members.ofList b.members).get? k) :
    decode ms = .ok b := by
  obtain ⟨gt, gte, lt, lte⟩ := b
  have hgt := Shape.scalar?_of_get?_map (k := "gt") (x := gt)
    ((hget "gt" (by simp)).trans (by simp [members, Json.Members.get?_ofList_append]))
    (hb gt (by simp))
  have hgte := Shape.scalar?_of_get?_map (k := "gte") (x := gte)
    ((hget "gte" (by simp)).trans (by simp [members, Json.Members.get?_ofList_append]))
    (hb gte (by simp))
  have hlt := Shape.scalar?_of_get?_map (k := "lt") (x := lt)
    ((hget "lt" (by simp)).trans (by simp [members, Json.Members.get?_ofList_append]))
    (hb lt (by simp))
  have hlte := Shape.scalar?_of_get?_map (k := "lte") (x := lte)
    ((hget "lte" (by simp)).trans (by simp [members, Json.Members.get?_ofList_append]))
    (hb lte (by simp))
  simp [decode, hgt, hgte, hlt, hlte]

end Bounds

namespace RangeQuery

theorem decode_body_of {field : String} {b : Bounds} {ps : Params} (hfield : field.isEmpty = false)
    (hb : ∀ x ∈ [b.gt, b.gte, b.lt, b.lte], ∀ s, x = some s → Scalar.ofJson? s.toJson = some s)
    (hc : Params.Canonical QueryKind.range.params ps) :
    decode (body ⟨field, b, ps⟩) = .ok ⟨field, b, ps⟩ := by
  have hkeys : ∀ m ∈ b.members, m.1 ∈ ["gt", "gte", "lt", "lte"] := by
    intro m hm
    simp only [Bounds.members, List.mem_append] at hm
    rcases hm with ((hm | hm) | hm) | hm <;> simp [mem_opt hm]
  have hbounds : Bounds.decode (Json.Members.ofList (b.members ++ ps.members QueryKind.range.params)) =
      .ok b :=
    Bounds.decode_of_get? hb fun _ hk => Json.Members.get?_own_params_of_ofKey? _ ps _
      (by simp at hk; rcases hk with rfl | rfl | rfl | rfl <;> rfl)
  have hpar := Params.ofMembers_own_params (some .range) b.members hc
    (own_ne_key ["gt", "gte", "lt", "lte"] hkeys (by decide) _)
  simp [body, isEmpty, hfield, decode, Shape.fieldKeyed_wrapField, hbounds, hpar]

theorem decode_body {J : Json} {q : RangeQuery} (h : decode J = .ok q) (hne : q.isEmpty = false) :
    decode q.body = .ok q := by
  obtain ⟨field, b, ps, rfl, hb, hc⟩ : ∃ field b ps, q = ⟨field, b, ps⟩ ∧
      (∀ x ∈ [b.gt, b.gte, b.lt, b.lte], ∀ s, x = some s → Scalar.ofJson? s.toJson = some s) ∧
      Params.Canonical QueryKind.range.params ps := by
    unfold decode at h
    obtain ⟨r, -, h⟩ := Except.bind_eq_ok.mp h
    rcases r with _ | ⟨field, ms⟩
    · cases h
      simp [isEmpty] at hne
    · obtain ⟨b, hb, h⟩ := Except.bind_eq_ok.mp h
      obtain ⟨ps, hps, h⟩ := Except.bind_eq_ok.mp h
      cases h
      exact ⟨field, b, ps, rfl, Bounds.readable_of_decode (Except.mapError_eq_ok.mp hb),
        Params.ofMembers_canonical (Except.mapError_eq_ok.mp hps)⟩
  exact decode_body_of hne hb hc

end RangeQuery

namespace MultiMatchQuery

theorem readType_ne_bestFields {ms : Json.Members} {t : MultiMatchType}
    (h : readType ms = .ok (some t)) : t ≠ .bestFields := by
  unfold readType at h
  split at h
  · cases h
  · split at h
    · cases h
    · cases h
    · unfold typeOf at h
      split at h
      · split at h
        · cases h
        · rename_i hne
          cases h
          exact hne
      · cases h

theorem readType_of_get? {ms : Json.Members} {t : Option MultiMatchType}
    (ht : ∀ v, t = some v → v ≠ .bestFields)
    (h : ms.get? "type" = t.map fun v => .str (Tagged.tag v)) : readType ms = .ok t := by
  cases t with
  | none => simp [readType, h]
  | some v => simp [readType, h, Loose.ofJson, typeOf, Loose.text, ht v rfl]

theorem decode_body_of {query : String} {fields : List String} {t : Option MultiMatchType}
    {ps : Params} (hquery : query ≠ "") (ht : ∀ v, t = some v → v ≠ .bestFields)
    (hc : Params.Canonical QueryKind.multiMatch.params ps) :
    decode (body ⟨query, fields, t, ps⟩) = .ok ⟨query, fields, t, ps⟩ := by
  let own := ("query", Json.str query) :: (if fields.isEmpty then [] else [("fields", namesJson fields)]) ++
    Shape.opt "type" (t.map fun v => .str (Tagged.tag v))
  let ms := Json.Members.ofList (own ++ ps.members QueryKind.multiMatch.params)
  have hown : ∀ k, Param.ofKey? k = none → ms.get? k = (Json.Members.ofList own).get? k :=
    fun _ hk => Json.Members.get?_own_params_of_ofKey? own ps _ hk
  have htext : Shape.text ms "query" = .ok query :=
    Shape.text_of_get? ((hown "query" rfl).trans (by
      simp [own, Json.Members.get?_ofList_append, Json.Members.get?_ofList_cons, hquery]))
  have hfields : Shape.names ms "fields" = .ok fields :=
    Shape.names_of_get?_ite ((hown "fields" rfl).trans (by
      by_cases hf : fields.isEmpty <;>
        simp [own, Json.Members.get?_ofList_cons, hf]))
  have htype : readType ms = .ok t := readType_of_get? ht ((hown "type" rfl).trans (by
    simp [own, Json.Members.get?_ofList_append, Json.Members.get?_ofList_cons]))
  have hkeys : ∀ m ∈ own, m.1 ∈ ["query", "fields", "type"] := by
    intro m hm
    simp only [own, List.mem_append, List.mem_cons] at hm
    rcases hm with (rfl | hm) | hm
    · simp
    · split at hm <;> simp_all
    · simp [mem_opt hm]
  have hpar := Params.ofMembers_own_params (some .multiMatch) own hc
    (own_ne_key _ hkeys (by decide) _)
  have hbody : body ⟨query, fields, t, ps⟩ = Json.mkObj (own ++ ps.members QueryKind.multiMatch.params) := by
    simp [body, isEmpty, hquery, own]
  rw [hbody]
  simp only [ms] at htext hfields htype
  simp [decode, Shape.flat_mkObj, htext, hfields, htype, hpar, hquery]

theorem decode_body {J : Json} {q : MultiMatchQuery} (h : decode J = .ok q)
    (hne : q.isEmpty = false) : decode q.body = .ok q := by
  obtain ⟨query, fields, t, ps, rfl, ht, hc⟩ : ∃ query fields t ps, q = ⟨query, fields, t, ps⟩ ∧
      (∀ v, t = some v → v ≠ .bestFields) ∧ Params.Canonical QueryKind.multiMatch.params ps := by
    unfold decode at h
    obtain ⟨r, -, h⟩ := Except.bind_eq_ok.mp h
    rcases r with _ | ms
    · cases h
      simp [isEmpty] at hne
    · obtain ⟨query, -, h⟩ := Except.bind_eq_ok.mp h
      obtain ⟨fields, -, h⟩ := Except.bind_eq_ok.mp h
      obtain ⟨t, htype, h⟩ := Except.bind_eq_ok.mp h
      obtain ⟨ps, hps, h⟩ := Except.bind_eq_ok.mp h
      split at h
      · cases h
      · cases h
        exact ⟨query, fields, t, ps, rfl, fun v hv => readType_ne_bestFields (hv ▸ htype),
          Params.ofMembers_canonical hps⟩
  exact decode_body_of (by simpa [isEmpty] using hne) ht hc

end MultiMatchQuery

namespace QueryStringQuery

theorem decode_body_of {query df : String} {fields : List String} {ps : Params} (hquery : query ≠ "")
    (hc : Params.Canonical QueryKind.queryString.params ps) :
    decode (body ⟨query, df, fields, ps⟩) = .ok ⟨query, df, fields, ps⟩ := by
  let own := ("query", Json.str query) :: Shape.nonEmpty "default_field" df ++
    (if fields.isEmpty then [] else [("fields", namesJson fields)])
  let ms := Json.Members.ofList (own ++ ps.members QueryKind.queryString.params)
  have hown : ∀ k, Param.ofKey? k = none → ms.get? k = (Json.Members.ofList own).get? k :=
    fun _ hk => Json.Members.get?_own_params_of_ofKey? own ps _ hk
  have htext : Shape.text ms "query" = .ok query :=
    Shape.text_of_get? ((hown "query" rfl).trans (by
      simp [own, Json.Members.get?_ofList_append, Json.Members.get?_ofList_cons, hquery]))
  have hdf : Shape.text ms "default_field" = .ok df :=
    Shape.text_of_get? ((hown "default_field" rfl).trans (by
      by_cases hd : df = "" <;>
        simp [own, Json.Members.get?_ofList_append, Json.Members.get?_ofList_cons, hd]))
  have hfields : Shape.names ms "fields" = .ok fields :=
    Shape.names_of_get?_ite ((hown "fields" rfl).trans (by
      by_cases hf : fields.isEmpty <;>
        simp [own, Json.Members.get?_ofList_append, Json.Members.get?_ofList_cons, hf]))
  have hkeys : ∀ m ∈ own, m.1 ∈ ["query", "default_field", "fields"] := by
    intro m hm
    simp only [own, List.mem_append, List.mem_cons] at hm
    rcases hm with (rfl | hm) | hm
    · simp
    · simp [mem_nonEmpty hm]
    · split at hm <;> simp_all
  have hpar := Params.ofMembers_own_params (some .queryString) own hc
    (own_ne_key _ hkeys (by decide) _)
  have hbody : body ⟨query, df, fields, ps⟩ =
      Json.mkObj (own ++ ps.members QueryKind.queryString.params) := by
    simp [body, isEmpty, hquery, own]
  rw [hbody]
  simp only [ms] at htext hdf hfields
  simp [decode, Shape.flat_mkObj, htext, hdf, hfields, hpar, hquery]

theorem decode_body {J : Json} {q : QueryStringQuery} (h : decode J = .ok q)
    (hne : q.isEmpty = false) : decode q.body = .ok q := by
  obtain ⟨query, df, fields, ps, rfl, hc⟩ : ∃ query df fields ps, q = ⟨query, df, fields, ps⟩ ∧
      Params.Canonical QueryKind.queryString.params ps := by
    unfold decode at h
    obtain ⟨r, -, h⟩ := Except.bind_eq_ok.mp h
    rcases r with _ | ms
    · cases h
      simp [isEmpty] at hne
    · obtain ⟨query, -, h⟩ := Except.bind_eq_ok.mp h
      obtain ⟨df, -, h⟩ := Except.bind_eq_ok.mp h
      obtain ⟨fields, -, h⟩ := Except.bind_eq_ok.mp h
      obtain ⟨ps, hps, h⟩ := Except.bind_eq_ok.mp h
      split at h
      · cases h
      · cases h
        exact ⟨query, df, fields, ps, rfl, Params.ofMembers_canonical hps⟩
  exact decode_body_of (by simpa [isEmpty] using hne) hc

end QueryStringQuery

namespace SimpleQueryStringQuery

theorem decode_body_of {query : String} {fields : List String} {flags : String} {ps : Params}
    (hquery : query ≠ "") (hc : Params.Canonical QueryKind.simpleQueryString.params ps) :
    decode (body ⟨query, fields, flags, ps⟩) = .ok ⟨query, fields, flags, ps⟩ := by
  let own := ("query", Json.str query) ::
    (if fields.isEmpty then [] else [("fields", namesJson fields)]) ++ Shape.nonEmpty "flags" flags
  let ms := Json.Members.ofList (own ++ ps.members QueryKind.simpleQueryString.params)
  have hown : ∀ k, Param.ofKey? k = none → ms.get? k = (Json.Members.ofList own).get? k :=
    fun _ hk => Json.Members.get?_own_params_of_ofKey? own ps _ hk
  have htext : Shape.text ms "query" = .ok query :=
    Shape.text_of_get? ((hown "query" rfl).trans (by
      simp [own, Json.Members.get?_ofList_append, Json.Members.get?_ofList_cons, hquery]))
  have hfields : Shape.names ms "fields" = .ok fields :=
    Shape.names_of_get?_ite ((hown "fields" rfl).trans (by
      by_cases hf : fields.isEmpty <;>
        simp [own, Json.Members.get?_ofList_cons, hf]))
  have hflags : Shape.text ms "flags" = .ok flags :=
    Shape.text_of_get? ((hown "flags" rfl).trans (by
      by_cases hd : flags = "" <;>
        simp [own, Json.Members.get?_ofList_append, Json.Members.get?_ofList_cons, hd]))
  have hkeys : ∀ m ∈ own, m.1 ∈ ["query", "fields", "flags"] := by
    intro m hm
    simp only [own, List.mem_append, List.mem_cons] at hm
    rcases hm with (rfl | hm) | hm
    · simp
    · split at hm <;> simp_all
    · simp [mem_nonEmpty hm]
  have hpar := Params.ofMembers_own_params (some .simpleQueryString) own hc
    (own_ne_key _ hkeys (by decide) _)
  have hbody : body ⟨query, fields, flags, ps⟩ =
      Json.mkObj (own ++ ps.members QueryKind.simpleQueryString.params) := by
    simp [body, isEmpty, hquery, own]
  rw [hbody]
  simp only [ms] at htext hfields hflags
  simp [decode, Shape.flat_mkObj, htext, hfields, hflags, hpar, hquery]

theorem decode_body {J : Json} {q : SimpleQueryStringQuery} (h : decode J = .ok q)
    (hne : q.isEmpty = false) : decode q.body = .ok q := by
  obtain ⟨query, fields, flags, ps, rfl, hc⟩ : ∃ query fields flags ps,
      q = ⟨query, fields, flags, ps⟩ ∧ Params.Canonical QueryKind.simpleQueryString.params ps := by
    unfold decode at h
    obtain ⟨r, -, h⟩ := Except.bind_eq_ok.mp h
    rcases r with _ | ms
    · cases h
      simp [isEmpty] at hne
    · obtain ⟨query, -, h⟩ := Except.bind_eq_ok.mp h
      obtain ⟨fields, -, h⟩ := Except.bind_eq_ok.mp h
      obtain ⟨flags, -, h⟩ := Except.bind_eq_ok.mp h
      obtain ⟨ps, hps, h⟩ := Except.bind_eq_ok.mp h
      split at h
      · cases h
      · cases h
        exact ⟨query, fields, flags, ps, rfl, Params.ofMembers_canonical hps⟩
  exact decode_body_of (by simpa [isEmpty] using hne) hc

end SimpleQueryStringQuery

namespace TermsLookup

theorem validate_eq_ok {l l' : TermsLookup} (h : validate l = .ok l') :
    l' = l ∧ l.index ≠ "" ∧ l.id ≠ "" ∧ l.path ≠ "" := by
  unfold validate at h
  split_ifs at h with hi hd hp
  cases h
  exact ⟨rfl, by simpa using hi, by simpa using hd, by simpa using hp⟩

end TermsLookup

namespace TermsQuery

theorem decodeSource_of_validate {l l' : TermsLookup} (field : String) (h : l.validate = .ok l') :
    decodeSource field l'.toJson = .ok (.lookup l') := by
  obtain ⟨hl, hi, hd, hp⟩ := TermsLookup.validate_eq_ok h
  rw [hl]
  clear h hl
  obtain ⟨index, id, path, routing⟩ := l
  -- the routing is written only when given, and reads back as empty when not
  by_cases hr : routing = "" <;>
    simp_all [decodeSource, TermsLookup.toJson, Json.mkObj, TermsLookup.decode, Shape.text,
      Shape.text?, Json.Members.get?_ofList_cons, TermsLookup.validate]

theorem decodeSource_values {field : String} {vs : List Scalar}
    (hvs : ∀ s ∈ vs, Scalar.ofJson? s.toJson = some s) :
    decodeSource field (sourceJson (.values vs)) = .ok (.values vs) := by
  simp only [decodeSource, sourceJson]
  rw [Except.mapM_map_eq_ok fun s hs => by simp [hvs s hs]]
  rfl

theorem decodeSource_sourceJson {field : String} {j : Json} {src : TermsSource}
    (h : decodeSource field j = .ok src) : decodeSource field (sourceJson src) = .ok src := by
  unfold decodeSource at h
  split at h
  · rename_i items
    obtain ⟨vs, hvs, rfl⟩ := Except.map_eq_ok.mp h
    -- inline values are scalars read from JSON, which read back from their own JSON
    refine decodeSource_values fun s hs => ?_
    obtain ⟨item, -, hitem⟩ := Except.mem_of_mapM_eq_ok hvs s hs
    split at hitem
    · rename_i hj
      cases hitem
      exact Scalar.ofJson?_toJson hj
    · cases hitem
  · obtain ⟨l, hl, rfl⟩ := Except.map_eq_ok.mp h
    unfold TermsLookup.decode at hl
    obtain ⟨index, -, hl⟩ := Except.bind_eq_ok.mp (Except.mapError_eq_ok.mp hl)
    obtain ⟨id, -, hl⟩ := Except.bind_eq_ok.mp hl
    obtain ⟨path, -, hl⟩ := Except.bind_eq_ok.mp hl
    obtain ⟨routing, -, hl⟩ := Except.bind_eq_ok.mp hl
    exact decodeSource_of_validate field hl
  · cases h
    exact decodeSource_values (by simp)
  · obtain ⟨s, hs, rfl⟩ := Except.map_eq_ok.mp h
    refine decodeSource_values fun s' hs' => ?_
    rw [List.mem_singleton.mp hs']
    dsimp only at hs
    split at hs
    · rename_i hj
      cases hs
      exact Scalar.ofJson?_toJson hj
    · cases hs

theorem filter_members (ps : Params) {field : String} (v : Json)
    (hfield : ∀ p ∈ QueryKind.terms.params, field ≠ p.key) :
    (Json.Members.ofList (ps.members QueryKind.terms.params ++ [(field, v)])).filter
      (fun m => !(QueryKind.terms.params.map Param.key).contains m.1) = [(field, v)] := by
  refine Json.Members.filter_eq_singleton (Json.Members.sorted_ofList _)
    (by simp [Json.Members.get?_ofList_append]) (by simpa using fun p hp heq => hfield p hp heq.symm) ?_
  intro m hm hkeep
  rcases List.mem_append.mp (Json.Members.mem_ofList hm) with hmp | hmf
  · -- a parameter member is dropped by the filter
    simp only [Params.members, List.mem_filterMap, Option.map_eq_some_iff] at hmp
    obtain ⟨p, hp, s, -, rfl⟩ := hmp
    simp only [List.contains_map, beq_iff_eq, Bool.not_eq_eq_eq_not, Bool.not_true,
      List.any_eq_false] at hkeep
    exact absurd rfl (hkeep p hp)
  · rw [List.mem_singleton.mp hmf]

theorem decode_body_of {field : String} {src : TermsSource} {ps : Params}
    (hne' : field.isEmpty = false) (hfield : ∀ p ∈ QueryKind.terms.params, field ≠ p.key)
    (hsrc : decodeSource field (sourceJson src) = .ok src)
    (hc : Params.Canonical QueryKind.terms.params ps) :
    decode (body ⟨field, src, ps⟩) = .ok ⟨field, src, ps⟩ := by
  have hpar := Params.ofMembers_params_own (some .terms) [(field, sourceJson src)] hc
    (by simpa using hfield)
  have hbody : body ⟨field, src, ps⟩ =
      Json.mkObj (ps.members QueryKind.terms.params ++ [(field, sourceJson src)]) := by
    simp [body, isEmpty, hne']
  rw [hbody]
  simp only [decode, Shape.flat_mkObj, Except.ok_bind, hpar]
  rw [filter_members ps _ hfield]
  simp [hsrc]

theorem decode_body {J : Json} {q : TermsQuery} (h : decode J = .ok q) (hne : q.isEmpty = false) :
    decode q.body = .ok q := by
  obtain ⟨field, src, ps, rfl, hfield, hsrc, hc⟩ : ∃ field src ps, q = ⟨field, src, ps⟩ ∧
      (∀ p ∈ QueryKind.terms.params, field ≠ p.key) ∧
      decodeSource field (sourceJson src) = .ok src ∧ Params.Canonical QueryKind.terms.params ps := by
    unfold decode at h
    obtain ⟨r, -, h⟩ := Except.bind_eq_ok.mp h
    rcases r with _ | ms
    · cases h
      simp [isEmpty] at hne
    · obtain ⟨ps, hps, h⟩ := Except.bind_eq_ok.mp h
      dsimp only at h
      split at h
      · cases h
        simp [isEmpty] at hne
      · rename_i field terms hfilter
        obtain ⟨src, hsrc, h⟩ := Except.bind_eq_ok.mp h
        cases h
        -- the field is a member the filter kept: not a declared parameter's key
        have hmem : (field, terms) ∈ ms.filter
            (fun m => !(QueryKind.terms.params.map Param.key).contains m.1) := by
          rw [hfilter]
          exact List.mem_singleton_self _
        have hkeep := (List.mem_filter.mp hmem).2
        refine ⟨field, src, ps, rfl, fun p hp heq => ?_, decodeSource_sourceJson hsrc,
          Params.ofMembers_canonical hps⟩
        simp only [List.contains_map, Bool.not_eq_eq_eq_not, Bool.not_true, List.any_eq_false,
          beq_iff_eq] at hkeep
        exact hkeep p hp heq
      · cases h
  exact decode_body_of hne hfield hsrc hc

end TermsQuery

end SearchDsl
