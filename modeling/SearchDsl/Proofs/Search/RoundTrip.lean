import SearchDsl.Proofs.Search.ReadBack
/-!
The round trip of a search body through its JSON value.

The body's reader guarantees of every body it reads what `Search.Readable` asks for, as long as
the value it reads is canonical, as every value read from text is: each member is read into the
body by its own reader, and each reader keeps what it reads within the bounds and orders the
writers need. So a body read from JSON writes a value that reads back as the body, with an empty
query left out, and that body writes the same value again.
-/
set_option autoImplicit false

namespace SearchDsl

open Json (Canonical ValuesCanonical)

namespace Json

theorem lt_of_u64? {v : Json} {n : Nat} (h : u64? v = some n) : n < Nat.pow 2 64 := by
  cases v <;> simp only [u64?, reduceCtorEq] at h
  split at h
  · cases h
    omega
  · cases h

theorem read_of_optional? {α : Type} {read : Json → Option α} {v : Json} {x : Option α}
    (h : optional? read v = some x) {a : α} (ha : x = some a) : read v = some a ∧ v ≠ .null := by
  subst ha
  cases v <;> simp_all [optional?]

theorem eq_obj_of_members? {v : Json} {ms : Members} (h : members? v = some ms) : v = .obj ms := by
  cases v <;> simp_all [members?]

theorem eq_arr_of_items? {α : Type} {read : Json → Option α} {v : Json} {xs : List α}
    (h : items? read v = some xs) : ∃ items, v = .arr items ∧ items.mapM read = some xs := by
  cases v <;> simp_all [items?]

end Json

namespace SortOptions

theorem ofSlots_missing {order mode missing unmapped format : Option Json} {o : SortOptions}
    (h : ofJson?.ofSlots order mode missing unmapped format = some o) :
    ∀ m, o.missing = some m → missing = some m ∧ m ≠ .null := by
  intro m hm
  unfold ofJson?.ofSlots at h
  simp only [Option.bind_eq_bind, Option.bind_eq_some_iff, Option.pure_def, Option.some.injEq] at h
  obtain ⟨_, -, _, -, x, hx, _, -, _, -, rfl⟩ := h
  cases missing with
  | none => simp_all
  | some w =>
    obtain ⟨hw, hnull⟩ := Json.read_of_optional? hx hm
    cases hw
    exact ⟨rfl, hnull⟩

theorem ofJson?_readable {v : Json} (hv : v.Canonical) {o : SortOptions} (h : ofJson? v = some o) :
    ∀ m, o.missing = some m → m.Canonical ∧ m ≠ .null := by
  intro m hm
  cases v with
  | obj ms =>
    obtain ⟨hw, hnull⟩ := ofSlots_missing h m hm
    exact ⟨hv.get? hw, hnull⟩
  | arr items =>
    simp only [ofJson?] at h
    split at h
    · obtain ⟨hw, hnull⟩ := ofSlots_missing h m hm
      exact ⟨hv.items m (List.mem_of_getElem? hw), hnull⟩
    · cases h
  | _ => cases h

end SortOptions

theorem SortSpec.ofJson?_readable {v : Json} (hv : v.Canonical) {spec : SortSpec}
    (h : ofJson? v = some spec) : spec.Readable := by
  unfold ofJson? at h
  split at h
  · cases h
    trivial
  · obtain ⟨o, ho, rfl⟩ := Option.map_eq_some_iff.mp h
    exact SortOptions.ofJson?_readable hv ho

theorem SortClause.ofJson?_readable {v : Json} (hv : v.Canonical) {c : SortClause}
    (h : ofJson? v = some c) : c.Readable := by
  cases v with
  | str s =>
    cases h
    trivial
  | obj ms =>
    obtain ⟨entries, hentries, rfl⟩ := Option.map_eq_some_iff.mp h
    have hkeys : entries.map Prod.fst = ms.map Prod.fst := map_of_mapM_eq_some (fun kv e he => by
      obtain ⟨s, -, rfl⟩ := Option.map_eq_some_iff.mp he
      rfl) hentries
    refine ⟨?_, fun e he => ?_⟩
    · have hs := List.pairwise_map.mpr hv.sorted
      rw [← hkeys] at hs
      exact List.pairwise_map.mp hs
    · obtain ⟨kv, hkv, he'⟩ := mem_of_mapM_eq_some hentries e he
      obtain ⟨s, hs, rfl⟩ := Option.map_eq_some_iff.mp he'
      exact SortSpec.ofJson?_readable (hv.members kv hkv) hs
  | _ => cases h

theorem TrackTotalHits.lt_of_ofJson? {v : Json} {n : Nat} (h : ofJson? v = some (.count n)) :
    n < Nat.pow 2 64 := by
  unfold ofJson? at h
  split at h
  · cases h
  · obtain ⟨m, hm, hmn⟩ := Option.map_eq_some_iff.mp h
    cases hmn
    exact Json.lt_of_u64? hm

namespace Search

theorem readMember_readable {t t' : Search} {k : String} {v : Json} (ht : t.Readable)
    (hv : v.Canonical) (h : t.readMember k v = some t') : t'.Readable := by
  unfold readMember at h
  split at h
  case h_21 =>
    cases h
    exact ht
  case h_7 =>
    simp only [Option.bind_eq_bind, Option.bind_eq_some_iff, Option.pure_def, Option.some.injEq] at h
    obtain ⟨ms, hms, boosts, hboosts, rfl⟩ := h
    cases Json.eq_obj_of_members? hms
    -- the boosts keep the keys of the object they are read from
    have hkeys : boosts.map Prod.fst = ms.map Prod.fst := map_of_mapM_eq_some (fun kx b hb => by
      obtain ⟨f, -, rfl⟩ := Option.map_eq_some_iff.mp hb
      rfl) hboosts
    have hs := List.pairwise_map.mpr hv.sorted
    rw [← hkeys] at hs
    exact { ht with indicesBoost := List.pairwise_map.mp hs }
  all_goals
    simp only [Option.bind_eq_bind, Option.bind_eq_some_iff, Option.pure_def, Option.some.injEq] at h
    obtain ⟨a, ha, rfl⟩ := h
  case h_1 =>
    refine { ht with query := fun q hq => ?_ }
    obtain ⟨hdec, -⟩ := Json.read_of_optional? ha hq
    cases hd : Query.decode v with
    | error e => simp [hd, Except.toOption] at hdec
    | ok q' =>
      simp only [hd, Except.toOption, Option.some.injEq] at hdec
      subst hdec
      exact ⟨Query.decode_readable hd, Query.toJson_canonical (Query.decode_canonical hv hd)⟩
  case h_2 => exact { ht with start := fun n hn => Json.lt_of_u64? (Json.read_of_optional? ha hn).1 }
  case h_3 => exact { ht with size := fun n hn => Json.lt_of_u64? (Json.read_of_optional? ha hn).1 }
  case h_11 =>
    exact { ht with terminateAfter := fun n hn => Json.lt_of_u64? (Json.read_of_optional? ha hn).1 }
  case h_16 => exact { ht with runtimeMappings := Json.eq_obj_of_members? ha ▸ hv }
  case h_17 | h_18 => exact { ht with aggs := Json.eq_obj_of_members? ha ▸ hv }
  case h_19 =>
    obtain ⟨items, rfl, hitems⟩ := Json.eq_arr_of_items? ha
    refine { ht with sort := fun c hc => ?_ }
    obtain ⟨w, hw, hwc⟩ := mem_of_mapM_eq_some hitems c hc
    exact SortClause.ofJson?_readable (hv.items w hw) hwc
  case h_20 =>
    exact { ht with
      trackTotalHits := fun n hn => TrackTotalHits.lt_of_ofJson? (Json.read_of_optional? ha hn).1 }
  all_goals exact { ht with }

/-- Reading members of canonical values one after another keeps a body readable. -/
theorem foldlM_readMember_readable {ms : Json.Members} (hms : ValuesCanonical ms) {t t' : Search}
    (ht : t.Readable) (h : ms.foldlM (fun t m => t.readMember m.1 m.2) t = some t') :
    t'.Readable := by
  induction ms generalizing t with
  | nil =>
    cases h
    exact ht
  | cons m rest ih =>
    rw [List.foldlM_cons] at h
    simp only [Option.bind_eq_bind, Option.bind_eq_some_iff] at h
    obtain ⟨t₁, h₁, h⟩ := h
    rw [ValuesCanonical.cons_iff] at hms
    exact ih hms.2 (readMember_readable ht hms.1 h₁) h

theorem readable_empty : ({} : Search).Readable :=
  ⟨(fun _ h => by cases h), (fun _ h => by cases h), (fun _ h => by cases h), List.Pairwise.nil,
    (fun _ h => by cases h), Json.canonical_empty, Json.canonical_empty, (fun _ h => by cases h),
    (fun _ h => by cases h)⟩

theorem ofMembers?_readable {ms : Json.Members} (hms : ValuesCanonical ms) {s : Search}
    (h : ofMembers? ms = some s) : s.Readable := by
  unfold ofMembers? at h
  split at h
  · cases h
  · exact foldlM_readMember_readable hms readable_empty h

theorem query_readable_of_decode {raw : Json} (hraw : raw.Canonical) {q : Option Query}
    (h : some <$> Query.decode raw = .ok q) : ∀ q', q = some q' → q'.Readable ∧ q'.toJson.Canonical := by
  intro q' hq'
  subst hq'
  cases hd : Query.decode raw with
  | error e =>
    rw [hd] at h
    cases h
  | ok q'' =>
    rw [hd] at h
    cases h
    exact ⟨Query.decode_readable hd, Query.toJson_canonical (Query.decode_canonical hraw hd)⟩

theorem decode_readable {J : Json} (hJ : J.Canonical) {s : Search} (h : decode J = .ok s) :
    s.Readable := by
  cases J
  case obj ms =>
    have hrest : ValuesCanonical (ms.filter fun m => decide (m.1 ≠ "query")) :=
      fun m hm => hJ.members m (List.mem_of_mem_filter hm)
    unfold decode at h
    dsimp only at h
    split at h
    all_goals try (rw [Except.bind_eq_ok] at h; obtain ⟨_, -, h⟩ := h)
    all_goals split at h
    all_goals rw [Except.bind_eq_ok] at h; obtain ⟨q, hq, h⟩ := h
    all_goals split at h
    -- the members but the query are read by shape, the query by its own reader
    all_goals cases h
    all_goals
      rename_i s₁ hs₁
      refine { ofMembers?_readable hrest hs₁ with query := ?_ }
    all_goals first
      | exact query_readable_of_decode (hJ.get? ‹Json.Members.get? ms "query" = some _›) hq
      | intro q' hq'
        cases hq
        cases hq'
  all_goals cases h

theorem part_filter_query (s : Search) (p : Part) :
    ({ s with query := s.query.filter fun q => !q.isEmpty } : Search).part p = s.part p := by
  cases p
  case query => simp [part, Option.filter_filter]
  all_goals rfl

/-- A body read from a canonical JSON value writes a value that reads back as the body with an
empty query left out, and that body writes the same value; a body whose query is unset or has
content reads back as itself. -/
theorem searchBody_roundTrip {J : Json} (hJ : J.Canonical) {s : Search} (h : decode J = .ok s) :
    decode s.toJson = .ok { s with query := s.query.filter fun q => !q.isEmpty } ∧
      ({ s with query := s.query.filter fun q => !q.isEmpty } : Search).toJson = s.toJson ∧
      ((∀ q, s.query = some q → q.isEmpty = false) →
        ({ s with query := s.query.filter fun q => !q.isEmpty } : Search) = s) := by
  refine ⟨decode_toJson (decode_readable hJ h), ?_, fun hq => ?_⟩
  · rw [toJson_eq, toJson_eq, keyedMembers, keyedMembers]
    simp only [part_filter_query]
  · cases s with
    | mk query =>
      cases query with
      | none => rfl
      | some q => simp [hq q rfl]

theorem searchBody_roundTrip_termAndSource :
    let J : Json := .obj [("_source", .obj [("excludes", .arr [.str "b"]), ("includes", .arr [.str "a"])]),
      ("query", .obj [("term", .obj [("f", .str "x")])])]
    let s : Search :=
      { query := some (.mk [.term { field := "f", value := some (.str "x") }]),
        source := some (.filter ["a"] ["b"]) }
    J.Canonical ∧ decode J = .ok s ∧
      (decode s.toJson = .ok { s with query := s.query.filter fun q => !q.isEmpty } ∧
        ({ s with query := s.query.filter fun q => !q.isEmpty } : Search).toJson = s.toJson ∧
        ((∀ q, s.query = some q → q.isEmpty = false) →
          ({ s with query := s.query.filter fun q => !q.isEmpty } : Search) = s)) := by
  intro J s
  have hSource : Json.Canonical (.obj [("excludes", .arr [.str "b"]), ("includes", .arr [.str "a"])]) :=
    Json.canonical_pair (by decide) (.arr (by simp [Json.Canonical.str]))
      (.arr (by simp [Json.Canonical.str]))
  have hJ : J.Canonical :=
    Json.canonical_pair (by decide) hSource (Json.canonical_single (Json.canonical_single (.str "x")))
  have h : decode J = .ok s := by cbv
  exact ⟨hJ, h, searchBody_roundTrip hJ h⟩

end Search

end SearchDsl
