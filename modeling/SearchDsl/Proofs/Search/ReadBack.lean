import SearchDsl.Proofs.Search.Members
import SearchDsl.Proofs.Query.Canonical
/-!
Reading back the JSON value of a search body.

Each part of a body is written so that its reader gives it back, under what the body's reader
itself guarantees of what it reads: offsets within 64 bits, boosts and sort entries keyed in
order, carried objects canonical, a sort's missing value canonical and not null, and a query
that reads back. A body with these properties is `Readable`. Its JSON value holds the parts'
members in key order (`Search.keyedMembers`), so reading it is reading part after part, each
read setting the one field its part wrote. What comes back is the body with an empty query left
out, since its value never holds one.
-/
set_option autoImplicit false

namespace SearchDsl

open Json (Canonical ValuesCanonical)

section Runs

variable {α β γ : Type}

theorem mapM_map_eq_some {f : β → Option α} {g : α → β} {l : List α}
    (h : ∀ a ∈ l, f (g a) = some a) : (l.map g).mapM f = some l := by
  induction l with
  | nil => rfl
  | cons a rest ih =>
    rw [List.map_cons, List.mapM_cons, h a List.mem_cons_self,
      ih fun x hx => h x (List.mem_cons_of_mem a hx)]
    rfl

theorem map_of_mapM_eq_some {f : α → Option β} {g : α → γ} {g' : β → γ} {l : List α}
    {bs : List β} (hf : ∀ a b, f a = some b → g' b = g a) (h : l.mapM f = some bs) :
    bs.map g' = l.map g := by
  induction l generalizing bs with
  | nil =>
    cases h
    rfl
  | cons a rest ih =>
    rw [List.mapM_cons] at h
    simp only [Option.bind_eq_bind, Option.bind_eq_some_iff, Option.pure_def, Option.some.injEq] at h
    obtain ⟨b, hb, bs', hbs', rfl⟩ := h
    rw [List.map_cons, List.map_cons, hf a b hb, ih hbs']

theorem mem_of_mapM_eq_some {f : α → Option β} {l : List α} {bs : List β}
    (h : l.mapM f = some bs) : ∀ b ∈ bs, ∃ a ∈ l, f a = some b := by
  induction l generalizing bs with
  | nil =>
    cases h
    simp
  | cons a rest ih =>
    rw [List.mapM_cons] at h
    simp only [Option.bind_eq_bind, Option.bind_eq_some_iff, Option.pure_def, Option.some.injEq] at h
    obtain ⟨b, hb, bs', hbs', rfl⟩ := h
    intro x hx
    rcases List.mem_cons.mp hx with rfl | hx
    · exact ⟨a, List.mem_cons_self, hb⟩
    · obtain ⟨a', ha', hfa'⟩ := ih hbs' x hx
      exact ⟨a', List.mem_cons_of_mem a ha', hfa'⟩

end Runs

namespace Json

theorem u64?_int {n : Nat} (h : n < Nat.pow 2 64) : u64? (.int n) = some n := by
  simp [u64?, h]

theorem optional?_of_ne_null {α : Type} {read : Json → Option α} {v : Json} (hv : v ≠ .null) :
    optional? read v = (read v).map some := by
  cases v with
  | null => exact absurd rfl hv
  | _ => rfl

theorem sortDeep_ne_null {v : Json} (hv : v ≠ .null) : sortDeep v ≠ .null := by
  cases v <;> simp_all [sortDeep, mkObj]

theorem items?_sortDeep {α : Type} {read : Json → Option α} {enc : α → Json} {xs : List α}
    (h : ∀ x ∈ xs, read (sortDeep (enc x)) = some x) :
    items? read (sortDeep (.arr (xs.map enc))) = some xs := by
  rw [sortDeep, sortItems_eq_map, List.map_map]
  exact mapM_map_eq_some h

theorem members?_sortDeep_mkObj {ps : List (String × Json)} (hs : ps.Pairwise fun a b => a.1 < b.1)
    (hc : ValuesCanonical ps) : members? (sortDeep (mkObj ps)) = some ps := by
  rw [(canonical_mkObj hc).sortDeep_eq, mkObj, members?, Members.ofList_eq_of_perm (List.Perm.refl _) hs]

theorem get?_ofList_option {α : Type} (key k : String) (g : α → Json) (o : Option α) :
    (Members.ofList (o.toList.map fun x => (key, g x))).get? k =
      if key = k then o.map g else none := by
  cases o <;> simp

end Json

namespace SourceFilter

theorem toJson_canonical (f : SourceFilter) : f.toJson.Canonical := by
  cases f <;> simp [toJson, Json.canonical_mkObj]

theorem toJson_ne_null (f : SourceFilter) : f.toJson ≠ .null := by
  cases f <;> simp [toJson, namesJson, Json.mkObj]

/-- Every source filter reads back from its JSON; `include` and `exclude` are written with their
plural spellings. -/
theorem decode_toJson (f : SourceFilter) : decode f.toJson = .ok f := by
  cases f with
  | enabled on => rfl
  | field p => rfl
  | fields ps =>
    rw [toJson, namesJson, decode]
    dsimp only
    rw [Except.mapM_map_eq_ok]
    · rfl
    · exact fun _ _ => rfl
  | filter includes excludes =>
    cases includes <;> cases excludes <;>
      simp [decode, toJson, Json.mkObj, namesJson, Json.Members.get?_ofList_cons,
        Except.mapM_map_eq_ok, -List.mapM_map]

end SourceFilter

namespace FieldAndFormat

theorem toJson_canonical (f : FieldAndFormat) : f.toJson.Canonical := by
  cases f with
  | name p => exact .str p
  | spec field format =>
    cases format with
    | none => exact Json.canonical_single (.str field)
    | some x => exact Json.canonical_pair (show "field" < "format" by decide) (.str field) (.str x)

theorem ofJson?_sortDeep (f : FieldAndFormat) : ofJson? (Json.sortDeep f.toJson) = some f := by
  rw [(toJson_canonical f).sortDeep_eq]
  cases f with
  | name p => rfl
  | spec field format => cases format <;> simp [ofJson?, toJson, Json.optional?, Json.str?]

end FieldAndFormat

namespace PointInTime

theorem toJson_canonical (p : PointInTime) : p.toJson.Canonical := by
  obtain ⟨id, keepAlive⟩ := p
  cases keepAlive with
  | none => exact Json.canonical_single (.str id)
  | some k => exact Json.canonical_pair (show "id" < "keep_alive" by decide) (.str id) (.str k)

theorem toJson_ne_null (p : PointInTime) : p.toJson ≠ .null := by
  simp [toJson]

theorem ofJson?_sortDeep (p : PointInTime) : ofJson? (Json.sortDeep p.toJson) = some p := by
  rw [(toJson_canonical p).sortDeep_eq]
  obtain ⟨id, keepAlive⟩ := p
  cases keepAlive <;> simp [ofJson?, toJson, Json.optional?, Json.str?]

end PointInTime

namespace SortOrder

theorem ofJson?_tag (o : SortOrder) : ofJson? (.str o.tag) = some o := by
  cases o <;> rfl

theorem ofJson?_obj_eq_none {ms : Json.Members} (h : ∀ m ∈ ms, m.2 ≠ .null) :
    ofJson? (.obj ms) = none := by
  rcases ms with _ | ⟨⟨k, v⟩, _ | ⟨m, rest⟩⟩
  · rfl
  · cases v with
    | null => exact absurd rfl (h _ List.mem_cons_self)
    | _ => rfl
  · cases v <;> rfl

end SortOrder

/-- A field's sort that reads back as itself: a missing value among its options is canonical and
not null, since a null one reads as unset. -/
def SortSpec.Readable : SortSpec → Prop
  | .order _ => True
  | .options o => ∀ m, o.missing = some m → m.Canonical ∧ m ≠ .null

/-- A sort clause that reads back as itself: its fields in key order, each sort readable. -/
def SortClause.Readable : SortClause → Prop
  | .field _ => True
  | .object entries => (entries.Pairwise fun a b => a.1 < b.1) ∧ ∀ e ∈ entries, e.2.Readable

namespace SortOptions

theorem orderOf_sortDeep {o : SortOptions} (h : ∀ m, o.missing = some m → m ≠ .null) :
    SortOrder.ofJson? (Json.sortDeep o.toJson) = none := by
  obtain ⟨order, mode, missing, unmapped, format⟩ := o
  rw [toJson, Json.sortDeep, Json.mkObj]
  refine SortOrder.ofJson?_obj_eq_none fun m hm => ?_
  have hm' := Json.Members.mem_ofList hm
  rw [Json.sortMembers_eq_map] at hm'
  obtain ⟨⟨k, v⟩, hkv, rfl⟩ := List.mem_map.mp hm'
  apply Json.sortDeep_ne_null
  simp only [List.mem_append, Option.mem_toList, Option.map_eq_some_iff] at hkv
  -- the order, mode, unmapped type and format are never null; the missing value is not either
  rcases hkv with (((⟨x, -, hx⟩ | ⟨x, -, hx⟩) | ⟨x, hx', hx⟩) | ⟨x, -, hx⟩) | ⟨x, -, hx⟩ <;>
    cases hx
  · simp
  · simp
  · exact h _ hx'
  · simp
  · simp

theorem ofJson?_sortDeep {o : SortOptions} (h : ∀ m, o.missing = some m → m.Canonical ∧ m ≠ .null) :
    ofJson? (Json.sortDeep o.toJson) = some o := by
  obtain ⟨order, mode, missing, unmapped, format⟩ := o
  rw [toJson, Json.sortDeep, Json.mkObj, Json.sortMembers_eq_map]
  simp [ofJson?, List.map_append, Json.Members.get?_ofList_append, Option.toList_map,
    List.map_map, Function.comp_def, Json.get?_ofList_option, Json.sortDeep]
  have hm : ∀ m, missing = some m → Json.sortDeep m = m ∧ m ≠ .null := fun m hm =>
    ⟨(h m hm).1.sortDeep_eq, (h m hm).2⟩
  cases order <;> cases mode <;> cases missing <;> cases unmapped <;> cases format <;>
    simp_all [ofJson?.ofSlots, Json.optional?_of_ne_null, SortOrder.ofJson?_tag, Json.str?]

end SortOptions

theorem SortSpec.ofJson?_sortDeep {spec : SortSpec} (h : spec.Readable) :
    ofJson? (Json.sortDeep spec.toJson) = some spec := by
  cases spec with
  | order o => simp [ofJson?, toJson, Json.sortDeep, SortOrder.ofJson?_tag]
  | options o =>
    rw [ofJson?, toJson, SortOptions.orderOf_sortDeep fun m hm => (h m hm).2,
      SortOptions.ofJson?_sortDeep h]
    rfl

namespace SortClause

theorem ofJson?_sortDeep {c : SortClause} (h : c.Readable) : ofJson? (Json.sortDeep c.toJson) = some c := by
  cases c with
  | field s => rfl
  | object entries =>
    obtain ⟨hsorted, hspecs⟩ := h
    -- the entries are written in key order, so sorting their object keeps it
    have hkeys : (entries.map fun e => (e.1, Json.sortDeep e.2.toJson)).Pairwise
        fun a b => a.1 < b.1 := List.pairwise_map.mpr hsorted
    rw [toJson, Json.sortDeep, Json.mkObj, Json.sortMembers_eq_map, List.map_map]
    simp only [Function.comp_def]
    rw [Json.Members.ofList_eq_of_perm (List.Perm.refl _) hkeys, ofJson?, mapM_map_eq_some]
    · rfl
    · intro e he
      rw [SortSpec.ofJson?_sortDeep (hspecs e he)]
      rfl

end SortClause

namespace TrackTotalHits

theorem toJson_canonical (h : TrackTotalHits) : h.toJson.Canonical := by
  cases h <;> simp [toJson]

theorem toJson_ne_null (h : TrackTotalHits) : h.toJson ≠ .null := by
  cases h <;> simp [toJson]

theorem ofJson?_toJson {h : TrackTotalHits} (hn : ∀ n, h = .count n → n < Nat.pow 2 64) :
    ofJson? h.toJson = some h := by
  cases h with
  | flag b => rfl
  | count n => simp [ofJson?, toJson, Json.u64?_int (hn n rfl)]

end TrackTotalHits

namespace Search

/-- A body that reads back from its JSON value: what the body's reader guarantees of every body
it reads. -/
structure Readable (s : Search) : Prop where
  query : ∀ q, s.query = some q → q.Readable ∧ q.toJson.Canonical
  start : ∀ n, s.start = some n → n < Nat.pow 2 64
  size : ∀ n, s.size = some n → n < Nat.pow 2 64
  indicesBoost : s.indicesBoost.Pairwise fun a b => a.1 < b.1
  terminateAfter : ∀ n, s.terminateAfter = some n → n < Nat.pow 2 64
  runtimeMappings : (Json.obj s.runtimeMappings).Canonical
  aggs : (Json.obj s.aggs).Canonical
  sort : ∀ c ∈ s.sort, c.Readable
  trackTotalHits : ∀ n, s.trackTotalHits = some (.count n) → n < Nat.pow 2 64

def withPart (t : Search) : Part → Search → Search
  | .query, s => { t with query := s.query }
  | .start, s => { t with start := s.start }
  | .size, s => { t with size := s.size }
  | .source, s => { t with source := s.source }
  | .fields, s => { t with fields := s.fields }
  | .docvalueFields, s => { t with docvalueFields := s.docvalueFields }
  | .indicesBoost, s => { t with indicesBoost := s.indicesBoost }
  | .minScore, s => { t with minScore := s.minScore }
  | .pit, s => { t with pit := s.pit }
  | .stats, s => { t with stats := s.stats }
  | .terminateAfter, s => { t with terminateAfter := s.terminateAfter }
  | .timeout, s => { t with timeout := s.timeout }
  | .version, s => { t with version := s.version }
  | .explain, s => { t with explain := s.explain }
  | .seqNoPrimaryTerm, s => { t with seqNoPrimaryTerm := s.seqNoPrimaryTerm }
  | .runtimeMappings, s => { t with runtimeMappings := s.runtimeMappings }
  | .aggs, s => { t with aggs := s.aggs }
  | .sort, s => { t with sort := s.sort }
  | .trackTotalHits, s => { t with trackTotalHits := s.trackTotalHits }

theorem part_withPart_of_ne {p q : Part} (h : p ≠ q) (t s : Search) :
    (t.withPart p s).part q = t.part q := by
  cases p <;> cases q <;> first | rfl | exact absurd rfl h

theorem withPart_eq_self {p : Part} (hp : p ≠ .query) {s t : Search} (hs : s.part p = [])
    (ht : t.part p = []) : t.withPart p s = t := by
  cases t
  cases p
  case query => exact absurd rfl hp
  all_goals simp_all [part, withPart, ← Option.eq_none_iff_forall_ne_some]

/-- Reading the member a part wrote takes that part. -/
theorem readMember_part {p : Part} (hp : p ≠ .query) {s : Search} (hs : s.Readable) {v : Json}
    (hv : s.part p = [(p.key, v)]) (t : Search) :
    t.readMember p.key (Json.sortDeep v) = some (t.withPart p s) := by
  cases p
  case query => exact absurd rfl hp
  all_goals simp only [Part.key] at hv ⊢
  -- the key names the branch of the reader
  all_goals unfold readMember; simp only
  case start =>
    cases hn : s.start with
    | none => simp [part, hn, optMember] at hv
    | some n =>
      simp only [part, hn, optMember] at hv
      cases hv
      simp [withPart, hn, Json.sortDeep, Json.optional?, Json.u64?_int (hs.start n hn)]
  case size =>
    cases hn : s.size with
    | none => simp [part, hn, optMember] at hv
    | some n =>
      simp only [part, hn, optMember] at hv
      cases hv
      simp [withPart, hn, Json.sortDeep, Json.optional?, Json.u64?_int (hs.size n hn)]
  case terminateAfter =>
    cases hn : s.terminateAfter with
    | none => simp [part, hn, optMember] at hv
    | some n =>
      simp only [part, hn, optMember] at hv
      cases hv
      simp [withPart, hn, Json.sortDeep, Json.optional?,
        Json.u64?_int (hs.terminateAfter n hn)]
  case source =>
    obtain ⟨f, hf, rfl⟩ := optMember_eq_cons hv
    simp [withPart, hf, Json.optional?_of_ne_null f.toJson_ne_null,
      f.toJson_canonical.sortDeep_eq, SourceFilter.decode_toJson, Except.toOption]
  case fields =>
    cases listMember_eq_cons hv
    simp [withPart, Json.items?_sortDeep fun f _ => FieldAndFormat.ofJson?_sortDeep f]
  case docvalueFields =>
    cases listMember_eq_cons hv
    simp [withPart, Json.items?_sortDeep fun f _ => FieldAndFormat.ofJson?_sortDeep f]
  case indicesBoost =>
    cases ite_eq_cons hv
    have hread : (s.indicesBoost.map fun b => (b.1, Json.float b.2)).mapM
        (fun (kx : String × Json) => (Json.f64? kx.2).map fun f => (kx.1, f)) = some s.indicesBoost :=
      mapM_map_eq_some fun _ _ => rfl
    simp only [withPart]
    rw [Json.members?_sortDeep_mkObj]
    · simp [hread]
    · exact List.pairwise_map.mpr hs.indicesBoost
    · intro m hm
      obtain ⟨⟨k, x⟩, -, rfl⟩ := List.mem_map.mp hm
      exact .float x
  case minScore =>
    obtain ⟨f, hf, rfl⟩ := optMember_eq_cons hv
    simp [withPart, hf, Json.sortDeep, Json.optional?, Json.f64?]
  case pit =>
    obtain ⟨x, hx, rfl⟩ := optMember_eq_cons hv
    simp [withPart, hx, Json.optional?_of_ne_null (Json.sortDeep_ne_null x.toJson_ne_null),
      PointInTime.ofJson?_sortDeep]
  case stats =>
    cases listMember_eq_cons hv
    have hstr : ∀ x ∈ s.stats, Json.str? (Json.sortDeep (.str x)) = some x := fun _ _ => rfl
    simp [withPart, Json.items?_sortDeep hstr]
  case timeout =>
    obtain ⟨x, hx, rfl⟩ := optMember_eq_cons hv
    simp [withPart, hx, Json.sortDeep, Json.optional?, Json.str?]
  case version =>
    obtain ⟨x, hx, rfl⟩ := optMember_eq_cons hv
    simp [withPart, hx, Json.sortDeep, Json.optional?, Json.bool?]
  case explain =>
    obtain ⟨x, hx, rfl⟩ := optMember_eq_cons hv
    simp [withPart, hx, Json.sortDeep, Json.optional?, Json.bool?]
  case seqNoPrimaryTerm =>
    obtain ⟨x, hx, rfl⟩ := optMember_eq_cons hv
    simp [withPart, hx, Json.sortDeep, Json.optional?, Json.bool?]
  case runtimeMappings =>
    cases ite_eq_cons hv
    simp [withPart, hs.runtimeMappings.sortDeep_eq, Json.members?]
  case aggs =>
    cases ite_eq_cons hv
    simp [withPart, hs.aggs.sortDeep_eq, Json.members?]
  case sort =>
    cases listMember_eq_cons hv
    simp [withPart, Json.items?_sortDeep fun c hc => SortClause.ofJson?_sortDeep (hs.sort c hc)]
  case trackTotalHits =>
    obtain ⟨x, hx, rfl⟩ := optMember_eq_cons hv
    simp [withPart, hx, Json.optional?_of_ne_null x.toJson_ne_null,
      x.toJson_canonical.sortDeep_eq, TrackTotalHits.ofJson?_toJson fun n hn => hs.trackTotalHits n (hn ▸ hx)]

theorem readPart {p : Part} (hp : p ≠ .query) {s : Search} (hs : s.Readable) {t : Search}
    (ht : t.part p = []) :
    (Json.sortMembers (s.part p)).foldlM (fun t m => t.readMember m.1 m.2) t =
      some (t.withPart p s) := by
  rcases part_shape s p with hv | ⟨v, hv⟩
  · rw [hv, withPart_eq_self hp hv ht]
    rfl
  · rw [hv, Json.sortMembers_eq_map, List.map_singleton, List.foldlM_cons, readMember_part hp hs hv t]
    rfl

/-- Reading parts' members part after part takes the parts in turn, as long as none is the
query and none was set before. -/
theorem readParts {s : Search} (hs : s.Readable) (ps : List Part) (hnd : ps.Nodup) (t : Search)
    (hps : ∀ p ∈ ps, p ≠ .query ∧ t.part p = []) :
    ps.foldlM (fun t p => (Json.sortMembers (s.part p)).foldlM (fun t m => t.readMember m.1 m.2) t) t =
      some (ps.foldl (fun t p => t.withPart p s) t) := by
  induction ps generalizing t with
  | nil => rfl
  | cons p rest ih =>
    obtain ⟨hp, ht⟩ := hps p List.mem_cons_self
    obtain ⟨hnotin, hnd⟩ := List.nodup_cons.mp hnd
    rw [List.foldlM_cons, readPart hp hs ht, List.foldl_cons]
    -- taking this part leaves the later ones unset
    refine ih hnd _ fun q hq => ⟨(hps q (List.mem_cons_of_mem p hq)).1, ?_⟩
    have hne : p ≠ q := fun h => hnotin (h ▸ hq)
    rw [part_withPart_of_ne hne]
    exact (hps q (List.mem_cons_of_mem p hq)).2

theorem foldl_read_withPart (s : Search) :
    Part.read.foldl (fun t p => t.withPart p s) ({} : Search) = { s with query := none } := by
  cases s
  rfl

theorem part_empty (p : Part) : ({} : Search).part p = [] := by
  cases p <;> rfl

theorem ofMembers?_filter_keyedMembers {s : Search} (hs : s.Readable) :
    ofMembers? (s.keyedMembers.filter fun (k, _) => k ≠ "query") = some { s with query := none } := by
  have hagg : ∀ p : Part, p.key ≠ "aggregations" := by
    intro p
    cases p <;> decide
  have hnd : Part.read.Nodup := by decide
  rw [filter_keyedMembers s fun _ => rfl, ofMembers?, get?_flatMap_eq_none s Part.read hagg]
  simp only [Option.isSome_none, Bool.and_false, Bool.false_eq_true, if_false]
  refine (foldlM_flatMap (fun t k v => t.readMember k v) _ Part.read {}).trans ?_
  rw [readParts hs Part.read hnd {} fun p hp => ⟨fun h => by subst h; exact absurd hp (by decide), part_empty p⟩,
    foldl_read_withPart]

/-- A readable body reads back from its JSON value, with an empty query left out. -/
theorem decode_toJson {s : Search} (hs : s.Readable) :
    decode s.toJson = .ok { s with query := s.query.filter fun q => !q.isEmpty } := by
  have hsource : s.keyedMembers.get? "_source" = s.source.map SourceFilter.toJson := by
    have h := get?_keyedMembers s .source
    simp only [Part.key] at h
    rw [h]
    cases hf : s.source <;> simp [part, hf, optMember, (SourceFilter.toJson_canonical _).sortDeep_eq]
  have hquery : s.keyedMembers.get? "query" = (s.query.filter fun q => !q.isEmpty).map Query.toJson := by
    have h := get?_keyedMembers s .query
    simp only [Part.key] at h
    rw [h]
    cases hq : s.query.filter fun q => !q.isEmpty with
    | none => simp [part, hq, optMember]
    | some q =>
      have hc := (hs.query q (Option.filter_eq_some_iff.mp hq).1).2
      simp [part, hq, optMember, hc.sortDeep_eq]
  rw [toJson_eq, decode]
  simp only [hsource, hquery, ofMembers?_filter_keyedMembers hs]
  cases hq : s.query.filter fun q => !q.isEmpty with
  | none => cases s.source <;> simp [SourceFilter.decode_toJson, discard, Functor.mapConst]
  | some q =>
    obtain ⟨hsq, hne⟩ := Option.filter_eq_some_iff.mp hq
    have hnull : q.toJson ≠ .null := by
      rw [ne_eq, Query.toJson_eq_null_iff]
      simpa using hne
    have hread := Query.decode_toJson (hs.query q hsq).1
    -- the query's value is no null, so it is read by the query's reader
    rw [Option.map_some]
    generalize q.toJson = j at hnull hread ⊢
    cases j
    case null => exact absurd rfl hnull
    all_goals cases s.source <;> simp [SourceFilter.decode_toJson, discard, Functor.mapConst, hread]

end Search

end SearchDsl
