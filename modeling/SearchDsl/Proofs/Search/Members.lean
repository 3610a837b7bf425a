import SearchDsl.Proofs.Json.Canonical
import SearchDsl.Proofs.Except
/-!
The members of a search body, part by part.

A body writes one member for each part that is set, under the part's own key, in the order of
its parts; its JSON value sorts them by key. Here the parts are named, each with its key and the
members it writes, so that the JSON value of a body is the parts' members in key order: what a
reader finds under a part's key is what that part wrote, and reading the members in that order
is reading one part after the other.
-/
set_option autoImplicit false

namespace SearchDsl.Search

/-- A part of a search body, named by its field. -/
inductive Part where
  | query | start | size | source | fields | docvalueFields | indicesBoost | minScore | pit
  | stats | terminateAfter | timeout | version | explain | seqNoPrimaryTerm | runtimeMappings
  | aggs | sort | trackTotalHits
  deriving DecidableEq, Repr

namespace Part

def key : Part → String
  | query => "query" | start => "from" | size => "size" | source => "_source" | fields => "fields"
  | docvalueFields => "docvalue_fields" | indicesBoost => "indices_boost" | minScore => "min_score"
  | pit => "pit" | stats => "stats" | terminateAfter => "terminate_after" | timeout => "timeout"
  | version => "version" | explain => "explain" | seqNoPrimaryTerm => "seq_no_primary_term"
  | runtimeMappings => "runtime_mappings" | aggs => "aggs" | sort => "sort"
  | trackTotalHits => "track_total_hits"

def all : List Part :=
  [query, start, size, source, fields, docvalueFields, indicesBoost, minScore, pit, stats,
    terminateAfter, timeout, version, explain, seqNoPrimaryTerm, runtimeMappings, aggs, sort,
    trackTotalHits]

def byKey : List Part :=
  [source, aggs, docvalueFields, explain, fields, start, indicesBoost, minScore, pit, query,
    runtimeMappings, seqNoPrimaryTerm, size, sort, stats, terminateAfter, timeout, trackTotalHits,
    version]

/-- The parts a body's reader reads by their shapes alone: all but the query, in key order. -/
def read : List Part :=
  [source, aggs, docvalueFields, explain, fields, start, indicesBoost, minScore, pit,
    runtimeMappings, seqNoPrimaryTerm, size, sort, stats, terminateAfter, timeout, trackTotalHits,
    version]

theorem byKey_perm : byKey.Perm all := by decide

theorem byKey_sorted : byKey.Pairwise fun a b => a.key < b.key := by decide

theorem mem_byKey (p : Part) : p ∈ byKey := by
  cases p <;> decide

theorem key_injective : Function.Injective key := fun a b h =>
  List.inj_on_of_nodup_map (List.pairwise_map.mpr (byKey_sorted.imp ne_of_lt)) (mem_byKey a)
    (mem_byKey b) h

end Part

def optMember {α : Type} (key : String) (enc : α → Json) : Option α → List (String × Json)
  | some a => [(key, enc a)]
  | none => []

def listMember {α : Type} (key : String) (enc : α → Json) : List α → List (String × Json)
  | [] => []
  | xs => [(key, .arr (xs.map enc))]

/-- The members a body writes for one part. -/
def part (s : Search) : Part → List (String × Json)
  | .query => optMember "query" Query.toJson (s.query.filter fun q => !q.isEmpty)
  | .start => optMember "from" (fun n => .int n) s.start
  | .size => optMember "size" (fun n => .int n) s.size
  | .source => optMember "_source" SourceFilter.toJson s.source
  | .fields => listMember "fields" FieldAndFormat.toJson s.fields
  | .docvalueFields => listMember "docvalue_fields" FieldAndFormat.toJson s.docvalueFields
  | .indicesBoost => if s.indicesBoost.isEmpty then []
      else [("indices_boost", Json.mkObj (s.indicesBoost.map fun (k, f) => (k, .float f)))]
  | .minScore => optMember "min_score" .float s.minScore
  | .pit => optMember "pit" PointInTime.toJson s.pit
  | .stats => listMember "stats" Json.str s.stats
  | .terminateAfter => optMember "terminate_after" (fun n => .int n) s.terminateAfter
  | .timeout => optMember "timeout" .str s.timeout
  | .version => optMember "version" .bool s.version
  | .explain => optMember "explain" .bool s.explain
  | .seqNoPrimaryTerm => optMember "seq_no_primary_term" .bool s.seqNoPrimaryTerm
  | .runtimeMappings =>
    if s.runtimeMappings.isEmpty then [] else [("runtime_mappings", .obj s.runtimeMappings)]
  | .aggs => if s.aggs.isEmpty then [] else [("aggs", .obj s.aggs)]
  | .sort => listMember "sort" SortClause.toJson s.sort
  | .trackTotalHits => optMember "track_total_hits" TrackTotalHits.toJson s.trackTotalHits

theorem members_eq (s : Search) : s.members = Part.all.flatMap s.part := by
  simp only [Part.all, List.flatMap_cons, List.flatMap_nil, List.append_nil]
  unfold members
  simp only [List.append_assoc]
  rfl

theorem optMember_shape {α : Type} (key : String) (enc : α → Json) (o : Option α) :
    optMember key enc o = [] ∨ ∃ v, optMember key enc o = [(key, v)] := by
  cases o with
  | none => exact .inl rfl
  | some a => exact .inr ⟨enc a, rfl⟩

theorem listMember_shape {α : Type} (key : String) (enc : α → Json) (xs : List α) :
    listMember key enc xs = [] ∨ ∃ v, listMember key enc xs = [(key, v)] := by
  cases xs with
  | nil => exact .inl rfl
  | cons x rest => exact .inr ⟨_, rfl⟩

theorem ite_shape {c : Prop} [Decidable c] (key : String) (v : Json) :
    (if c then [] else [(key, v)]) = [] ∨ ∃ w, (if c then [] else [(key, v)]) = [(key, w)] := by
  by_cases h : c
  · exact .inl (if_pos h)
  · exact .inr ⟨v, if_neg h⟩

@[simp] theorem optMember_eq_nil {α : Type} {key : String} {enc : α → Json} {o : Option α} :
    optMember key enc o = [] ↔ o = none := by
  cases o <;> simp [optMember]

@[simp] theorem listMember_eq_nil {α : Type} {key : String} {enc : α → Json} {xs : List α} :
    listMember key enc xs = [] ↔ xs = [] := by
  cases xs <;> simp [listMember]

theorem optMember_eq_cons {α : Type} {key k : String} {enc : α → Json} {o : Option α} {v : Json}
    (h : optMember key enc o = [(k, v)]) : ∃ a, o = some a ∧ v = enc a := by
  cases o with
  | none => cases h
  | some a =>
    simp only [optMember, List.cons.injEq, Prod.mk.injEq, and_true] at h
    exact ⟨a, rfl, h.2.symm⟩

theorem listMember_eq_cons {α : Type} {key k : String} {enc : α → Json} {xs : List α} {v : Json}
    (h : listMember key enc xs = [(k, v)]) : v = .arr (xs.map enc) := by
  cases xs with
  | nil => cases h
  | cons x rest =>
    simp only [listMember, List.cons.injEq, Prod.mk.injEq, and_true] at h
    exact h.2.symm

theorem ite_eq_cons {c : Prop} [Decidable c] {key k : String} {w v : Json}
    (h : (if c then [] else [(key, w)]) = [(k, v)]) : v = w := by
  by_cases hc : c
  · rw [if_pos hc] at h
    cases h
  · rw [if_neg hc, List.cons.injEq, Prod.mk.injEq] at h
    exact h.1.2.symm

theorem part_shape (s : Search) (p : Part) : s.part p = [] ∨ ∃ v, s.part p = [(p.key, v)] := by
  cases p
  case query | start | size | source | minScore | pit | terminateAfter | timeout | version |
      explain | seqNoPrimaryTerm | trackTotalHits => exact optMember_shape _ _ _
  case fields | docvalueFields | stats | sort => exact listMember_shape _ _ _
  case indicesBoost | runtimeMappings | aggs => exact ite_shape _ _

theorem key_of_mem_part {s : Search} {p : Part} {m : String × Json}
    (h : m ∈ Json.sortMembers (s.part p)) : m.1 = p.key := by
  rw [Json.sortMembers_eq_map] at h
  obtain ⟨m', hm', rfl⟩ := List.mem_map.mp h
  rcases part_shape s p with hp | ⟨v, hp⟩
  · rw [hp] at hm'
    cases hm'
  · rw [hp, List.mem_singleton] at hm'
    rw [hm']

/-- The members of a body's JSON value: its parts' members in key order, sorted deeply. -/
def keyedMembers (s : Search) : Json.Members :=
  Part.byKey.flatMap fun p => Json.sortMembers (s.part p)

theorem keyedMembers_sorted (s : Search) :
    s.keyedMembers.Pairwise fun a b => a.1 < b.1 := by
  refine List.pairwise_flatMap.mpr ⟨fun p _ => ?_, Part.byKey_sorted.imp fun hlt x hx y hy => ?_⟩
  · -- a part writes at most one member
    rcases part_shape s p with hp | ⟨v, hp⟩
    · rw [hp]
      exact List.Pairwise.nil
    · rw [hp]
      exact List.pairwise_singleton _ _
  · rw [key_of_mem_part hx, key_of_mem_part hy]
    exact hlt

/-- The JSON value of a body is its parts' members in key order. -/
theorem toJson_eq (s : Search) : s.toJson = .obj s.keyedMembers := by
  rw [toJson, members_eq, Json.sortDeep, Json.mkObj, Json.sortMembers_eq_map, List.map_flatMap]
  simp only [← Json.sortMembers_eq_map]
  exact congrArg Json.obj (Json.Members.ofList_eq_of_perm
    (List.Perm.flatMap_right _ Part.byKey_perm.symm) (keyedMembers_sorted s))

theorem get?_keyedMembers (s : Search) (p : Part) :
    s.keyedMembers.get? p.key = (s.part p).head?.map fun m => Json.sortDeep m.2 := by
  rcases part_shape s p with hp | ⟨v, hp⟩
  · rw [hp]
    -- a member under the key would be a member of this part
    cases hget : s.keyedMembers.get? p.key with
    | none => rfl
    | some w =>
      obtain ⟨q, -, hq⟩ := List.mem_flatMap.mp (Json.Members.get?_eq_some_mem hget)
      have hkey : q = p := Part.key_injective (key_of_mem_part hq).symm
      rw [hkey, hp] at hq
      cases hq
  · rw [hp]
    have hmem : (p.key, Json.sortDeep v) ∈ s.keyedMembers :=
      List.mem_flatMap.mpr ⟨p, Part.mem_byKey p, by simp [hp, Json.sortMembers_eq_map]⟩
    exact Json.Members.get?_of_mem_sorted (keyedMembers_sorted s) hmem

theorem get?_flatMap_eq_none (s : Search) (ps : List Part) {k : String}
    (hk : ∀ p : Part, p.key ≠ k) :
    Json.Members.get? (ps.flatMap fun p => Json.sortMembers (s.part p)) k = none := by
  cases hget : Json.Members.get? (ps.flatMap fun p => Json.sortMembers (s.part p)) k with
  | none => rfl
  | some w =>
    obtain ⟨q, -, hq⟩ := List.mem_flatMap.mp (Json.Members.get?_eq_some_mem hget)
    exact absurd (key_of_mem_part hq).symm (hk q)

theorem filter_keyedMembers (s : Search) {P : String × Json → Bool}
    (hP : ∀ m : String × Json, P m = decide (m.1 ≠ "query")) :
    s.keyedMembers.filter P = Part.read.flatMap fun p => Json.sortMembers (s.part p) := by
  have hpart : ∀ p, (Json.sortMembers (s.part p)).filter P =
      if p = .query then [] else Json.sortMembers (s.part p) := by
    intro p
    by_cases hp : p = .query
    · subst hp
      rw [if_pos rfl]
      refine List.filter_eq_nil_iff.mpr fun m hm => ?_
      rw [hP, key_of_mem_part hm]
      simp [Part.key]
    · rw [if_neg hp]
      refine List.filter_eq_self.mpr fun m hm => ?_
      rw [hP, key_of_mem_part hm]
      have hne : p.key ≠ "query" := fun h => hp (Part.key_injective h)
      exact decide_eq_true hne
  rw [keyedMembers, List.filter_flatMap]
  simp only [hpart, Part.byKey, Part.read, List.flatMap_cons, List.flatMap_nil, reduceCtorEq,
    if_false, if_true, List.nil_append]

theorem foldlM_flatMap {β : Type} (step : Search → String → Json → Option Search)
    (f : β → List (String × Json)) (ps : List β) (t : Search) :
    (ps.flatMap f).foldlM (fun s (m : String × Json) => step s m.1 m.2) t =
      ps.foldlM (fun t p => (f p).foldlM (fun s (m : String × Json) => step s m.1 m.2) t) t := by
  induction ps generalizing t with
  | nil => rfl
  | cons p rest ih =>
    rw [List.flatMap_cons, List.foldlM_append, List.foldlM_cons]
    simp only [ih]

end SearchDsl.Search
