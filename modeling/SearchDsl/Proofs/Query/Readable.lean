import SearchDsl.Query.Decode
import SearchDsl.Proofs.Query.Functions
import Mathlib.Data.List.Perm.Basic
/-!
What reading a query guarantees, and reading back from written JSON.

A query read from JSON holds clauses with content, at most one of a kind, in kind order, and each
clause reads back from its body. Writing such a query lists its clauses by tag instead, and
reading it back stores them again by kind: the order of the members does not matter, as storing
clauses of distinct kinds builds the one list sorted by kind that holds them. Clause lists are
written as arrays of envelopes and read back item by item.
-/
set_option autoImplicit false

namespace SearchDsl

theorem QueryKind.tag_inj {a b : QueryKind} (h : a.tag = b.tag) : a = b := by
  have := QueryKind.ofTag?_tag a
  rw [h, QueryKind.ofTag?_tag] at this
  exact (Option.some.inj this).symm

theorem QueryKind.index_inj {a b : QueryKind} (h : a.index = b.index) : a = b := by
  cases a <;> cases b <;> simp_all [QueryKind.index]

namespace Clause

/-- A clause that reads back from its envelope: it has content and its body reads back as
itself. -/
def Rereads (c : Clause) : Prop := c.isEmpty = false ∧ decodeBody c.kind c.body = .ok c

abbrev Sorted (cs : List Clause) : Prop := cs.Pairwise fun a b => a.kind.index < b.kind.index

theorem eq_of_decodeBody {k : QueryKind} {body : Json} {c d : Clause}
    (hc : decodeBody k body = .ok c) (hd : decodeBody k body = .ok d) : c = d := by
  rw [hc] at hd
  exact Except.ok.inj hd

theorem Sorted.eq_of_kind_eq {cs : List Clause} (hs : Sorted cs) {c d : Clause} (hc : c ∈ cs)
    (hd : d ∈ cs) (hk : c.kind = d.kind) : c = d := by
  induction cs with
  | nil => cases hc
  | cons a rest ih =>
    have hrest : ∀ y ∈ rest, a.kind.index < y.kind.index := fun y hy =>
      List.rel_of_pairwise_cons hs hy
    rcases List.mem_cons.mp hc with rfl | hc' <;> rcases List.mem_cons.mp hd with rfl | hd'
    · rfl
    · exact absurd (hk ▸ hrest d hd') (lt_irrefl _)
    · exact absurd (hk ▸ hrest c hc') (lt_irrefl _)
    · exact ih hs.of_cons hc' hd'

theorem Sorted.eq_of_mem_iff {cs ds : List Clause} (hc : Sorted cs) (hd : Sorted ds)
    (h : ∀ c, c ∈ cs ↔ c ∈ ds) : cs = ds := by
  have hnodup : ∀ l : List Clause, Sorted l → l.Nodup := fun l hl =>
    hl.imp fun hab heq => by rw [heq] at hab; exact lt_irrefl _ hab
  refine List.Perm.eq_of_pairwise (fun a b _ _ hab hba => absurd (lt_trans hab hba) (lt_irrefl _))
    hc hd ?_
  exact (List.perm_ext_iff_of_nodup (hnodup _ hc) (hnodup _ hd)).mpr h

end Clause

namespace Query

theorem mem_insertClause {c x : Clause} {cs : List Clause} (hs : Clause.Sorted cs) :
    x ∈ insertClause c cs ↔ x = c ∨ (x ∈ cs ∧ x.kind ≠ c.kind) := by
  induction cs with
  | nil => simp [insertClause]
  | cons d rest ih =>
    have hrest : ∀ y ∈ rest, d.kind.index < y.kind.index := fun y hy =>
      List.rel_of_pairwise_cons hs hy
    simp only [insertClause]
    split_ifs with hdc hlt
    · -- the clause of its kind is replaced; the others come after it
      rw [List.mem_cons]
      constructor
      · rintro (rfl | hx)
        · exact .inl rfl
        · exact .inr ⟨List.mem_cons_of_mem d hx, fun hk => by
            have := hrest x hx
            rw [hk, ← hdc] at this
            exact lt_irrefl _ this⟩
      · rintro (rfl | ⟨hx, hk⟩)
        · exact .inl rfl
        · rcases List.mem_cons.mp hx with rfl | hx
          · exact absurd hdc hk
          · exact .inr hx
    · -- the clause comes first; every clause stored has a later kind
      have hne : ∀ y ∈ d :: rest, y.kind ≠ c.kind := by
        intro y hy hk
        cases List.mem_cons.mp hy with
        | inl hyd =>
          rw [← hyd, hk] at hlt
          exact lt_irrefl _ hlt
        | inr hy =>
          have := hrest y hy
          rw [hk] at this
          exact lt_irrefl _ (lt_trans hlt this)
      rw [List.mem_cons]
      constructor
      · rintro (rfl | hx)
        · exact .inl rfl
        · exact .inr ⟨hx, hne x hx⟩
      · rintro (rfl | ⟨hx, -⟩)
        · exact .inl rfl
        · exact .inr hx
    · rw [List.mem_cons, ih hs.of_cons]
      constructor
      · rintro (rfl | rfl | ⟨hx, hk⟩)
        · exact .inr ⟨List.mem_cons_self, hdc⟩
        · exact .inl rfl
        · exact .inr ⟨List.mem_cons_of_mem d hx, hk⟩
      · rintro (rfl | ⟨hx, hk⟩)
        · exact .inr (.inl rfl)
        · rcases List.mem_cons.mp hx with rfl | hx
          · exact .inl rfl
          · exact .inr (.inr ⟨hx, hk⟩)

theorem sorted_insertClause (c : Clause) {cs : List Clause} (hs : Clause.Sorted cs) :
    Clause.Sorted (insertClause c cs) := by
  induction cs with
  | nil => exact List.pairwise_singleton _ c
  | cons d rest ih =>
    have hrest : ∀ y ∈ rest, d.kind.index < y.kind.index := fun y hy =>
      List.rel_of_pairwise_cons hs hy
    simp only [insertClause]
    split_ifs with hdc hlt
    · exact List.Pairwise.cons (fun y hy => hdc ▸ hrest y hy) hs.of_cons
    · exact List.Pairwise.cons (fun y hy => by
        rcases List.mem_cons.mp hy with rfl | hy
        · exact hlt
        · exact lt_trans hlt (hrest y hy)) hs
    · -- the clause goes after the head, whose kind comes first
      have hdc' : d.kind.index < c.kind.index := by
        rcases Nat.lt_or_gt_of_ne (fun h => hdc (QueryKind.index_inj h)) with h | h
        · exact h
        · exact absurd h hlt
      refine List.Pairwise.cons (fun y hy => ?_) (ih hs.of_cons)
      rcases (mem_insertClause hs.of_cons).mp hy with rfl | ⟨hy, -⟩
      · exact hdc'
      · exact hrest y hy

/-- A query as reading leaves it. -/
structure Readable (q : Query) : Prop where
  sorted : Clause.Sorted q.clauses
  rereads : ∀ c ∈ q.clauses, c.Rereads

theorem readable_empty : empty.Readable := ⟨List.Pairwise.nil, fun _ h => nomatch h⟩

theorem Readable.set {q : Query} {c : Clause} (hq : q.Readable)
    (hc : c.isEmpty = false → c.Rereads) : (q.set c).1.Readable := by
  unfold Query.set
  split
  · exact ⟨hq.sorted.filter _, fun d hd => hq.rereads d (List.mem_filter.mp hd).1⟩
  · rename_i hne
    refine ⟨sorted_insertClause c hq.sorted, fun d hd => ?_⟩
    rcases (mem_insertClause hq.sorted).mp hd with rfl | ⟨hd, -⟩
    · exact hc (by simpa using hne)
    · exact hq.rereads d hd

theorem entries_of_rereads {cs : List Clause} (h : ∀ c ∈ cs, c.Rereads) :
    Clause.entries cs = cs.map fun c => (c.kind.tag, c.body) := by
  induction cs with
  | nil => simp [Clause.entries]
  | cons c rest ih =>
    have hc : c.isEmpty = false := (h c List.mem_cons_self).1
    simp only [Clause.entries, hc, Bool.false_eq_true, if_false, List.map_cons,
      ih fun d hd => h d (List.mem_cons_of_mem c hd)]

theorem decodeMembers_written (whole : Json) : ∀ (ms : Json.Members) (acc : Query),
    Clause.Sorted acc.clauses → (∀ m ∈ ms, ∃ c : Clause, c.Rereads ∧ m = (c.kind.tag, c.body)) →
    ms.Pairwise (fun a b => a.1 < b.1) → (∀ m ∈ ms, ∀ d ∈ acc.clauses, m.1 ≠ d.kind.tag) →
    ∃ cs, decodeMembers whole ms acc = .ok (mk cs) ∧ Clause.Sorted cs ∧
      ∀ x, x ∈ cs ↔ x ∈ acc.clauses ∨ (x.Rereads ∧ (x.kind.tag, x.body) ∈ ms)
  | [], acc, hacc, _, _, _ => ⟨acc.clauses, by cases acc; rw [decodeMembers]; rfl, hacc, by simp⟩
  | m :: rest, acc, hacc, hms, hsorted, hfresh => by
    obtain ⟨c, hc, rfl⟩ := hms m List.mem_cons_self
    have hset : (acc.set c).1 = mk (insertClause c acc.clauses) := by simp [Query.set, hc.1]
    -- the later members have later keys, so none has the clause's tag
    obtain ⟨cs, hread, hcs, hmem⟩ := decodeMembers_written whole rest
      (mk (insertClause c acc.clauses)) (sorted_insertClause c hacc)
      (fun m hm => hms m (List.mem_cons_of_mem _ hm)) hsorted.of_cons (by
        intro m hm d hd
        rcases (mem_insertClause hacc).mp hd with rfl | ⟨hd, -⟩
        · exact ne_of_gt (List.rel_of_pairwise_cons hsorted hm)
        · exact hfresh m (List.mem_cons_of_mem _ hm) d hd)
    refine ⟨cs, ?_, hcs, fun x => ?_⟩
    · rw [decodeMembers]
      simp [QueryKind.parse_tag, hc.2, hset, hread]
    · rw [hmem x]
      change (x ∈ insertClause c acc.clauses ∨ _) ↔ _
      rw [mem_insertClause hacc]
      constructor
      · rintro ((rfl | ⟨hx, -⟩) | ⟨hx, hm⟩)
        · exact .inr ⟨hc, List.mem_cons_self⟩
        · exact .inl hx
        · exact .inr ⟨hx, List.mem_cons_of_mem _ hm⟩
      · rintro (hx | ⟨hx, hm⟩)
        · exact .inl (.inr ⟨hx, fun hk => hfresh _ List.mem_cons_self x hx (by simp [hk])⟩)
        · rcases List.mem_cons.mp hm with heq | hm
          · -- the same envelope: the same kind and body, so the same clause
            obtain ⟨htag, hbody⟩ := Prod.mk.inj heq
            have hk := QueryKind.tag_inj htag
            have hx2 := hx.2
            rw [hk, hbody] at hx2
            exact .inl (.inl (Clause.eq_of_decodeBody hx2 hc.2))
          · exact .inr ⟨hx, hm⟩

/-- A readable query reads back from its JSON. -/
theorem decode_toJson {q : Query} (hq : q.Readable) : decode q.toJson = .ok q := by
  obtain ⟨cs⟩ := q
  have hrereads : ∀ c ∈ cs, c.Rereads := hq.rereads
  have hsorted : Clause.Sorted cs := hq.sorted
  cases cs with
  | nil => simp [toJson, Clause.entries, decode, empty]
  | cons c0 rest =>
    set cs := c0 :: rest with hcs
    set es := cs.map fun c => (c.kind.tag, c.body) with hes
    have htoJson : toJson (mk cs) = Json.mkObj es := by
      rw [toJson, entries_of_rereads hrereads]
      rfl
    obtain ⟨ds, hread, hds, hmem⟩ := decodeMembers_written (.obj (Json.Members.ofList es))
      (Json.Members.ofList es)
      empty (List.Pairwise.nil)
      (fun m hm => by
        obtain ⟨c, hc, rfl⟩ := List.mem_map.mp (Json.Members.mem_ofList hm)
        exact ⟨c, hrereads c hc, rfl⟩)
      (Json.Members.sorted_ofList es) (fun _ _ d hd => by cases hd)
    have hsame : ds = cs := by
      refine Clause.Sorted.eq_of_mem_iff hds hsorted fun x => ?_
      rw [hmem x]
      constructor
      · rintro (hx | ⟨hx, hm⟩)
        · cases hx
        · obtain ⟨c, hc, heq⟩ := List.mem_map.mp (Json.Members.mem_ofList hm)
          obtain ⟨htag, hbody⟩ := Prod.mk.inj heq
          have hc2 := (hrereads c hc).2
          rw [QueryKind.tag_inj htag, hbody] at hc2
          rw [Clause.eq_of_decodeBody hx.2 hc2]
          exact hc
      · intro hx
        refine .inr ⟨hrereads x hx, Json.Members.get?_eq_some_mem
          (Json.Members.get?_ofList_of_mem (List.mem_map_of_mem hx) fun m hm hk => ?_)⟩
        obtain ⟨d, hd, rfl⟩ := List.mem_map.mp hm
        rw [hsorted.eq_of_kind_eq hd hx (QueryKind.tag_inj hk)]
    rw [htoJson, Json.mkObj, decode, hread, hsame]

theorem decodeSlot_of_get? {ms : Json.Members} {role : String} {o : Option Query}
    (hget : ms.get? role = o.map toJson) (ho : ∀ q, o = some q → q.Readable ∧ q.isEmpty = false) :
    decodeSlot ms role = .ok o := by
  rw [decodeSlot]
  split
  · rename_i hnone
    rw [hget] at hnone
    cases o with
    | none => rfl
    | some q => cases hnone
  · rename_i v hv
    rw [hget] at hv
    cases o with
    | none => cases hv
    | some q =>
      rw [Option.map_some, Option.some.injEq] at hv
      subst hv
      obtain ⟨hq, hne⟩ := ho q rfl
      simp only [decode_toJson hq, hne]
      rfl

end Query

namespace Clause

theorem pushItem_envelope {c : Clause} (hc : c.Rereads) (acc : List Clause) :
    pushItem c.envelope acc = .ok (acc ++ [c]) := by
  simp [envelope, hc.1, pushItem, pushMembers, QueryKind.ofTag?_tag, hc.2, pushTo]

theorem decodeItems_envelopes {cs : List Clause} (h : ∀ c ∈ cs, c.Rereads) (role : String) :
    ∀ (i : Nat) (acc : List Clause), decodeItems (envelopes cs) role i acc = .ok (acc ++ cs) := by
  induction cs with
  | nil =>
    intro i acc
    simp [envelopes, decodeItems]
  | cons c rest ih =>
    intro i acc
    rw [envelopes, decodeItems, pushItem_envelope (h c List.mem_cons_self)]
    simp [ih (fun d hd => h d (List.mem_cons_of_mem c hd)) (i + 1) (acc ++ [c])]

theorem decodeList_envelopes {cs : List Clause} (h : ∀ c ∈ cs, c.Rereads) (role : String) :
    decodeList (.arr (envelopes cs)) role = .ok cs := by
  rw [decodeList, decodeItems_envelopes h role 0 []]
  rfl

theorem decodeRole_of_get? {ms : Json.Members} {role : String} {cs : List Clause}
    (h : ∀ c ∈ cs, c.Rereads)
    (hget : ms.get? role = (Json.Members.ofList (roleMember role cs)).get? role) :
    decodeRole ms role = .ok cs := by
  rw [decodeRole]
  split
  · rename_i hnone
    rw [hget] at hnone
    cases cs with
    | nil => rfl
    | cons c rest => simp [roleMember] at hnone
  · rename_i v hv
    rw [hget] at hv
    cases cs with
    | nil => simp [roleMember] at hv
    | cons c rest =>
      simp only [roleMember, List.isEmpty_cons, Bool.false_eq_true, if_false,
        Json.Members.get?_ofList_singleton, if_true, Option.some.injEq] at hv
      subst hv
      exact decodeList_envelopes h role

end Clause

namespace ScoreFunction

/-- A function that reads back from its JSON. -/
def Rereads (f : ScoreFunction) : Prop := decode f.toJson = .ok f

theorem decodeItems_listJson {fs : List ScoreFunction} (h : ∀ f ∈ fs, f.Rereads) :
    ∀ i, decodeItems (listJson fs) i = .ok fs := by
  induction fs with
  | nil =>
    intro i
    simp [listJson, decodeItems]
  | cons f rest ih =>
    intro i
    rw [listJson, decodeItems, h f List.mem_cons_self]
    simp [ih (fun g hg => h g (List.mem_cons_of_mem f hg)) (i + 1)]

theorem decodeSlotList_of_get? {ms : Json.Members} {fs : List ScoreFunction}
    (h : ∀ f ∈ fs, f.Rereads)
    (hget : ms.get? "functions" = if fs.isEmpty then none else some (.arr (listJson fs))) :
    decodeSlotList ms = .ok fs := by
  rw [decodeSlotList]
  split
  · rename_i hnone
    rw [hget] at hnone
    cases fs with
    | nil => rfl
    | cons f rest => simp at hnone
  · rename_i hnull
    rw [hget] at hnull
    cases fs with
    | nil => rfl
    | cons f rest => simp at hnull
  · rename_i items hitems
    rw [hget] at hitems
    cases fs with
    | nil => simp at hitems
    | cons f rest =>
      simp only [List.isEmpty_cons, Bool.false_eq_true, if_false, Option.some.injEq,
        Json.arr.injEq] at hitems
      subst hitems
      exact decodeItems_listJson h 0
  · rename_i x _ harr hx
    rw [hget] at hx
    cases fs with
    | nil => simp at hx
    | cons f rest =>
      simp only [List.isEmpty_cons, Bool.false_eq_true, if_false, Option.some.injEq] at hx
      exact absurd hx.symm (harr _)

end ScoreFunction

end SearchDsl
