import SearchDsl.Query.Intervals
import SearchDsl.Proofs.Query.Leaves
/-!
Intervals rules read back from their JSON. A rule read from JSON keeps only what it can write
again: a text it checked is not empty, a gap limit is none or at least zero and has 64 bits, the
children of a combining rule and the rule of a filter were read the same way. Writing such a
rule and reading it back gives the same rule.

The slot lemmas come first: each reader of a rule's members gives back what the writer put
there. The read-back itself follows the readers, one theorem for each, by the size of the JSON
they read.
-/
set_option autoImplicit false

namespace SearchDsl

theorem RuleKind.parse_tag (k : RuleKind) : RuleKind.parse k.tag = .ok k := by
  cases k <;> rfl

theorem IntervalFilter.member_eq_opt (f : Option IntervalFilter) :
    IntervalFilter.member f = Shape.opt "filter" (f.map IntervalFilter.toJson) := by
  cases f <;> simp [IntervalFilter.member, Shape.opt]

namespace Rule

theorem decodeBody_mkObj (k : RuleKind) (ps : List (String × Json)) :
    decodeBody k (Json.mkObj ps) = decodeMembers k (Json.Members.ofList ps) := by
  rw [Json.mkObj, decodeBody]

theorem readGaps_spec {ms : Json.Members} {g : Int}
    (h : (Shape.int? ms "max_gaps").map (fun n => gapLimit (n.getD (-1))) = .ok g) :
    gapLimit g = g ∧ Loose.fitsI64 g = true := by
  obtain ⟨n, hn, rfl⟩ := Except.map_eq_ok.mp h
  cases n with
  | none => constructor <;> decide
  | some n =>
    have hfit := Shape.int?_fits hn
    by_cases hneg : n < 0
    · have hg : gapLimit n = -1 := by simp [gapLimit, hneg]
      simp only [Option.getD_some, hg]
      constructor <;> decide
    · have hg : gapLimit n = n := by simp [gapLimit, hneg]
      simp only [Option.getD_some, hg, hfit, and_self]

theorem readGaps_of_get? {ms : Json.Members} {g : Int} {o : Bool} (hg : gapLimit g = g)
    (hfit : Loose.fitsI64 g = true)
    (h : ms.get? "max_gaps" = (Json.Members.ofList (gapMembers g o)).get? "max_gaps") :
    (Shape.int? ms "max_gaps").map (fun n => gapLimit (n.getD (-1))) = .ok g := by
  by_cases hnone : g = -1
  · subst hnone
    have hget : ms.get? "max_gaps" = none := by
      rw [h]
      cases o <;> rfl
    rw [Shape.int?, Shape.looseSlot?_of_get?_none _ hget]
    rfl
  · have hget : ms.get? "max_gaps" = some (.int g) := by
      rw [h]
      cases o <;> simp [gapMembers, hnone, Json.Members.get?_ofList_cons]
    rw [Shape.int?_of_get? hfit hget]
    simp [hg]

theorem readOrdered_of_get? {ms : Json.Members} {g : Int} {o : Bool}
    (h : ms.get? "ordered" = (Json.Members.ofList (gapMembers g o)).get? "ordered") :
    (Shape.flag? ms "ordered").map (·.getD false) = .ok o := by
  cases o with
  | false =>
    have hget : ms.get? "ordered" = none := by
      rw [h]
      by_cases hnone : g = -1 <;> simp [gapMembers, hnone]
    rw [Shape.flag?_of_get?_none hget]
    rfl
  | true =>
    have hget : ms.get? "ordered" = some (.bool true) := by
      rw [h]
      by_cases hnone : g = -1 <;> simp [gapMembers, hnone, Json.Members.get?_ofList_cons]
    rw [Shape.flag?_of_get? hget]
    rfl

theorem requiredText_eq_ok {k : RuleKind} {t s : String} (h : requiredText k t = .ok s) :
    s = t ∧ t ≠ "" := by
  unfold requiredText at h
  split at h
  · cases h
  · rename_i ht
    cases h
    exact ⟨rfl, by simpa using ht⟩

theorem requiredRules_eq_ok {k : RuleKind} {rs rs' : List Rule} (h : requiredRules k rs = .ok rs') :
    rs' = rs ∧ rs ≠ [] := by
  unfold requiredRules at h
  split at h
  · cases h
  · rename_i hrs
    cases h
    exact ⟨rfl, by simpa using hrs⟩

theorem decodeItems_listJson (k : RuleKind) {rules : List Rule}
    (h : ∀ r ∈ rules, decode r.toJson = .ok r) (i : Nat) :
    decodeItems k (listJson rules) i = .ok rules := by
  induction rules generalizing i with
  | nil => simp [listJson, decodeItems]
  | cons r rest ih =>
    rw [listJson, decodeItems, h r List.mem_cons_self,
      ih (fun x hx => h x (List.mem_cons_of_mem r hx)) (i + 1)]
    rfl

theorem decodeChildren_of_get? (k : RuleKind) {ms : Json.Members} {rules : List Rule}
    (hget : ms.get? "intervals" = some (.arr (listJson rules)))
    (h : ∀ r ∈ rules, decode r.toJson = .ok r) : decodeChildren k ms = .ok rules := by
  rw [decodeChildren]
  split
  · rename_i hnone
    rw [hget] at hnone
    cases hnone
  · rename_i hnull
    rw [hget] at hnull
    cases hnull
  · rename_i items hitems
    rw [hget, Option.some.injEq, Json.arr.injEq] at hitems
    subst hitems
    exact decodeItems_listJson k h 0
  · rename_i x _ harr hx
    rw [hget, Option.some.injEq] at hx
    exact absurd hx.symm (harr _)

end Rule

namespace IntervalFilter

theorem decodeSlot_of_get? {ms : Json.Members} {f : Option IntervalFilter}
    (hget : ms.get? "filter" = f.map toJson) (h : ∀ x, f = some x → decode x.toJson = .ok x) :
    decodeSlot ms = .ok f := by
  rw [decodeSlot]
  split
  · rename_i hnone
    rw [hget] at hnone
    cases f with
    | none => rfl
    | some x => cases hnone
  · rename_i hnull
    rw [hget] at hnull
    cases f with
    | none => cases hnull
    | some x =>
      cases x <;> simp [toJson] at hnull
  · rename_i raw _ hraw
    rw [hget] at hraw
    cases f with
    | none => cases hraw
    | some x =>
      rw [Option.map_some, Option.some.injEq] at hraw
      subst hraw
      show (decode x.toJson).map some = .ok (some x)
      rw [h x rfl]
      rfl

theorem decode_related {rel : String} {r : Rule} {f : IntervalFilter} (hrel : relate rel r = .ok f)
    (hr : Rule.decode r.toJson = .ok r) : decode f.toJson = .ok f := by
  unfold relate at hrel
  split at hrel
  · rename_i hcontains
    cases hrel
    have hmem : rel ∈ filterRelations := by simpa using hcontains
    have hkey : rel ≠ "script" := by
      rintro rfl
      simp [filterRelations] at hmem
    simp [toJson, decode, hkey, hr, relate, hmem]
  · cases hrel

theorem decode_script (s : Script) : decode (script s).toJson = .ok (script s) := by
  simp [toJson, decode, Script.decode_toJson]

end IntervalFilter

namespace Rule

theorem readPattern (slot : String) (L : List Param) {text u : String} {ps : Params}
    (hslot : Param.ofKey? slot = none) (hu : slot ≠ "use_field") (htext : text ≠ "")
    (hc : Params.Canonical L ps) :
    let ms := Json.Members.ofList ((slot, .str text) :: ps.members L ++ Shape.nonEmpty "use_field" u)
    Shape.text ms slot = .ok text ∧ Shape.text ms "use_field" = .ok u ∧
      Params.ofMembers L (some .intervals) ms = .ok ps := by
  intro ms
  have hown : ∀ k, Param.ofKey? k = none → ms.get? k =
      (Json.Members.ofList ([(slot, .str text)] ++ Shape.nonEmpty "use_field" u)).get? k :=
    fun k hk => Json.Members.get?_around_params [(slot, .str text)] _ ps L fun p _ =>
      Param.key_ne_of_ofKey? hk p
  refine ⟨Shape.text_of_get? ((hown slot hslot).trans ?_),
    Shape.text_of_get? ((hown "use_field" rfl).trans ?_),
    Params.ofMembers_around (some .intervals) [(slot, .str text)] _ hc ?_⟩
  · have hu' : "use_field" ≠ slot := Ne.symm hu
    simp [Json.Members.get?_ofList_cons, hu', htext]
  · by_cases hue : u = "" <;> simp [Json.Members.get?_ofList_cons, hue, hu]
  · intro m hm p _
    simp only [List.singleton_append, List.mem_cons] at hm
    rcases hm with rfl | hm
    · exact Param.key_ne_of_ofKey? hslot p ∘ Eq.symm
    · rw [mem_nonEmpty hm]
      exact ne_key_of_ofKey? rfl p

/-- What a rule holds that the reader checks of every rule it reads: a text is not empty, a gap
limit is none or at least zero and has 64 bits, the parameters are the canonical ones of the
kind, and the children and the rule of a filter read back themselves. -/
def Readable : Rule → Prop
  | .matchText query g _ _ f ps => query ≠ "" ∧ gapLimit g = g ∧ Loose.fitsI64 g = true ∧
      (∀ x, f = some x → IntervalFilter.decode x.toJson = .ok x) ∧
      Params.Canonical Param.analyzedRuleList ps
  | .termPrefix text _ ps | .wildcard text _ ps =>
      text ≠ "" ∧ Params.Canonical Param.analyzedRuleList ps
  | .fuzzy text _ ps => text ≠ "" ∧ Params.Canonical Param.fuzzyRuleList ps
  | .allOf rs g _ f | .anyOf rs g _ f => rs ≠ [] ∧ (∀ x ∈ rs, decode x.toJson = .ok x) ∧
      gapLimit g = g ∧ Loose.fitsI64 g = true ∧
      (∀ x, f = some x → IntervalFilter.decode x.toJson = .ok x)

theorem decodeBody_matchText_of {query u : String} {g : Int} {o : Bool} {f : Option IntervalFilter}
    {ps : Params} (hne : query ≠ "") (hgap : gapLimit g = g) (hfit : Loose.fitsI64 g = true)
    (hf : ∀ x, f = some x → IntervalFilter.decode x.toJson = .ok x)
    (hc : Params.Canonical Param.analyzedRuleList ps) :
    decodeBody .matchText (bodyJson (.matchText query g o u f ps)) =
      .ok (.matchText query g o u f ps) := by
  rw [bodyJson, decodeBody_mkObj, decodeMembers]
  set ms' := Json.Members.ofList (("query", Json.str query) :: gapMembers g o ++
    ps.members Param.analyzedRuleList ++ Shape.nonEmpty "use_field" u ++
    IntervalFilter.member f) with hms'
  let A := ("query", Json.str query) :: gapMembers g o
  let B := Shape.nonEmpty "use_field" u ++ IntervalFilter.member f
  replace hms' : ms' = Json.Members.ofList (A ++ ps.members Param.analyzedRuleList ++ B) := by
    simp [hms', A, B]
  have hown : ∀ k, Param.ofKey? k = none → ms'.get? k = (Json.Members.ofList (A ++ B)).get? k :=
    fun k hk => hms' ▸ Json.Members.get?_around_params A B ps _ fun p _ =>
      Param.key_ne_of_ofKey? hk p
  have htext : Shape.text ms' "query" = .ok query := Shape.text_of_get? ((hown "query" rfl).trans
    (by by_cases hue : u = "" <;> simp [A, B, gapMembers, IntervalFilter.member_eq_opt,
      Json.Members.get?_ofList_append, Json.Members.get?_ofList_cons, hne, hue]))
  have hgaps := readGaps_of_get? (o := o) hgap hfit ((hown "max_gaps" rfl).trans
    (by simp [A, B, IntervalFilter.member_eq_opt, Json.Members.get?_ofList_append,
      Json.Members.get?_ofList_cons]))
  have hord := readOrdered_of_get? (g := g) (o := o) ((hown "ordered" rfl).trans
    (by simp [A, B, IntervalFilter.member_eq_opt, Json.Members.get?_ofList_append,
      Json.Members.get?_ofList_cons]))
  have huse : Shape.text ms' "use_field" = .ok u := Shape.text_of_get? ((hown "use_field" rfl).trans
    (by by_cases hue : u = "" <;> simp [A, B, gapMembers, IntervalFilter.member_eq_opt,
      Json.Members.get?_ofList_append, Json.Members.get?_ofList_cons, hue]))
  have hfilter : IntervalFilter.decodeSlot ms' = .ok f :=
    IntervalFilter.decodeSlot_of_get? ((hown "filter" rfl).trans
      (by simp [A, B, gapMembers, IntervalFilter.member_eq_opt, Json.Members.get?_ofList_append,
        Json.Members.get?_ofList_cons])) hf
  have hkeys : ∀ m ∈ A ++ B, m.1 ∈ ["query", "max_gaps", "ordered", "use_field", "filter"] := by
    intro m hm
    simp only [A, B, gapMembers, IntervalFilter.member_eq_opt, List.mem_append, List.mem_cons] at hm
    rcases hm with (rfl | hm | hm) | hm | hm
    · simp
    · split at hm <;> simp at hm
      simp [hm]
    · split at hm <;> simp at hm
      simp [hm]
    · simp [mem_nonEmpty hm]
    · simp [mem_opt hm]
  have hpar : Params.ofMembers Param.analyzedRuleList (some .intervals) ms' = .ok ps := by
    rw [hms']
    exact Params.ofMembers_around (some .intervals) A B hc (own_ne_key _ hkeys (by decide) _)
  simp only [htext, hgaps, hord, huse, hfilter, hpar]
  simp [requiredText, hne]

theorem decodeBody_combining_of {cs : List Rule} {g : Int} {o : Bool} {f : Option IntervalFilter}
    (hne : cs ≠ []) (hcs : ∀ x ∈ cs, decode x.toJson = .ok x) (hgap : gapLimit g = g)
    (hfit : Loose.fitsI64 g = true) (hf : ∀ x, f = some x → IntervalFilter.decode x.toJson = .ok x) :
    decodeBody .allOf (bodyJson (.allOf cs g o f)) = .ok (.allOf cs g o f) ∧
      decodeBody .anyOf (bodyJson (.anyOf cs g o f)) = .ok (.anyOf cs g o f) := by
  -- the written body holds the children, the gap members and the filter, each once
  set ms' := Json.Members.ofList (("intervals", .arr (listJson cs)) :: gapMembers g o ++
    IntervalFilter.member f) with hms'
  have hchildren : ms'.get? "intervals" = some (.arr (listJson cs)) := by
    simp [hms', gapMembers, IntervalFilter.member_eq_opt, Json.Members.get?_ofList_append,
      Json.Members.get?_ofList_cons]
  have hgaps : ms'.get? "max_gaps" = (Json.Members.ofList (gapMembers g o)).get? "max_gaps" := by
    simp [hms', IntervalFilter.member_eq_opt, Json.Members.get?_ofList_append,
      Json.Members.get?_ofList_cons]
  have hord : ms'.get? "ordered" = (Json.Members.ofList (gapMembers g o)).get? "ordered" := by
    simp [hms', IntervalFilter.member_eq_opt, Json.Members.get?_ofList_append,
      Json.Members.get?_ofList_cons]
  have hfilter : ms'.get? "filter" = f.map IntervalFilter.toJson := by
    simp [hms', gapMembers, IntervalFilter.member_eq_opt, Json.Members.get?_ofList_append,
      Json.Members.get?_ofList_cons]
  constructor
  all_goals
    rw [bodyJson, decodeBody_mkObj, ← hms', decodeMembers, decodeChildren_of_get? _ hchildren hcs,
      readGaps_of_get? hgap hfit hgaps, readOrdered_of_get? hord,
      IntervalFilter.decodeSlot_of_get? hfilter hf]
    simp [requiredRules, hne]

/-- A readable rule reads back from its own body. -/
theorem decodeBody_of_readable {r : Rule} (h : r.Readable) : decodeBody r.kind r.bodyJson = .ok r := by
  cases r with
  | matchText query g o u f ps =>
    obtain ⟨hne, hgap, hfit, hf, hc⟩ := h
    exact decodeBody_matchText_of hne hgap hfit hf hc
  | termPrefix text u ps =>
    obtain ⟨h1, h2, h3⟩ := readPattern "prefix" _ (u := u) rfl (by decide) h.1 h.2
    rw [kind, bodyJson, decodeBody_mkObj, decodeMembers]
    simp only [h1, h2, h3]
    simp [requiredText, h.1]
  | wildcard text u ps =>
    obtain ⟨h1, h2, h3⟩ := readPattern "pattern" _ (u := u) rfl (by decide) h.1 h.2
    rw [kind, bodyJson, decodeBody_mkObj, decodeMembers]
    simp only [h1, h2, h3]
    simp [requiredText, h.1]
  | fuzzy text u ps =>
    obtain ⟨h1, h2, h3⟩ := readPattern "term" _ (u := u) rfl (by decide) h.1 h.2
    rw [kind, bodyJson, decodeBody_mkObj, decodeMembers]
    simp only [h1, h2, h3]
    simp [requiredText, h.1]
  | allOf rs g o f =>
    obtain ⟨hne, hrs, hgap, hfit, hf⟩ := h
    exact (decodeBody_combining_of hne hrs hgap hfit hf).1
  | anyOf rs g o f =>
    obtain ⟨hne, hrs, hgap, hfit, hf⟩ := h
    exact (decodeBody_combining_of hne hrs hgap hfit hf).2

theorem decode_of_readable {r : Rule} (h : r.Readable) : decode r.toJson = .ok r := by
  rw [toJson, decode, RuleKind.parse_tag]
  simp [decodeBody_of_readable h]

theorem decodeMembers_pattern {k : RuleKind} {ms : Json.Members} {r : Rule}
    (hk : k = .termPrefix ∨ k = .wildcard ∨ k = .fuzzy) (h : decodeMembers k ms = .ok r) :
    r.kind = k ∧ r.Readable := by
  rcases hk with rfl | rfl | rfl
  all_goals
    rw [decodeMembers] at h
    obtain ⟨t, -, h⟩ := Except.bind_eq_ok.mp h
    obtain ⟨text, htext, h⟩ := Except.bind_eq_ok.mp h
    obtain ⟨u, -, h⟩ := Except.bind_eq_ok.mp h
    obtain ⟨ps, hps, h⟩ := Except.bind_eq_ok.mp h
    cases h
    obtain ⟨rfl, hne⟩ := requiredText_eq_ok htext
    exact ⟨rfl, hne, Params.ofMembers_canonical hps⟩

theorem decodeMembers_matchText {ms : Json.Members} {r : Rule}
    (h : decodeMembers .matchText ms = .ok r)
    (hf : ∀ o, IntervalFilter.decodeSlot ms = .ok o →
      ∀ x, o = some x → IntervalFilter.decode x.toJson = .ok x) :
    r.kind = .matchText ∧ r.Readable := by
  rw [decodeMembers] at h
  obtain ⟨t, -, h⟩ := Except.bind_eq_ok.mp h
  obtain ⟨query, hquery, h⟩ := Except.bind_eq_ok.mp h
  obtain ⟨g, hg, h⟩ := Except.bind_eq_ok.mp h
  obtain ⟨o, -, h⟩ := Except.bind_eq_ok.mp h
  obtain ⟨u, -, h⟩ := Except.bind_eq_ok.mp h
  obtain ⟨f, hfs, h⟩ := Except.bind_eq_ok.mp h
  obtain ⟨ps, hps, h⟩ := Except.bind_eq_ok.mp h
  cases h
  obtain ⟨rfl, hne⟩ := requiredText_eq_ok hquery
  obtain ⟨hgap, hfit⟩ := readGaps_spec hg
  exact ⟨rfl, hne, hgap, hfit, hf f hfs, Params.ofMembers_canonical hps⟩

theorem decodeMembers_combining {k : RuleKind} {ms : Json.Members} {r : Rule}
    (hk : k = .allOf ∨ k = .anyOf) (h : decodeMembers k ms = .ok r)
    (hrules : ∀ rs, decodeChildren k ms = .ok rs → ∀ x ∈ rs, decode x.toJson = .ok x)
    (hf : ∀ o, IntervalFilter.decodeSlot ms = .ok o →
      ∀ x, o = some x → IntervalFilter.decode x.toJson = .ok x) :
    r.kind = k ∧ r.Readable := by
  rcases hk with rfl | rfl
  all_goals
    rw [decodeMembers] at h
    obtain ⟨cs, hcs, h⟩ := Except.bind_eq_ok.mp h
    obtain ⟨cs', hreq, h⟩ := Except.bind_eq_ok.mp h
    obtain ⟨g, hg, h⟩ := Except.bind_eq_ok.mp h
    obtain ⟨o, -, h⟩ := Except.bind_eq_ok.mp h
    obtain ⟨f, hfs, h⟩ := Except.bind_eq_ok.mp h
    cases h
    obtain ⟨hcs', hne⟩ := requiredRules_eq_ok hreq
    subst cs'
    obtain ⟨hgap, hfit⟩ := readGaps_spec hg
    exact ⟨rfl, hne, hrules cs hcs, hgap, hfit, hf f hfs⟩

end Rule

mutual

/-- A rule read from JSON reads back from its JSON. -/
theorem Rule.decode_toJson {v : Json} {r : Rule} (h : Rule.decode v = .ok r) :
    Rule.decode r.toJson = .ok r := by
  unfold Rule.decode at h
  split at h
  · obtain ⟨k, -, h⟩ := Except.bind_eq_ok.mp h
    exact Rule.decode_of_readable (Rule.decodeBody_readable (Except.mapError_eq_ok.mp h)).2
  all_goals cases h
termination_by 4 * sizeOf v + 3
decreasing_by
  all_goals
    subst_vars
    simp -failIfUnchanged only [List.cons.sizeOf_spec, Prod.mk.sizeOf_spec, Json.obj.sizeOf_spec,
      List.nil.sizeOf_spec]
    omega

theorem Rule.decodeBody_readable {k : RuleKind} {body : Json} {r : Rule}
    (h : Rule.decodeBody k body = .ok r) : r.kind = k ∧ r.Readable := by
  unfold Rule.decodeBody at h
  split at h
  · exact Rule.decodeMembers_readable h
  · exact Rule.decodeMembers_readable h
  · cases h
termination_by 4 * sizeOf body + 2
decreasing_by
  all_goals
    subst_vars
    simp -failIfUnchanged only [Json.obj.sizeOf_spec, List.nil.sizeOf_spec, Json.null.sizeOf_spec]
    omega

theorem Rule.decodeMembers_readable {k : RuleKind} {ms : Json.Members} {r : Rule}
    (h : Rule.decodeMembers k ms = .ok r) : r.kind = k ∧ r.Readable := by
  cases k with
  | matchText => exact Rule.decodeMembers_matchText h fun _ ho => IntervalFilter.decodeSlot_rereads ho
  | termPrefix => exact Rule.decodeMembers_pattern (.inl rfl) h
  | wildcard => exact Rule.decodeMembers_pattern (.inr (.inl rfl)) h
  | fuzzy => exact Rule.decodeMembers_pattern (.inr (.inr rfl)) h
  | allOf =>
    exact Rule.decodeMembers_combining (.inl rfl) h (fun _ hc => Rule.decodeChildren_rereads hc)
      fun _ ho => IntervalFilter.decodeSlot_rereads ho
  | anyOf =>
    exact Rule.decodeMembers_combining (.inr rfl) h (fun _ hc => Rule.decodeChildren_rereads hc)
      fun _ ho => IntervalFilter.decodeSlot_rereads ho
termination_by 4 * sizeOf ms + 1
decreasing_by all_goals (subst_vars; omega)

theorem Rule.decodeChildren_rereads {k : RuleKind} {ms : Json.Members} {rs : List Rule}
    (h : Rule.decodeChildren k ms = .ok rs) : ∀ x ∈ rs, Rule.decode x.toJson = .ok x := by
  unfold Rule.decodeChildren at h
  split at h
  · cases h
    simp
  · cases h
    simp
  · rename_i items hitems
    have hlt := Json.Members.sizeOf_items_lt_of_get? hitems
    exact Rule.decodeItems_rereads h
  · cases h
termination_by 4 * sizeOf ms
decreasing_by all_goals omega

theorem Rule.decodeItems_rereads {k : RuleKind} {items : List Json} {i : Nat} {rs : List Rule}
    (h : Rule.decodeItems k items i = .ok rs) : ∀ x ∈ rs, Rule.decode x.toJson = .ok x := by
  unfold Rule.decodeItems at h
  split at h
  · cases h
    simp
  · obtain ⟨r, hr, h⟩ := Except.bind_eq_ok.mp h
    obtain ⟨rs', hrs, h⟩ := Except.bind_eq_ok.mp h
    cases h
    intro x hx
    rcases List.mem_cons.mp hx with rfl | hx
    · exact Rule.decode_toJson (Except.mapError_eq_ok.mp hr)
    · exact Rule.decodeItems_rereads hrs x hx
termination_by 4 * sizeOf items
decreasing_by all_goals (subst_vars; simp -failIfUnchanged only [List.cons.sizeOf_spec]; omega)

theorem IntervalFilter.decodeSlot_rereads {ms : Json.Members} {o : Option IntervalFilter}
    (h : IntervalFilter.decodeSlot ms = .ok o) :
    ∀ x, o = some x → IntervalFilter.decode x.toJson = .ok x := by
  unfold IntervalFilter.decodeSlot at h
  split at h
  · cases h
    simp
  · cases h
    simp
  · rename_i raw _ hraw
    have := Json.Members.sizeOf_lt_of_get? hraw
    obtain ⟨f, hf, rfl⟩ := Except.map_eq_ok.mp h
    intro x hx
    cases hx
    exact IntervalFilter.decode_toJson hf
termination_by 4 * sizeOf ms
decreasing_by all_goals (subst_vars; omega)

/-- A filter read from JSON reads back from its JSON: a relation is never `script`. -/
theorem IntervalFilter.decode_toJson {v : Json} {f : IntervalFilter}
    (h : IntervalFilter.decode v = .ok f) : IntervalFilter.decode f.toJson = .ok f := by
  unfold IntervalFilter.decode at h
  split at h
  · split at h
    · obtain ⟨s, -, rfl⟩ := Except.map_eq_ok.mp h
      exact IntervalFilter.decode_script s
    · obtain ⟨r, hr, h⟩ := Except.bind_eq_ok.mp h
      exact IntervalFilter.decode_related h (Rule.decode_toJson (Except.mapError_eq_ok.mp hr))
  · cases h
termination_by 4 * sizeOf v + 3
decreasing_by
  all_goals
    subst_vars
    simp -failIfUnchanged only [List.cons.sizeOf_spec, Prod.mk.sizeOf_spec, Json.obj.sizeOf_spec,
      List.nil.sizeOf_spec]
    omega

end


namespace RuleKind

theorem tag_inj {a b : RuleKind} : a.tag = b.tag ↔ a = b := by
  cases a <;> cases b <;> decide

theorem ofKey?_tag (k : RuleKind) : Param.ofKey? k.tag = none := by
  cases k <;> rfl

theorem filterMap_get?_tag {ms : Json.Members} {k : RuleKind} {raw : Json}
    (h : ∀ k', ms.get? k'.tag = if k' = k then some raw else none) :
    all.filterMap (fun k' => (ms.get? k'.tag).map fun v => (k', v)) = [(k, raw)] := by
  cases k <;> simp [all, h]

end RuleKind

namespace IntervalsQuery

theorem decode_body_of {field : String} {r : Rule} {ps : Params} (hfield : field.isEmpty = false)
    (hr : r.Readable) (hc : Params.Canonical QueryKind.intervals.params ps) :
    decode (body ⟨field, some r, ps⟩) = .ok ⟨field, some r, ps⟩ := by
  let own := [(r.kind.tag, r.bodyJson)]
  have hget : ∀ k, (Json.Members.ofList (own ++ ps.members QueryKind.intervals.params)).get? k.tag =
      if k = r.kind then some r.bodyJson else none := by
    intro k
    rw [Json.Members.get?_own_params_of_ofKey? own ps _ (RuleKind.ofKey?_tag k)]
    by_cases hk : k = r.kind
    · simp [own, hk]
    · simp [own, hk, RuleKind.tag_inj, Ne.symm hk]
  have hpar := Params.ofMembers_own_params (some .intervals) own hc fun m hm p _ => by
    rw [List.mem_singleton.mp hm]
    exact ne_key_of_ofKey? (RuleKind.ofKey?_tag r.kind) p
  have hbody : body ⟨field, some r, ps⟩ =
      Shape.wrapField field (own ++ ps.members QueryKind.intervals.params) := by
    simp [body, isEmpty, hfield, own]
  rw [hbody]
  simp only [decode, Shape.fieldKeyed_wrapField, Except.ok_bind]
  rw [RuleKind.filterMap_get?_tag hget]
  simp [Rule.decodeBody_of_readable hr, hpar]

theorem decode_body {J : Json} {q : IntervalsQuery} (h : decode J = .ok q)
    (hne : q.isEmpty = false) : decode q.body = .ok q := by
  obtain ⟨field, r, ps, rfl, hr, hc⟩ : ∃ field r ps, q = ⟨field, some r, ps⟩ ∧ r.Readable ∧
      Params.Canonical QueryKind.intervals.params ps := by
    unfold decode at h
    obtain ⟨o, -, h⟩ := Except.bind_eq_ok.mp h
    rcases o with _ | ⟨field, ms⟩
    · cases h
      simp [isEmpty] at hne
    · dsimp only at h
      split at h
      · obtain ⟨r, hr, h⟩ := Except.bind_eq_ok.mp h
        obtain ⟨ps, hps, h⟩ := Except.bind_eq_ok.mp h
        cases h
        exact ⟨field, r, ps, rfl, (Rule.decodeBody_readable (Except.mapError_eq_ok.mp hr)).2,
          Params.ofMembers_canonical (Except.mapError_eq_ok.mp hps)⟩
      all_goals cases h
  exact decode_body_of hne hr hc

end IntervalsQuery

end SearchDsl
