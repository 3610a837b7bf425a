import SearchDsl.Proofs.Text.Tags
/-!
Exactly which texts each tag reader accepts.

A tag set reads a text as a value when the trimmed text is one of the value's spellings up to
ASCII case. The spellings of distinct values never meet, so the order in which the reader tries
the values does not matter, and every tag reads back as its value.

A rewrite method is read from its fixed tag, or from its own prefix followed by a 32-bit numeral
(an optional `+`, then ASCII digits) that gives its term count. The prefixes overlap, as
`top_terms_` starts the other two, but a numeral never starts with a letter: the reader, which
tries the longer prefixes first, never takes one method's text for another's.
-/
set_option autoImplicit false

namespace SearchDsl

namespace Decimal

/-- A numeral of an unsigned 32-bit integer: an optional `+`, then one or more ASCII digits whose
value is below `2^32`. -/
def U32Numeral (u : String) (n : Nat) : Prop :=
  ∃ ds : List Char, (u.toList = ds ∨ u.toList = '+' :: ds) ∧ ds ≠ [] ∧
    (∀ c ∈ ds, c.isDigit = true) ∧ digitsValue ds = n ∧ n < Nat.pow 2 32

theorem parseU32?_eq_some_iff (u : String) (n : Nat) : parseU32? u = some n ↔ U32Numeral u n := by
  constructor
  · intro h
    unfold parseU32? at h
    split at h
    · rename_i rest hplus
      dsimp only at h
      split_ifs at h with hbad hlt
      cases h
      have hds : rest ≠ [] ∧ ∀ c ∈ rest, c.isDigit = true := by simpa using hbad
      exact ⟨rest, .inr hplus, hds.1, hds.2, rfl, hlt⟩
    · dsimp only at h
      split_ifs at h with hbad hlt
      cases h
      have hds : u.toList ≠ [] ∧ ∀ c ∈ u.toList, c.isDigit = true := by simpa using hbad
      exact ⟨u.toList, .inl rfl, hds.1, hds.2, rfl, hlt⟩
  · rintro ⟨ds, hu, hne, hdig, rfl, hlt⟩
    have hok : (if ds.isEmpty || !ds.all Char.isDigit then none
        else if digitsValue ds < Nat.pow 2 32 then some (digitsValue ds) else none) =
        some (digitsValue ds) := by
      simp [List.isEmpty_eq_false_iff.mpr hne, List.all_eq_true.mpr hdig, hlt]
    unfold parseU32?
    split
    · -- a leading `+` is dropped; it cannot be a digit of the numeral itself
      rename_i rest hplus
      have hrest : rest = ds := by
        rcases hu with hu | hu
        · rw [hplus] at hu
          have := hdig '+' (by simp [← hu])
          simp at this
        · rw [hplus] at hu
          exact (List.cons.inj hu).2
      subst hrest
      exact hok
    · rename_i hnoplus
      have hds : u.toList = ds := by
        rcases hu with hu | hu
        · exact hu
        · exact absurd hu (hnoplus ds)
      rw [hds]
      exact hok

theorem U32Numeral.head {u : String} {n : Nat} (h : U32Numeral u n) :
    ∃ c cs, u.toList = c :: cs ∧ c ≠ 'b' := by
  obtain ⟨ds, hu, hne, hdig, -⟩ := h
  obtain ⟨d, ds', rfl⟩ := List.exists_cons_of_ne_nil hne
  rcases hu with hu | hu
  · refine ⟨d, ds', hu, fun hb => ?_⟩
    have := hdig d List.mem_cons_self
    simp [hb] at this
  · exact ⟨'+', d :: ds', hu, by decide⟩

end Decimal

namespace Rewrite

/-- The texts, trimmed and in lower case, that name a rewrite method: its fixed tag, or its prefix
followed by a 32-bit numeral of its term count. -/
def Spells : Rewrite → String → Prop
  | constantScore, t => t = "constant_score"
  | constantScoreBoolean, t => t = "constant_score_boolean"
  | scoringBoolean, t => t = "scoring_boolean"
  | topTermsBlendedFreqs n, t =>
    ∃ u, t = "top_terms_blended_freqs_" ++ u ∧ Decimal.U32Numeral u n
  | topTermsBoost n, t => ∃ u, t = "top_terms_boost_" ++ u ∧ Decimal.U32Numeral u n
  | topTerms n, t => ∃ u, t = "top_terms_" ++ u ∧ Decimal.U32Numeral u n

theorem eq_append_drop_of_startsWith {t p : String} (h : t.startsWith p = true) :
    t = p ++ String.ofList (t.toList.drop p.length) := by
  obtain ⟨rest, hrest⟩ := String.startsWith_string_iff.mp h
  have hdrop : t.toList.drop p.length = rest := by
    rw [← hrest, ← String.length_toList, List.drop_left]
  rw [hdrop, ← String.toList_inj, String.toList_append, String.toList_ofList, hrest]

theorem drop_length_append (pre u : String) :
    String.ofList ((pre ++ u).toList.drop pre.length) = u := by
  rw [String.toList_append, ← String.length_toList, List.drop_left, String.ofList_toList]

/-- Every method the reader returns is spelled by the trimmed text in lower case. -/
theorem spells_of_parse {s : String} {r : Rewrite} (h : parse s = .ok r) :
    r.Spells (Decimal.asciiLower (Text.trim s)) := by
  unfold parse at h
  dsimp only at h
  generalize Decimal.asciiLower (Text.trim s) = t at h ⊢
  split_ifs at h with h1 h2 h3
  · cases h
    exact h1
  · cases h
    exact h2
  · cases h
    exact h3
  · split at h
    · rename_i p mk hfind
      split at h
      · rename_i n hn
        cases h
        have hstart := List.find?_some hfind
        have hmem := List.mem_of_find?_eq_some hfind
        have hu := (Decimal.parseU32?_eq_some_iff _ _).mp hn
        simp only [sized, List.mem_cons, Prod.mk.injEq, List.not_mem_nil, or_false] at hmem
        rcases hmem with ⟨rfl, rfl⟩ | ⟨rfl, rfl⟩ | ⟨rfl, rfl⟩ <;>
          exact ⟨_, eq_append_drop_of_startsWith hstart, hu⟩
      · cases h
    · cases h

theorem parse_sized {s p u : String} {mk : Nat → Rewrite} {n : Nat}
    (ht : Decimal.asciiLower (Text.trim s) = p ++ u) (hp : p.toList.head? = some 't')
    (hfind : sized.find? (fun q => (p ++ u).startsWith q.1) = some (p, mk))
    (hu : Decimal.U32Numeral u n) : parse s = .ok (mk n) := by
  have hne : p ≠ "" := fun h => by simp [h] at hp
  unfold parse
  dsimp only
  -- the text starts with `t`, where each fixed tag starts otherwise
  rw [ht, if_neg (append_ne_of_head? _ hne (by rw [hp]; decide)),
    if_neg (append_ne_of_head? _ hne (by rw [hp]; decide)),
    if_neg (append_ne_of_head? _ hne (by rw [hp]; decide)), hfind]
  dsimp only
  rw [drop_length_append, (Decimal.parseU32?_eq_some_iff _ _).mpr hu]

/-- A text that spells a method, once trimmed and in lower case, reads as that method. -/
theorem parse_of_spells {s : String} {r : Rewrite}
    (h : r.Spells (Decimal.asciiLower (Text.trim s))) :
    parse s = .ok r := by
  cases r with
  | constantScore =>
    simp only [Spells] at h
    simp [parse, h]
  | constantScoreBoolean =>
    simp only [Spells] at h
    simp [parse, h]
  | scoringBoolean =>
    simp only [Spells] at h
    simp [parse, h]
  | topTermsBlendedFreqs n =>
    obtain ⟨u, ht, hu⟩ := h
    exact parse_sized ht (by decide) (by simp [sized, String.startsWith_string_iff]) hu
  | topTermsBoost n =>
    obtain ⟨u, ht, hu⟩ := h
    exact parse_sized ht (by decide)
      (by simp [sized, String.startsWith_string_iff, String.toList_append]) hu
  | topTerms n =>
    obtain ⟨u, ht, hu⟩ := h
    -- the numeral starts where the longer prefixes go on with `b`
    obtain ⟨c, cs, hc, hb⟩ := hu.head
    exact parse_sized ht (by decide)
      (by simp [sized, String.startsWith_string_iff, String.toList_append, hc, Ne.symm hb]) hu

theorem parse_eq_ok_iff (s : String) (r : Rewrite) :
    parse s = .ok r ↔ r.Spells (Decimal.asciiLower (Text.trim s)) :=
  ⟨spells_of_parse, parse_of_spells⟩

theorem parse_tag_iff (r : Rewrite) : parse r.tag = .ok r ↔ r.Fits :=
  ⟨parse_fits, parse_tag⟩

end Rewrite

namespace Tagged

variable {α : Type} [Tagged α]

/-- A text spells a value when it equals one of the value's spellings up to ASCII case. -/
def Spelled (v : α) (t : String) : Prop :=
  ∃ n ∈ spellings v, Decimal.asciiLower n = Decimal.asciiLower t

theorem names_eq_true_iff (v : α) (t : String) : names v t = true ↔ Spelled v t := by
  simp [names, Spelled]

variable (α) in
/-- No two values of a tag set share a spelling, up to ASCII case. -/
def Disjoint : Prop :=
  ∀ v w : α, ∀ n ∈ spellings v, ∀ m ∈ spellings w,
    Decimal.asciiLower n = Decimal.asciiLower m → v = w

theorem eq_of_spelled (hd : Disjoint α) {v w : α} {t : String} (hv : Spelled v t)
    (hw : Spelled w t) : v = w := by
  obtain ⟨n, hn, hnt⟩ := hv
  obtain ⟨m, hm, hmt⟩ := hw
  exact hd v w n hn m hm (hnt.trans hmt.symm)

/-- In a tag set that lists every value and whose spellings are disjoint, a text reads as a value
exactly when the trimmed text spells it. -/
theorem parse_eq_ok_iff (hall : ∀ v : α, v ∈ (all : List α)) (hd : Disjoint α) (s : String)
    (v : α) : parse s = .ok v ↔ Spelled v (Text.trim s) := by
  unfold parse
  dsimp only
  constructor
  · intro h
    split at h
    · rename_i w hw
      cases h
      have hnames := List.find?_some hw
      exact (names_eq_true_iff _ _).mp hnames
    · cases h
  · intro hv
    cases hf : (all : List α).find? (fun w => names w (Text.trim s)) with
    | none =>
      -- the value itself is listed and named by the text, so the search finds something
      have := List.find?_eq_none.mp hf v (hall v)
      exact absurd ((names_eq_true_iff _ _).mpr hv) this
    | some w =>
      have hnames := List.find?_some hf
      have hw : Spelled w (Text.trim s) := (names_eq_true_iff _ _).mp hnames
      rw [eq_of_spelled hd hw hv]

/-- The disjointness of a tag set's spellings as a check on character lists, which `decide`
settles for a fixed set. -/
def disjointCheck [DecidableEq α] : Bool :=
  (all : List α).all fun v => (all : List α).all fun w =>
    v == w || (spellings v).all fun n => (spellings w).all fun m =>
      n.toList.map Char.toLower != m.toList.map Char.toLower

theorem disjoint_of_check [DecidableEq α] (hall : ∀ v : α, v ∈ (all : List α))
    (h : disjointCheck (α := α) = true) : Disjoint α := by
  intro v w n hn m hm heq
  have hv := List.all_eq_true.mp h v (hall v)
  have hvw := List.all_eq_true.mp hv w (hall w)
  have hlower : n.toList.map Char.toLower = m.toList.map Char.toLower := by
    have := congrArg String.toList heq
    rwa [Decimal.asciiLower, Decimal.asciiLower, String.toList_map, String.toList_map] at this
  simp only [Bool.or_eq_true, beq_iff_eq, List.all_eq_true, bne_iff_ne, ne_eq] at hvw
  rcases hvw with hvw | hsep
  · exact hvw
  · exact absurd hlower (hsep n hn m hm)

variable (α) in
/-- What the reader of a tag set guarantees: a text reads as a value exactly when the trimmed
text spells it, no two values share a spelling, and each value's tag reads back as the value. -/
def ReadsExactly : Prop :=
  (∀ (s : String) (v : α), parse s = .ok v ↔ Spelled v (Text.trim s)) ∧ Disjoint α ∧
    ∀ v : α, parse (tag v) = .ok v

theorem readsExactly [DecidableEq α] [LawfulTagged α] (hall : ∀ v : α, v ∈ (all : List α))
    (hcheck : disjointCheck (α := α) = true) : ReadsExactly α :=
  have hd := disjoint_of_check hall hcheck
  ⟨parse_eq_ok_iff hall hd, hd, LawfulTagged.parse_tag⟩

end Tagged

/-- Every tag reader of the library reads exactly the spellings of its values. A rewrite method
reads back from its tag when its term count has 32 bits, and a text reads as a method exactly
when, trimmed and in lower case, it is the method's fixed tag or its prefix and a numeral of its
term count. Each of the thirteen tag sets reads a text as a value exactly when the trimmed text
is one of the value's spellings up to ASCII case; the spellings of its values are disjoint and
each tag reads back. -/
theorem tagReaders_readExactly :
    (∀ r : Rewrite, Rewrite.parse r.tag = .ok r ↔ r.Fits) ∧
    (∀ (s : String) (r : Rewrite),
      Rewrite.parse s = .ok r ↔ r.Spells (Decimal.asciiLower (Text.trim s))) ∧
    Tagged.ReadsExactly Operator ∧ Tagged.ReadsExactly ZeroTerms ∧
    Tagged.ReadsExactly Relation ∧ Tagged.ReadsExactly Similarity ∧
    Tagged.ReadsExactly IndexOptions ∧ Tagged.ReadsExactly Orientation ∧
    Tagged.ReadsExactly TermVector ∧ Tagged.ReadsExactly BoostMode ∧
    Tagged.ReadsExactly ScoreMode ∧ Tagged.ReadsExactly Modifier ∧
    Tagged.ReadsExactly Dynamic ∧ Tagged.ReadsExactly MultiMatchType ∧
    Tagged.ReadsExactly SpatialRelation := by
  refine ⟨Rewrite.parse_tag_iff, Rewrite.parse_eq_ok_iff, ?_, ?_, ?_, ?_, ?_, ?_, ?_, ?_, ?_, ?_,
    ?_, ?_, ?_⟩ <;>
  -- each set lists all its values and its spellings are checked pairwise
  exact Tagged.readsExactly (fun v => by cases v <;> decide) (by decide)

end SearchDsl
