import SearchDsl.Param.Coerce
import SearchDsl.Proofs.Decimal.Finite
import SearchDsl.Proofs.Except
import SearchDsl.Proofs.Json.Object
import SearchDsl.Proofs.Keyed
import SearchDsl.Proofs.Text.Tags
/-!
Parameter settings read back from their own JSON. A setting is only ever stored by coercing a
loose value, and every coercion keeps what it accepted in a form its JSON gives back: a float
is finite, an integer has 64 bits, a text is already trimmed where the parameter trims, a tag is
written in its canonical spelling. So the settings a clause reads are settings its written
members read again, and the settings of a clause, sorted and declared, are exactly what reading
its written members gives. Scalars and lists of names read back from their JSON the same way.
-/
set_option autoImplicit false

namespace SearchDsl

namespace Loose

/-- A loose value as a JSON value gives it: an integer has 64 signed bits. -/
def WellFormed : Loose → Prop
  | .int i => fitsI64 i = true
  | _ => True

theorem ofInt_wellFormed (i : Int) : (ofInt i).WellFormed := by
  unfold ofInt
  split
  · assumption
  · trivial

theorem ofJson_wellFormed {j : Json} {l : Loose} (h : ofJson j = .ok (some l)) : l.WellFormed := by
  cases j with
  | int i =>
    simp only [ofJson, Except.ok.injEq, Option.some.injEq] at h
    exact h ▸ ofInt_wellFormed i
  | null | arr _ | obj _ => simp [ofJson] at h
  | bool _ | float _ | str _ =>
    simp only [ofJson, Except.ok.injEq, Option.some.injEq] at h
    subst h
    trivial

theorem ofJson_int {i : Int} (h : fitsI64 i = true) : ofJson (.int i) = .ok (some (.int i)) := by
  simp [ofJson, ofInt, h]

theorem toF64?_isFinite {l : Loose} {f : Float} (hl : l.WellFormed) (h : l.toF64? = some f) :
    f.isFinite = true := by
  cases l with
  | int i =>
    simp only [toF64?, Option.some.injEq] at h
    exact h ▸ intToFloat_isFinite hl
  | float g =>
    simp only [toF64?] at h
    split at h
    · cases h
      assumption
    · cases h
  | str s =>
    simp only [toF64?] at h
    exact (Option.filter_eq_some_iff.mp h).2
  | bool _ => simp [toF64?] at h

theorem toF64?_float {f : Float} (h : f.isFinite = true) : (Loose.float f).toF64? = some f := by
  simp [toF64?, h]

theorem floatToI64?_fits {f : Float} {n : Int} (h : floatToI64? f = some n) : fitsI64 n = true := by
  unfold floatToI64? at h
  split at h
  · cases h
  · simp only [Option.bind_eq_some_iff] at h
    obtain ⟨m, -, h⟩ := h
    -- the value is cut to the 64-bit range before it is returned
    have h63 : ((Nat.pow 2 63 : Nat) : Int) = 9223372036854775808 := rfl
    split_ifs at h <;> cases h <;>
      simp only [fitsI64, Nat.pow_eq, Bool.and_eq_true, decide_eq_true_eq, Int.min_def] <;>
      split <;> omega

theorem toI64?_fits {l : Loose} {n : Int} (hl : l.WellFormed) (h : l.toI64? = some n) :
    fitsI64 n = true := by
  cases l with
  | int i =>
    simp only [toI64?, Option.some.injEq] at h
    exact h ▸ hl
  | float f => exact floatToI64?_fits h
  | str s =>
    simp only [toI64?] at h
    split at h
    · rename_i i hi
      cases h
      have := (Option.filter_eq_some_iff.mp hi).2
      simpa [fitsI64] using this
    · obtain ⟨f, -, hf⟩ := Option.bind_eq_some_iff.mp h
      exact floatToI64?_fits hf
  | bool _ => simp [toI64?] at h

end Loose

namespace Scalar

theorem ofJson?_toJson {j : Json} {s : Scalar} (h : ofJson? j = some s) : ofJson? s.toJson = some s := by
  cases j <;> simp [ofJson?] at h <;> subst h <;> rfl

end Scalar

theorem namesOfJson?_namesJson (xs : List String) : namesOfJson? (namesJson xs) = some xs := by
  induction xs with
  | nil => rfl
  | cons x rest ih =>
    simp only [namesJson, namesOfJson?, List.map_cons, List.mapM_cons] at ih ⊢
    simp [ih, Json.str?]

end SearchDsl

namespace SearchDsl

/-- A setting that its parameter reads back from the setting's own JSON, whichever clause kind
owns the parameter. -/
def Setting.Rereads (p : Param) (s : Setting) : Prop :=
  ∃ l, Loose.ofJson s.toJson = .ok (some l) ∧ ∀ owner, p.coerce l owner = .ok (some s)

namespace Param

/-- What a parameter stores from a loose value, by its kind: a float the value reads as, in the
parameter's range and not its default; the value's text unless empty; a flag, count, rewrite
method or tag the value reads as, other than the default; a `minimum_should_match` integer as its
numeral or a text trimmed; a `cutoff_frequency` integer as given and any other value as a float;
a positive `min_score`; any `weight`. -/
def Coerces : Param → Loose → Setting → Prop
  | .boost, l, s => ∃ f, l.toF64? = some f ∧ 0 ≤ f ∧ (f == 1.0) = false ∧ .real f = s
  | .maxBoost, l, s => ∃ f, l.toF64? = some f ∧ 0 ≤ f ∧ (f == maxBoostDefault) = false ∧ .real f = s
  | .tieBreaker, l, s => ∃ f, l.toF64? = some f ∧ (0 ≤ f ∧ f ≤ 1) ∧ (f == 0.0) = false ∧ .real f = s
  | .analyzer, l, s | .quoteAnalyzer, l, s | .fuzziness, l, s | .name, l, s | .timeZone, l, s
  | .format, l, s => l.text ≠ "" ∧ .text l.text = s
  | .caseInsensitive, l, s | .lenient, l, s | .analyzeWildcard, l, s =>
    l.toBool? = some true ∧ .flag true = s
  | .transpositions, l, s | .fuzzyTranspositions, l, s | .autoGenerateSynonymsPhraseQuery, l, s
  | .allowLeadingWildcard, l, s => l.toBool? = some false ∧ .flag false = s
  | .fuzzyRewrite, l, s | .rewrite, l, s =>
    ∃ r, Rewrite.parse l.text = .ok r ∧ r ≠ .constantScore ∧ .rewrite r = s
  | .maxExpansions, l, s | .fuzzyMaxExpansions, l, s =>
    ∃ n, l.toI64? = some n ∧ 1 ≤ n ∧ n ≠ 50 ∧ .count n = s
  | .prefixLength, l, s | .fuzzyPrefixLength, l, s | .slop, l, s =>
    ∃ n, l.toI64? = some n ∧ 0 ≤ n ∧ n ≠ 0 ∧ .count n = s
  | .maxDeterminizedStates, l, s => ∃ n, l.toI64? = some n ∧ 1 ≤ n ∧ n ≠ 10000 ∧ .count n = s
  | .operator, l, s | .defaultOperator, l, s =>
    ∃ o, Tagged.parse l.text = .ok o ∧ o ≠ Operator.or ∧ .operator o = s
  | .relation, l, s => ∃ r, Tagged.parse l.text = .ok r ∧ r ≠ Relation.intersects ∧ .relation r = s
  | .zeroTermsQuery, l, s => ∃ z, Tagged.parse l.text = .ok z ∧ z ≠ ZeroTerms.none ∧ .zeroTerms z = s
  | .scoreMode, l, s => ∃ m, Tagged.parse l.text = .ok m ∧ m ≠ ScoreMode.multiply ∧ .scoreMode m = s
  | .boostMode, l, s => ∃ m, Tagged.parse l.text = .ok m ∧ m ≠ BoostMode.multiply ∧ .boostMode m = s
  | .modifier, l, s => ∃ m, Tagged.parse l.text = .ok m ∧ m ≠ Modifier.none ∧ .modifier m = s
  | .minimumShouldMatch, l, s => (∃ i, l = .int i ∧ .text (toString i) = s) ∨
    ∃ t, l = .str t ∧ Text.trim t ≠ "" ∧ .text (Text.trim t) = s
  | .cutoffFrequency, l, s => (∃ i, l = .int i ∧ .number (.int i) = s) ∨
    (∀ i, l ≠ .int i) ∧ ∃ f, l.toF64? = some f ∧ .number (.float f) = s
  | .minScore, l, s => ∃ f, l.toF64? = some f ∧ 0 < f ∧ .real f = s
  | .weight, l, s => ∃ f, l.toF64? = some f ∧ .real f = s

variable {α : Type} [Tagged α] [DecidableEq α]

theorem tagSetting_eq_some_iff {context : Error → Error} {l : Loose} {default : α}
    {mk : α → Setting} {s : Setting} :
    tagSetting context l default mk = .ok (some s) ↔
      ∃ v, Tagged.parse l.text = .ok v ∧ v ≠ default ∧ mk v = s := by
  unfold tagSetting
  cases Tagged.parse (α := α) l.text <;> simp

/-- What a parameter stores from a loose value is what `Coerces` describes. -/
theorem coerce_eq_some_iff {p : Param} {l : Loose} {owner : Option QueryKind} {s : Setting} :
    p.coerce l owner = .ok (some s) ↔ p.Coerces l s := by
  cases p <;> simp only [coerce, Coerces, tagSetting_eq_some_iff]
  case boost | maxBoost | tieBreaker =>
    cases l.toF64? <;> simp only [Except.ite_error_eq_ok, Except.ok.injEq,
      Option.ite_none_left_eq_some, reduceCtorEq, false_and, exists_false, Option.some.injEq,
      exists_eq_left', Bool.not_eq_true, decide_eq_true_eq, ge_iff_le, Bool.and_eq_true]
  case minScore | weight =>
    cases l.toF64? <;> simp [Except.map]
  case analyzer | quoteAnalyzer | fuzziness | name | timeZone | format =>
    simp only [Except.ok.injEq, Option.ite_none_left_eq_some, Option.some.injEq,
      String.isEmpty_iff, ne_eq]
  case caseInsensitive | lenient | analyzeWildcard | transpositions | fuzzyTranspositions
      | autoGenerateSynonymsPhraseQuery | allowLeadingWildcard =>
    cases l.toBool? with
    | none => simp
    | some b => cases b <;> simp
  case fuzzyRewrite | rewrite =>
    cases Rewrite.parse l.text <;> simp only [Except.ok.injEq, Option.ite_none_left_eq_some,
      Option.some.injEq, reduceCtorEq, false_and, exists_false, exists_eq_left', ne_eq]
  case maxExpansions | fuzzyMaxExpansions | prefixLength | fuzzyPrefixLength | slop
      | maxDeterminizedStates =>
    cases l.toI64? <;> simp only [Except.ite_error_eq_ok, Except.ok.injEq,
      Option.ite_none_left_eq_some, reduceCtorEq, false_and, exists_false, Option.some.injEq,
      exists_eq_left', ne_eq]
  case minimumShouldMatch =>
    cases l <;> simp
  case cutoffFrequency =>
    cases l with
    | int i => simp
    | bool _ | float _ | str _ =>
      generalize Loose.toF64? _ = o
      cases o <;> simp [Except.map]

/-- Every setting a well-formed loose value gives a parameter reads back from its JSON. -/
theorem coerce_rereads {p : Param} {l : Loose} {owner : Option QueryKind} {s : Setting}
    (hl : l.WellFormed) (h : p.coerce l owner = .ok (some s)) : s.Rereads p := by
  rw [coerce_eq_some_iff] at h
  -- each case names the loose value that the setting's JSON gives, and the parameter takes it
  cases p <;> simp only [Coerces] at h
  case boost | maxBoost | tieBreaker =>
    obtain ⟨f, hf, hok, hne, rfl⟩ := h
    exact ⟨.float f, rfl, fun _ => coerce_eq_some_iff.mpr
      ⟨f, Loose.toF64?_float (Loose.toF64?_isFinite hl hf), hok, hne, rfl⟩⟩
  case minScore =>
    obtain ⟨f, hf, hpos, rfl⟩ := h
    exact ⟨.float f, rfl, fun _ => coerce_eq_some_iff.mpr
      ⟨f, Loose.toF64?_float (Loose.toF64?_isFinite hl hf), hpos, rfl⟩⟩
  case weight =>
    obtain ⟨f, hf, rfl⟩ := h
    exact ⟨.float f, rfl, fun _ => coerce_eq_some_iff.mpr
      ⟨f, Loose.toF64?_float (Loose.toF64?_isFinite hl hf), rfl⟩⟩
  case analyzer | quoteAnalyzer | fuzziness | name | timeZone | format =>
    obtain ⟨hne, rfl⟩ := h
    exact ⟨.str l.text, rfl, fun _ => coerce_eq_some_iff.mpr ⟨hne, rfl⟩⟩
  case caseInsensitive | lenient | analyzeWildcard | transpositions | fuzzyTranspositions
      | autoGenerateSynonymsPhraseQuery | allowLeadingWildcard =>
    obtain ⟨-, rfl⟩ := h
    exact ⟨.bool _, rfl, fun _ => coerce_eq_some_iff.mpr ⟨rfl, rfl⟩⟩
  case fuzzyRewrite | rewrite =>
    obtain ⟨r, hr, hne, rfl⟩ := h
    exact ⟨.str r.tag, rfl, fun _ => coerce_eq_some_iff.mpr
      ⟨r, Rewrite.parse_tag (Rewrite.parse_fits hr), hne, rfl⟩⟩
  case maxExpansions | fuzzyMaxExpansions | prefixLength | fuzzyPrefixLength | slop
      | maxDeterminizedStates =>
    obtain ⟨n, hn, hle, hne, rfl⟩ := h
    exact ⟨.int n, Loose.ofJson_int (Loose.toI64?_fits hl hn), fun _ => coerce_eq_some_iff.mpr
      ⟨n, rfl, hle, hne, rfl⟩⟩
  case operator | defaultOperator | relation | zeroTermsQuery | scoreMode | boostMode | modifier =>
    obtain ⟨v, -, hne, rfl⟩ := h
    exact ⟨.str (Tagged.tag v), rfl, fun _ => coerce_eq_some_iff.mpr
      ⟨v, LawfulTagged.parse_tag v, hne, rfl⟩⟩
  -- an integer is written as its numeral, which is its own trimmed text
  case minimumShouldMatch =>
    rcases h with ⟨i, -, rfl⟩ | ⟨t, -, hne, rfl⟩
    · have htrim := Decimal.trim_toString_int i
      exact ⟨.str (toString i), rfl, fun _ => coerce_eq_some_iff.mpr
        (.inr ⟨_, rfl, by rw [htrim]; exact Decimal.toString_int_ne_empty i, by rw [htrim]⟩)⟩
    · exact ⟨.str (Text.trim t), rfl, fun _ => coerce_eq_some_iff.mpr
        (.inr ⟨_, rfl, by rwa [Text.trim_trim], by rw [Text.trim_trim]⟩)⟩
  case cutoffFrequency =>
    rcases h with ⟨i, rfl, rfl⟩ | ⟨-, f, hf, rfl⟩
    · exact ⟨.int i, Loose.ofJson_int hl, fun _ => coerce_eq_some_iff.mpr (.inl ⟨i, rfl, rfl⟩)⟩
    · exact ⟨.float f, rfl, fun _ => coerce_eq_some_iff.mpr
        (.inr ⟨fun _ h => Loose.noConfusion h, f,
          Loose.toF64?_float (Loose.toF64?_isFinite hl hf), rfl⟩)⟩

end Param

namespace Param

theorem ofKey?_key (p : Param) : ofKey? p.key = some p := by
  cases p <;> rfl

theorem key_injective : Function.Injective key := fun p q h =>
  Option.some.inj (by rw [← ofKey?_key, ← ofKey?_key, h])

theorem key_ne_of_ofKey? {k : String} (h : ofKey? k = none) (p : Param) : p.key ≠ k := by
  intro hk
  rw [← hk, ofKey?_key] at h
  cases h

theorem mem_all (p : Param) : p ∈ all := by
  cases p <;> simp [all]

theorem index_injective : Function.Injective index := fun p _ h =>
  (List.idxOf_inj (mem_all p)).mp h

end Param

namespace Params

abbrev Sorted (es : List (Param × Setting)) : Prop := es.Pairwise fun a b => a.1.index < b.1.index

theorem putEntry_eq_put (p : Param) (s : Setting) (es : List (Param × Setting)) :
    putEntry p s es = Keyed.put Param.index p s es := by
  induction es with
  | nil => rfl
  | cons e rest ih =>
    obtain ⟨q, t⟩ := e
    simp only [putEntry, Keyed.put, ih]

theorem lookup_putEntry (p q : Param) (s : Setting) (es : List (Param × Setting)) :
    (putEntry p s es).lookup q = if q = p then some s else es.lookup q := by
  rw [putEntry_eq_put]
  exact Keyed.lookup_put p q s es

theorem mem_putEntry {p : Param} {s : Setting} {es : List (Param × Setting)} {e : Param × Setting}
    (h : e ∈ putEntry p s es) : e = (p, s) ∨ e ∈ es := by
  rw [putEntry_eq_put] at h
  exact Keyed.mem_put h

theorem sorted_putEntry {es : List (Param × Setting)} (h : Sorted es) (p : Param) (s : Setting) :
    Sorted (putEntry p s es) := by
  rw [putEntry_eq_put]
  exact Keyed.sorted_put Param.index_injective h p s

theorem get?_put_some (ps : Params) (p q : Param) (s : Setting) :
    (ps.put p (some s)).get? q = if q = p then some s else ps.get? q :=
  lookup_putEntry p q s ps.entries

theorem get?_put_none (ps : Params) (p q : Param) :
    (ps.put p none).get? q = if q = p then none else ps.get? q :=
  Keyed.lookup_filter_ne p q ps.entries

/-- Settings as reading leaves them: sorted, declared, and each read back by its parameter. -/
structure Canonical (declared : List Param) (ps : Params) : Prop where
  sorted : Sorted ps.entries
  mem_declared : ∀ e ∈ ps.entries, e.1 ∈ declared
  rereads : ∀ e ∈ ps.entries, e.2.Rereads e.1

theorem canonical_empty (declared : List Param) : Canonical declared {} :=
  ⟨List.Pairwise.nil, by simp, by simp⟩

section Canonical

variable {declared : List Param} {ps ps' : Params} {p : Param} {owner : Option QueryKind}

theorem Canonical.put {v : Option Setting} (h : Canonical declared ps) (hp : p ∈ declared)
    (hv : ∀ s, v = some s → s.Rereads p) : Canonical declared (ps.put p v) := by
  cases v with
  | none =>
    refine ⟨h.sorted.sublist List.filter_sublist, fun e he => ?_, fun e he => ?_⟩
    · exact h.mem_declared e (List.mem_of_mem_filter he)
    · exact h.rereads e (List.mem_of_mem_filter he)
  | some s =>
    refine ⟨sorted_putEntry h.sorted p s, fun e he => ?_, fun e he => ?_⟩
    · rcases mem_putEntry he with rfl | he
      · exact hp
      · exact h.mem_declared e he
    · rcases mem_putEntry he with rfl | he
      · exact hv s rfl
      · exact h.rereads e he

theorem Canonical.accept {v : Option Loose} (h : Canonical declared ps) (hp : p ∈ declared)
    (hv : ∀ l, v = some l → l.WellFormed) (ha : ps.accept p v owner = .ok ps') :
    Canonical declared ps' := by
  cases v with
  | none =>
    cases ha
    exact h.put hp (by simp)
  | some l =>
    obtain ⟨r, hr, rfl⟩ := Except.map_eq_ok.mp ha
    exact h.put hp fun s hs => Param.coerce_rereads (hv l rfl) (hs ▸ hr)

theorem Canonical.readOne {ms : Json.Members} (h : Canonical declared ps) (hp : p ∈ declared)
    (hr : ps.readOne owner ms p = .ok ps') : Canonical declared ps' := by
  unfold Params.readOne at hr
  split at hr
  · cases hr
    exact h
  · split at hr
    · cases hr
    · rename_i v hv
      exact h.accept hp (fun l hl => Loose.ofJson_wellFormed (hl ▸ hv)) hr

theorem Canonical.read {ms : Json.Members} {L : List Param} (hL : ∀ q ∈ L, q ∈ declared)
    (h : Canonical declared ps) (hr : ps.read L owner ms = .ok ps') : Canonical declared ps' := by
  induction L generalizing ps with
  | nil =>
    cases hr
    exact h
  | cons q rest ih =>
    simp only [Params.read, List.foldlM_cons] at hr
    obtain ⟨mid, hmid, hrest⟩ := Except.bind_eq_ok.mp hr
    exact ih (fun r hr => hL r (List.mem_cons_of_mem _ hr))
      (h.readOne (hL q List.mem_cons_self) hmid) hrest

/-- The settings read from any object are canonical for the declared parameters. -/
theorem ofMembers_canonical {ms : Json.Members} (h : ofMembers declared owner ms = .ok ps) :
    Canonical declared ps :=
  (canonical_empty declared).read (fun _ hq => hq) h

theorem Canonical.applyAll {given : ParamInput} {L : List Param} (hL : ∀ q ∈ L, q ∈ declared)
    (hg : ∀ e ∈ given, e.2.WellFormed) (h : Canonical declared ps)
    (ha : ps.applyAll L owner given = .ok ps') : Canonical declared ps' := by
  induction L generalizing ps with
  | nil =>
    cases ha
    exact h
  | cons q rest ih =>
    simp only [Params.applyAll, List.foldlM_cons] at ha
    obtain ⟨mid, hmid, hrest⟩ := Except.bind_eq_ok.mp ha
    refine ih (fun r hr => hL r (List.mem_cons_of_mem _ hr)) ?_ hrest
    split at hmid
    · cases hmid
      exact h
    · rename_i l hl
      obtain ⟨l₁, l₂, hgiven, -⟩ := List.lookup_eq_some_iff.mp hl
      have hmem : (q, l) ∈ given := hgiven ▸ List.mem_append_right l₁ List.mem_cons_self
      exact h.accept (hL q List.mem_cons_self) (fun l' hl' => by cases hl'; exact hg _ hmem) hmid

/-- The settings built from well-formed given values are canonical for the declared parameters. -/
theorem ofGiven_canonical {given : ParamInput} (hg : ∀ e ∈ given, e.2.WellFormed)
    (h : ofGiven declared owner given = .ok ps) : Canonical declared ps :=
  (canonical_empty declared).applyAll (fun _ hq => hq) hg h

end Canonical

section Reread

variable {target : Params} {ms : Json.Members} {owner : Option QueryKind}

theorem readOne_of_get? {p : Param} (hre : ∀ e ∈ target.entries, e.2.Rereads e.1)
    (hms : ms.get? p.key = (target.get? p).map Setting.toJson) (acc : Params) :
    acc.readOne owner ms p = .ok (match target.get? p with
      | some s => acc.put p (some s)
      | none => acc) := by
  unfold readOne
  cases ht : target.get? p with
  | none =>
    rw [ht] at hms
    simp [hms]
  | some s =>
    rw [ht] at hms
    obtain ⟨l, hl, hco⟩ := hre (p, s) (Keyed.mem_of_lookup_eq_some ht)
    simp [hms, hl, accept, hco owner]

theorem read_of_get? (owner : Option QueryKind) {L : List Param}
    (hre : ∀ e ∈ target.entries, e.2.Rereads e.1)
    (hms : ∀ p ∈ L, ms.get? p.key = (target.get? p).map Setting.toJson) (acc : Params)
    (hacc : Sorted acc.entries) :
    ∃ ps', acc.read L owner ms = .ok ps' ∧ Sorted ps'.entries ∧
      ∀ q, ps'.get? q = (if q ∈ L then target.get? q else none).or (acc.get? q) := by
  induction L generalizing acc with
  | nil => exact ⟨acc, rfl, hacc, by simp⟩
  | cons p rest ih =>
    have hrest : ∀ q ∈ rest, ms.get? q.key = (target.get? q).map Setting.toJson :=
      fun q hq => hms q (List.mem_cons_of_mem _ hq)
    simp only [read, List.foldlM_cons] at ih ⊢
    rw [readOne_of_get? hre (hms p List.mem_cons_self) acc, Except.ok_bind]
    -- after `p`, the target's setting of `p`, if it has one, is stored over `acc`
    cases ht : target.get? p with
    | none =>
      obtain ⟨ps', hread, hsorted, hget⟩ := ih hrest acc hacc
      refine ⟨ps', hread, hsorted, fun q => ?_⟩
      rw [hget q]
      by_cases hq : q = p
      · subst hq
        by_cases hr : q ∈ rest <;> simp [hr, ht]
      · by_cases hr : q ∈ rest <;> simp [hq, hr]
    | some s =>
      obtain ⟨ps', hread, hsorted, hget⟩ := ih hrest (acc.put p (some s)) (sorted_putEntry hacc p s)
      refine ⟨ps', hread, hsorted, fun q => ?_⟩
      rw [hget q, get?_put_some]
      by_cases hq : q = p
      · subst hq
        by_cases hr : q ∈ rest <;> simp [hr, ht]
      · by_cases hr : q ∈ rest <;> simp [hq, hr]

theorem ofMembers_of_get? {declared : List Param} (hc : Canonical declared target)
    (hms : ∀ p ∈ declared, ms.get? p.key = (target.get? p).map Setting.toJson) :
    ofMembers declared owner ms = .ok target := by
  obtain ⟨ps', hread, hsorted, hget⟩ :=
    read_of_get? owner hc.rereads hms {} List.Pairwise.nil
  rw [ofMembers, hread]
  -- both lists are sorted and agree on every lookup
  have hq : ∀ q, ps'.get? q = target.get? q := by
    intro q
    rw [hget q]
    by_cases hd : q ∈ declared
    · cases target.get? q <;> simp [hd, get?]
    · have hnone : target.get? q = none :=
        Keyed.lookup_eq_none fun e he heq => hd (heq ▸ hc.mem_declared e he)
      rw [if_neg hd, Option.none_or, hnone]
      rfl
  obtain ⟨es⟩ := ps'
  obtain ⟨ts⟩ := target
  rw [Keyed.eq_of_lookup Param.index_injective (a := es) (b := ts) hsorted hc.sorted hq]

end Reread

theorem get?_members_key (ps : Params) (L : List Param) (p : Param) :
    (Json.Members.ofList (ps.members L)).get? p.key =
      if p ∈ L then (ps.get? p).map Setting.toJson else none := by
  induction L with
  | nil => simp [members]
  | cons a rest ih =>
    have hcons : ps.members (a :: rest) =
        ((ps.get? a).map fun s => (a.key, s.toJson)).toList ++ ps.members rest := by
      simp only [members, List.filterMap_cons]
      cases ps.get? a <;> rfl
    rw [hcons, Json.Members.get?_ofList_append, ih]
    by_cases hpa : p = a
    · subst hpa
      by_cases hr : p ∈ rest <;> cases ps.get? p <;> simp [hr]
    · have hkey : a.key ≠ p.key := fun h => hpa (Param.key_injective h).symm
      by_cases hr : p ∈ rest <;> cases ps.get? a <;> simp [hr, hpa, hkey]

theorem get?_members_eq_none (ps : Params) (L : List Param) {k : String}
    (h : ∀ p ∈ L, p.key ≠ k) : (Json.Members.ofList (ps.members L)).get? k = none := by
  apply Json.Members.get?_ofList_eq_none
  intro m hm
  simp only [members, List.mem_filterMap, Option.map_eq_some_iff] at hm
  obtain ⟨p, hp, s, -, rfl⟩ := hm
  exact h p hp

end Params

end SearchDsl
