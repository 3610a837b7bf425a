import SearchDsl.Proofs.Param.Reread
/-!
The parameter registry in canonical form. Settings reach a holder only through `Params.accept`,
one parameter at a time, so whatever a sequence of accepts leaves behind is described by what a
single accept may store: a value of the parameter's domain other than its default.

From that follow the registry's promises. No default is ever stored, floats compared as numbers,
so "nothing stored" and "every value at its default" are one test. The members written for a list
of parameters read back, from nothing, as the settings of exactly those parameters. Reading a
written member again over the settings it came from changes nothing.
-/
set_option autoImplicit false

namespace SearchDsl

section FloatOrder

open Float.Model

theorem unpacked_compare_swap (a b : UnpackedFloat) :
    b.compare a = (a.compare b).map Ordering.swap := by
  rcases a with s | _ | s | ⟨s, m, e, hm⟩ <;> rcases b with t | _ | t | ⟨t, n, k, hn⟩ <;>
    (try cases s) <;> (try cases t) <;>
    simp only [UnpackedFloat.compare, Option.map_some, Option.map_none, Ordering.swap_then,
      Nat.compare_swap, Int.compare_swap] <;> rfl

theorem float_beq_comm (a b : Float) : (a == b) = (b == a) := by
  show (a.toModel.unpack.compare b.toModel.unpack == some .eq) =
    (b.toModel.unpack.compare a.toModel.unpack == some .eq)
  rw [unpacked_compare_swap a.toModel.unpack]
  cases a.toModel.unpack.compare b.toModel.unpack with
  | none => rfl
  | some o => cases o <;> rfl

theorem float_beq_eq_false_of_lt {a b : Float} (h : a < b) : (b == a) = false := by
  have hlt : (a.toModel.unpack.compare b.toModel.unpack == some .lt) = true := by
    simpa [LT.lt, Float.lt, Float.Model.lt, UnpackedFloat.lt] using h
  rw [float_beq_comm]
  show (a.toModel.unpack.compare b.toModel.unpack == some .eq) = false
  cases hc : a.toModel.unpack.compare b.toModel.unpack with
  | none => rfl
  | some o => cases o <;> simp_all

end FloatOrder

/-- Two settings hold the same value: they are equal, or they are floats equal as numbers, as
`-0.0` and `0.0` are. -/
def Setting.SameValue (s t : Setting) : Prop :=
  s = t ∨ ∃ a b, s = .real a ∧ t = .real b ∧ (a == b) = true

namespace Param

/-- The settings a parameter stores: a value of its domain other than its default. Floats are
finite, counts have 64 bits, a minimum score is above zero. -/
def Stores : Param → Setting → Prop
  | .boost, s => ∃ f, s = .real f ∧ f.isFinite = true ∧ 0 ≤ f ∧ (f == 1.0) = false
  | .maxBoost, s => ∃ f, s = .real f ∧ f.isFinite = true ∧ 0 ≤ f ∧ (f == maxBoostDefault) = false
  | .tieBreaker, s => ∃ f, s = .real f ∧ f.isFinite = true ∧ (0 ≤ f ∧ f ≤ 1) ∧ (f == 0.0) = false
  | .analyzer, s | .quoteAnalyzer, s | .fuzziness, s | .name, s | .timeZone, s | .format, s
  | .minimumShouldMatch, s => ∃ t, s = .text t ∧ t ≠ ""
  | .caseInsensitive, s | .lenient, s | .analyzeWildcard, s => s = .flag true
  | .transpositions, s | .fuzzyTranspositions, s | .autoGenerateSynonymsPhraseQuery, s
  | .allowLeadingWildcard, s => s = .flag false
  | .fuzzyRewrite, s | .rewrite, s => ∃ r, s = .rewrite r ∧ r ≠ .constantScore
  | .maxExpansions, s | .fuzzyMaxExpansions, s =>
    ∃ n, s = .count n ∧ Loose.fitsI64 n = true ∧ 1 ≤ n ∧ n ≠ 50
  | .prefixLength, s | .fuzzyPrefixLength, s | .slop, s =>
    ∃ n, s = .count n ∧ Loose.fitsI64 n = true ∧ 0 ≤ n ∧ n ≠ 0
  | .maxDeterminizedStates, s => ∃ n, s = .count n ∧ Loose.fitsI64 n = true ∧ 1 ≤ n ∧ n ≠ 10000
  | .operator, s | .defaultOperator, s => ∃ o, s = .operator o ∧ o ≠ .or
  | .relation, s => ∃ r, s = .relation r ∧ r ≠ .intersects
  | .zeroTermsQuery, s => ∃ z, s = .zeroTerms z ∧ z ≠ .none
  | .scoreMode, s => ∃ m, s = .scoreMode m ∧ m ≠ .multiply
  | .boostMode, s => ∃ m, s = .boostMode m ∧ m ≠ .multiply
  | .modifier, s => ∃ m, s = .modifier m ∧ m ≠ .none
  | .cutoffFrequency, s =>
    (∃ i, s = .number (.int i) ∧ Loose.fitsI64 i = true) ∨
      ∃ f, s = .number (.float f) ∧ f.isFinite = true
  | .minScore, s => ∃ f, s = .real f ∧ f.isFinite = true ∧ 0 < f
  | .weight, s => ∃ f, s = .real f ∧ f.isFinite = true

/-- Every setting a well-formed loose value gives a parameter is one the parameter stores. -/
theorem coerce_stores {p : Param} {l : Loose} {owner : Option QueryKind} {s : Setting}
    (hl : l.WellFormed) (h : p.coerce l owner = .ok (some s)) : p.Stores s := by
  rw [coerce_eq_some_iff] at h
  cases p <;> simp only [Coerces] at h
  case boost | maxBoost | tieBreaker =>
    obtain ⟨f, hf, hok, hne, rfl⟩ := h
    exact ⟨f, rfl, Loose.toF64?_isFinite hl hf, hok, hne⟩
  case minScore =>
    obtain ⟨f, hf, hpos, rfl⟩ := h
    exact ⟨f, rfl, Loose.toF64?_isFinite hl hf, hpos⟩
  case weight =>
    obtain ⟨f, hf, rfl⟩ := h
    exact ⟨f, rfl, Loose.toF64?_isFinite hl hf⟩
  case analyzer | quoteAnalyzer | fuzziness | name | timeZone | format =>
    obtain ⟨hne, rfl⟩ := h
    exact ⟨l.text, rfl, hne⟩
  case caseInsensitive | lenient | analyzeWildcard | transpositions | fuzzyTranspositions
      | autoGenerateSynonymsPhraseQuery | allowLeadingWildcard =>
    exact h.2.symm
  case fuzzyRewrite | rewrite =>
    obtain ⟨r, -, hne, rfl⟩ := h
    exact ⟨r, rfl, hne⟩
  case maxExpansions | fuzzyMaxExpansions | prefixLength | fuzzyPrefixLength | slop
      | maxDeterminizedStates =>
    obtain ⟨n, hn, hle, hne, rfl⟩ := h
    exact ⟨n, rfl, Loose.toI64?_fits hl hn, hle, hne⟩
  case operator | defaultOperator | relation | zeroTermsQuery | scoreMode | boostMode | modifier =>
    obtain ⟨v, -, hne, rfl⟩ := h
    exact ⟨v, rfl, hne⟩
  case minimumShouldMatch =>
    rcases h with ⟨i, -, rfl⟩ | ⟨t, -, hne, rfl⟩
    · exact ⟨toString i, rfl, Decimal.toString_int_ne_empty i⟩
    · exact ⟨Text.trim t, rfl, hne⟩
  case cutoffFrequency =>
    rcases h with ⟨i, rfl, rfl⟩ | ⟨-, f, hf, rfl⟩
    · exact .inl ⟨i, rfl, hl⟩
    · exact .inr ⟨f, rfl, Loose.toF64?_isFinite hl hf⟩

/-- A parameter never stores its default, floats compared as numbers. -/
theorem Stores.not_sameValue_default {p : Param} {s d : Setting} (hs : p.Stores s)
    (hd : p.default = some d) : ¬ s.SameValue d := by
  rintro (rfl | ⟨a, b, rfl, rfl, hab⟩)
  · cases p <;> simp only [default, Option.some.injEq, reduceCtorEq] at hd <;> subst hd
    case boost | maxBoost | tieBreaker =>
      obtain ⟨f, hf, -, -, hne⟩ := hs
      rw [← Setting.real.inj hf] at hne
      exact absurd hne (by decide +kernel)
    case minScore =>
      obtain ⟨f, hf, -, hpos⟩ := hs
      rw [← Setting.real.inj hf] at hpos
      exact absurd hpos (by decide)
    all_goals simp [Stores] at hs
  · cases p <;> simp only [default, Option.some.injEq, Setting.real.injEq, reduceCtorEq] at hd <;>
      subst hd
    case boost | maxBoost | tieBreaker =>
      obtain ⟨f, hf, -, -, hne⟩ := hs
      rw [Setting.real.inj hf, hne] at hab
      cases hab
    case minScore =>
      obtain ⟨f, hf, -, hpos⟩ := hs
      rw [Setting.real.inj hf] at hab
      -- the default is written `0.0`, the bound `0`: one float
      rw [show (0.0 : Float) = 0 by decide, float_beq_eq_false_of_lt hpos] at hab
      cases hab

end Param

namespace Params

/-- Settings reached from none by accepting loose values one parameter at a time, for any
parameters and owners. A loose integer has 64 bits. -/
inductive Reachable : Params → Prop
  | new : Reachable {}
  | accept {ps ps' : Params} {p : Param} {v : Option Loose} {owner : Option QueryKind} :
      Reachable ps → (∀ l, v = some l → l.WellFormed) → ps.accept p v owner = .ok ps' →
      Reachable ps'

def restrict (ps : Params) (L : List Param) : Params := ⟨ps.entries.filter fun e => e.1 ∈ L⟩

theorem get?_restrict (ps : Params) (L : List Param) (q : Param) :
    (ps.restrict L).get? q = if q ∈ L then ps.get? q else none := by
  simp only [restrict, get?]
  induction ps.entries with
  | nil => simp
  | cons e rest ih =>
    obtain ⟨p, s⟩ := e
    rw [List.filter_cons]
    by_cases hp : p ∈ L
    · rw [if_pos (by simpa using hp), Keyed.lookup_cons_eq_ite, ih, Keyed.lookup_cons_eq_ite]
      by_cases hq : q = p
      · subst hq
        simp [hp]
      · simp [hq]
    · rw [if_neg (by simpa using hp), ih, Keyed.lookup_cons_eq_ite]
      by_cases hq : q = p
      · subst hq
        simp [hp]
      · simp [hq]

theorem put_get? {ps : Params} {q : Param} {s : Setting} (hs : Sorted ps.entries)
    (h : ps.get? q = some s) : ps.put q (some s) = ps := by
  obtain ⟨es⟩ := ps
  show Params.mk (putEntry q s es) = Params.mk es
  congr 1
  refine Keyed.eq_of_lookup Param.index_injective (sorted_putEntry hs q s) hs fun r => ?_
  rw [lookup_putEntry]
  split
  · rename_i hr
    subst hr
    exact h.symm
  · rfl

theorem Reachable.canonical {ps : Params} (h : ps.Reachable) : Canonical Param.all ps := by
  induction h with
  | new => exact canonical_empty _
  | accept _ hv ha ih => exact ih.accept (Param.mem_all _) hv ha

/-- Every stored setting is one its parameter stores. -/
theorem Reachable.stores {ps : Params} (h : ps.Reachable) : ∀ e ∈ ps.entries, e.1.Stores e.2 := by
  induction h with
  | new => simp
  | @accept ps ps' p v owner _ hv ha ih =>
    cases v with
    | none =>
      cases ha
      exact fun e he => ih e (List.mem_of_mem_filter he)
    | some l =>
      obtain ⟨r, hr, rfl⟩ := Except.map_eq_ok.mp ha
      cases r with
      | none => exact fun e he => ih e (List.mem_of_mem_filter he)
      | some s =>
        intro e he
        rcases mem_putEntry he with rfl | he
        · exact Param.coerce_stores (hv l rfl) hr
        · exact ih e he

theorem isDefault_iff_of_stores {ps : Params} (h : ∀ e ∈ ps.entries, e.1.Stores e.2) :
    ps.isDefault = true ↔ ∀ q, Option.Rel Setting.SameValue (ps.value? q) q.default := by
  obtain ⟨es⟩ := ps
  cases es with
  | nil =>
    simp only [isDefault, List.isEmpty_nil, true_iff]
    intro q
    rw [show value? ⟨[]⟩ q = q.default from rfl]
    cases q.default with
    | none => exact .none
    | some d => exact .some (Or.inl rfl)
  | cons e rest =>
    obtain ⟨q, s⟩ := e
    simp only [isDefault, List.isEmpty_cons, Bool.false_eq_true, false_iff, not_forall]
    -- the first stored parameter reads its setting, which is not its default
    refine ⟨q, fun hrel => ?_⟩
    have hq : value? ⟨(q, s) :: rest⟩ q = some s := by
      simp [value?, get?]
    rw [hq] at hrel
    cases hd : q.default with
    | none => rw [hd] at hrel; cases hrel
    | some d =>
      rw [hd] at hrel
      cases hrel with
      | some hsd => exact (h (q, s) List.mem_cons_self).not_sameValue_default hd hsd

theorem ofMembers_members {ps : Params} (h : Canonical Param.all ps) (L : List Param)
    (owner : Option QueryKind) :
    ofMembers L owner (Json.Members.ofList (ps.members L)) = .ok (ps.restrict L) := by
  have hc : Canonical L (ps.restrict L) :=
    ⟨h.sorted.sublist List.filter_sublist,
      fun e he => by simpa using (List.mem_filter.mp he).2,
      fun e he => h.rereads e (List.mem_of_mem_filter he)⟩
  refine ofMembers_of_get? hc fun p hp => ?_
  rw [get?_members_key, if_pos hp, get?_restrict, if_pos hp]

theorem readOne_members {ps : Params} (h : Canonical Param.all ps) (L : List Param)
    (owner : Option QueryKind) (q : Param) :
    ps.readOne owner (Json.Members.ofList (ps.members L)) q = .ok ps := by
  have hms : (Json.Members.ofList (ps.members L)).get? q.key =
      ((ps.restrict L).get? q).map Setting.toJson := by
    rw [get?_members_key, get?_restrict]
    split <;> rfl
  have hre : ∀ e ∈ (ps.restrict L).entries, e.2.Rereads e.1 :=
    fun e he => h.rereads e (List.mem_of_mem_filter he)
  rw [readOne_of_get? hre hms ps]
  cases hr : (ps.restrict L).get? q with
  | none => rfl
  | some s =>
    dsimp only
    rw [get?_restrict] at hr
    split at hr
    · rw [put_get? h.sorted hr]
    · cases hr

/-- What the registry promises of the settings it holds. -/
structure Registered (ps : Params) : Prop where
  no_default : ∀ q s d, ps.get? q = some s → q.default = some d → ¬ s.SameValue d
  minScore_pos : ∀ s, ps.get? .minScore = some s → ∃ f, s = .real f ∧ 0 < f
  isDefault_iff :
    ps.isDefault = true ↔ ∀ q, Option.Rel Setting.SameValue (ps.value? q) q.default
  read_members : ∀ L owner,
    ofMembers L owner (Json.Members.ofList (ps.members L)) = .ok (ps.restrict L)
  readOne_members : ∀ L owner q,
    ps.readOne owner (Json.Members.ofList (ps.members L)) q = .ok ps

/-- Whatever sequence of accepts built the settings, the registry keeps its promises. -/
theorem Reachable.registered {ps : Params} (h : ps.Reachable) : ps.Registered where
  no_default q s _ hs hd := (h.stores (q, s) (Keyed.mem_of_lookup_eq_some hs)).not_sameValue_default hd
  minScore_pos s hs := by
    obtain ⟨f, rfl, -, hpos⟩ := h.stores (.minScore, s) (Keyed.mem_of_lookup_eq_some hs)
    exact ⟨f, rfl, hpos⟩
  isDefault_iff := isDefault_iff_of_stores h.stores
  read_members := ofMembers_members h.canonical
  readOne_members := readOne_members h.canonical

/-- An analyzer given by name is stored and registered. -/
theorem analyzer_registered :
    Reachable ⟨[(.analyzer, .text "standard")]⟩ ∧ Registered ⟨[(.analyzer, .text "standard")]⟩ :=
  have ha : ({} : Params).accept .analyzer (some (.str "standard")) none =
      .ok ⟨[(.analyzer, .text "standard")]⟩ := rfl
  have h : Reachable ⟨[(.analyzer, .text "standard")]⟩ :=
    .accept .new (fun _ hl => by cases hl; trivial) ha
  ⟨h, h.registered⟩

end Params

end SearchDsl
