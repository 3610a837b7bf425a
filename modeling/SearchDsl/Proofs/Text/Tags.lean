import SearchDsl.Tag
import Mathlib.Data.List.DropRight
import Mathlib.Tactic.SplitIfs
/-!
Texts that read back as themselves. The readers trim blanks and ignore ASCII case before they
match a tag, and read numerals digit by digit; the writers emit canonical spellings and decimal
digits. A written tag, a trimmed text and a numeral pass those readers unchanged, so every tag
set reads its own tags back.
-/
set_option autoImplicit false

namespace SearchDsl

namespace Text

theorem toList_trim (s : String) :
    (trim s).toList = List.rdropWhile isBlank (s.toList.dropWhile isBlank) := by
  simp [trim, List.rdropWhile]

theorem trim_eq_self {s : String} (h : ∀ c ∈ s.toList, isBlank c = false) : trim s = s := by
  have hd : s.toList.dropWhile isBlank = s.toList := by
    rw [List.dropWhile_eq_self_iff]
    intro hl
    simp [h _ (List.getElem_mem hl)]
  have hr : List.rdropWhile isBlank s.toList = s.toList := by
    rw [List.rdropWhile_eq_self_iff]
    intro hl
    simp [h _ (List.getLast_mem hl)]
  rw [← String.toList_inj, toList_trim, hd, hr]

/-- Trimming is idempotent: a trimmed text starts and ends with a character that is not blank. -/
theorem trim_trim (s : String) : trim (trim s) = trim s := by
  rw [← String.toList_inj, toList_trim, toList_trim]
  generalize hm : s.toList.dropWhile isBlank = m
  -- the right trim of `m` is a prefix of it, so it starts where `m` starts: not on a blank
  have hhead : (List.rdropWhile isBlank m).dropWhile isBlank = List.rdropWhile isBlank m := by
    rw [List.dropWhile_eq_self_iff]
    intro hl
    have hpre := List.rdropWhile_prefix (p := isBlank) (l := m)
    have hlm : 0 < m.length := Nat.lt_of_lt_of_le hl hpre.length_le
    rw [hpre.getElem hl]
    have := List.dropWhile_get_zero_not isBlank s.toList (by rw [hm]; exact hlm)
    simpa [hm] using this
  rw [hhead, List.rdropWhile_idempotent]

end Text

namespace Decimal

theorem asciiLower_beq_asciiLower (a b : String) :
    (asciiLower a == asciiLower b) = (a.toList.map Char.toLower == b.toList.map Char.toLower) := by
  rw [Bool.eq_iff_iff, beq_iff_eq, beq_iff_eq, ← String.toList_inj, asciiLower, asciiLower,
    String.toList_map, String.toList_map]

theorem asciiLower_eq_self {s : String} (h : ∀ c ∈ s.toList, c.toLower = c) : asciiLower s = s := by
  rw [← String.toList_inj, asciiLower, String.toList_map, List.map_congr_left h, List.map_id']

end Decimal

namespace Decimal

theorem digitsValue_toDigits (n : Nat) : digitsValue (Nat.toDigits 10 n) = n :=
  Nat.ofDigitChars_ten_toDigits

theorem toList_toString_nat (n : Nat) : (toString n).toList = Nat.toDigits 10 n := by
  rw [Nat.toString_eq_repr, Nat.toList_repr]

theorem isDigit_of_mem_toString {n : Nat} {c : Char} (h : c ∈ (toString n).toList) : c.isDigit := by
  rw [toList_toString_nat] at h
  exact Nat.isDigit_of_mem_toDigits (by decide) (by decide) h

theorem canonical_of_toNat {c : Char}
    (h : (0x20 < c.toNat ∧ c.toNat < 0x41) ∨ (0x5A < c.toNat ∧ c.toNat < 0x7F)) :
    Text.isBlank c = false ∧ c.toLower = c := by
  constructor
  · simp only [Text.isBlank]
    simp
    omega
  · unfold Char.toLower
    rw [dif_neg]
    rintro ⟨hA, hZ⟩
    have hA' := UInt32.le_iff_toNat_le.mp hA
    have hZ' := UInt32.le_iff_toNat_le.mp hZ
    rw [Char.toNat_val] at hA' hZ'
    simp at hA' hZ'
    omega

theorem canonical_of_all {s : String}
    (h : (s.toList.all fun c =>
      (0x20 < c.toNat && c.toNat < 0x41) || (0x5A < c.toNat && c.toNat < 0x7F)) = true)
    {c : Char} (hc : c ∈ s.toList) : Text.isBlank c = false ∧ c.toLower = c := by
  have hcode := List.all_eq_true.mp h c hc
  apply canonical_of_toNat
  simpa using hcode

theorem canonical_of_isDigit {c : Char} (h : c.isDigit = true) :
    Text.isBlank c = false ∧ c.toLower = c := by
  simp only [Char.isDigit, Bool.and_eq_true, decide_eq_true_eq] at h
  have h0 := UInt32.le_iff_toNat_le.mp h.1
  have h9 := UInt32.le_iff_toNat_le.mp h.2
  rw [Char.toNat_val] at h0 h9
  simp at h0 h9
  exact canonical_of_toNat (.inl ⟨by omega, by omega⟩)

theorem canonical_of_mem_toString_int {i : Int} {c : Char} (h : c ∈ (toString i).toList) :
    Text.isBlank c = false ∧ c.toLower = c := by
  cases i with
  | ofNat m => exact canonical_of_isDigit (isDigit_of_mem_toString (n := m) h)
  | negSucc m =>
    change c ∈ ("-" ++ toString (m + 1)).toList at h
    rw [String.toList_append, List.mem_append] at h
    rcases h with h | h
    · exact canonical_of_all (by decide) h
    · exact canonical_of_isDigit (isDigit_of_mem_toString h)

theorem trim_toString_int (i : Int) : Text.trim (toString i) = toString i :=
  Text.trim_eq_self fun _ hc => (canonical_of_mem_toString_int hc).1

theorem toString_int_ne_empty (i : Int) : toString i ≠ "" := by
  cases i with
  | ofNat m => exact Nat.repr_ne_empty
  | negSucc m =>
    change "-" ++ toString (m + 1) ≠ ""
    intro h
    simpa using congrArg String.toList h

theorem parseU32?_of_digits {cs : List Char} (hne : cs ≠ []) (hall : ∀ c ∈ cs, c.isDigit = true)
    (hlt : digitsValue cs < Nat.pow 2 32) : parseU32? (String.ofList cs) = some (digitsValue cs) := by
  unfold parseU32?
  split
  · -- a leading `+` is not a digit
    rename_i rest hplus
    rw [String.toList_ofList] at hplus
    have := hall '+' (by simp [hplus])
    simp at this
  · simp only [String.toList_ofList, List.isEmpty_eq_false_iff.mpr hne, List.all_eq_true.mpr hall,
      Bool.not_true, Bool.or_self, Bool.false_eq_true, if_false, hlt, if_true]

theorem parseU32?_toString {n : Nat} (h : n < Nat.pow 2 32) : parseU32? (toString n) = some n := by
  have hdigits := parseU32?_of_digits (Nat.toDigits_ne_nil (b := 10) (n := n))
    (fun _ hc => Nat.isDigit_of_mem_toDigits (by decide) (by decide) hc)
    (by rwa [digitsValue_toDigits])
  rwa [digitsValue_toDigits, ← toList_toString_nat, String.ofList_toList] at hdigits

theorem parseU32?_lt {s : String} {n : Nat} (h : parseU32? s = some n) : n < Nat.pow 2 32 := by
  unfold parseU32? at h
  dsimp only at h
  split_ifs at h with h1 h2
  · cases h
    exact h2

end Decimal

namespace Tagged

variable {α : Type} [Tagged α]

theorem parse_tag_of_find {v : α}
    (h : (all : List α).find? (fun w => (spellings w).any fun n =>
      n.toList.map Char.toLower == (Text.trim (tag v)).toList.map Char.toLower) = some v) :
    Tagged.parse (tag v) = .ok v := by
  have hfind : (all : List α).find? (fun w => names w (Text.trim (tag v))) = some v := by
    simpa only [Tagged.names, Decimal.asciiLower_beq_asciiLower] using h
  simp [Tagged.parse, hfind]

end Tagged

/-- A tag set whose canonical spellings read back as their own values. -/
class LawfulTagged (α : Type) [Tagged α] : Prop where
  parse_tag : ∀ v : α, Tagged.parse (Tagged.tag v) = .ok v

attribute [simp] LawfulTagged.parse_tag

instance : LawfulTagged Operator := ⟨fun v => by cases v <;> exact Tagged.parse_tag_of_find (by decide)⟩
instance : LawfulTagged ZeroTerms := ⟨fun v => by cases v <;> exact Tagged.parse_tag_of_find (by decide)⟩
instance : LawfulTagged Relation := ⟨fun v => by cases v <;> exact Tagged.parse_tag_of_find (by decide)⟩
instance : LawfulTagged Similarity :=
  ⟨fun v => by cases v <;> exact Tagged.parse_tag_of_find (by decide)⟩
instance : LawfulTagged IndexOptions :=
  ⟨fun v => by cases v <;> exact Tagged.parse_tag_of_find (by decide)⟩
instance : LawfulTagged Orientation :=
  ⟨fun v => by cases v <;> exact Tagged.parse_tag_of_find (by decide)⟩
instance : LawfulTagged TermVector :=
  ⟨fun v => by cases v <;> exact Tagged.parse_tag_of_find (by decide)⟩
instance : LawfulTagged BoostMode := ⟨fun v => by cases v <;> exact Tagged.parse_tag_of_find (by decide)⟩
instance : LawfulTagged ScoreMode := ⟨fun v => by cases v <;> exact Tagged.parse_tag_of_find (by decide)⟩
instance : LawfulTagged Modifier := ⟨fun v => by cases v <;> exact Tagged.parse_tag_of_find (by decide)⟩
instance : LawfulTagged Dynamic := ⟨fun v => by cases v <;> exact Tagged.parse_tag_of_find (by decide)⟩
instance : LawfulTagged MultiMatchType :=
  ⟨fun v => by cases v <;> exact Tagged.parse_tag_of_find (by decide)⟩
instance : LawfulTagged SpatialRelation :=
  ⟨fun v => by cases v <;> exact Tagged.parse_tag_of_find (by decide)⟩

namespace Rewrite

/-- A rewrite method whose term count has 32 bits, as every method read from a text has. -/
def Fits : Rewrite → Prop
  | topTermsBlendedFreqs n | topTermsBoost n | topTerms n => n < Nat.pow 2 32
  | _ => True

theorem parse_fits {s : String} {r : Rewrite} (h : parse s = .ok r) : r.Fits := by
  unfold parse at h
  dsimp only at h
  split_ifs at h
  · cases h; trivial
  · cases h; trivial
  · cases h; trivial
  · split at h
    · rename_i p mk hfind
      split at h
      · rename_i n hn
        cases h
        have hmem := List.mem_of_find?_eq_some hfind
        simp only [sized, List.mem_cons, Prod.mk.injEq, List.not_mem_nil, or_false] at hmem
        rcases hmem with ⟨-, rfl⟩ | ⟨-, rfl⟩ | ⟨-, rfl⟩ <;> exact Decimal.parseU32?_lt hn
      · cases h
    · cases h

-- the equations of `tag`, stated once: unfolding `tag` by its generated equations is slow
theorem tag_topTermsBlendedFreqs (n : Nat) :
    (topTermsBlendedFreqs n).tag = "top_terms_blended_freqs_" ++ toString n := rfl

theorem tag_topTermsBoost (n : Nat) : (topTermsBoost n).tag = "top_terms_boost_" ++ toString n :=
  rfl

theorem tag_topTerms (n : Nat) : (topTerms n).tag = "top_terms_" ++ toString n := rfl

theorem tag_canonical (r : Rewrite) :
    ∀ c ∈ r.tag.toList, Text.isBlank c = false ∧ c.toLower = c := by
  intro c hc
  cases r with
  | constantScore | constantScoreBoolean | scoringBoolean =>
    exact Decimal.canonical_of_all (by decide) hc
  | topTermsBlendedFreqs n | topTermsBoost n | topTerms n =>
    simp only [tag_topTermsBlendedFreqs, tag_topTermsBoost, tag_topTerms, String.toList_append,
      List.mem_append] at hc
    rcases hc with hc | hc
    · exact Decimal.canonical_of_all (by decide) hc
    · exact Decimal.canonical_of_isDigit (Decimal.isDigit_of_mem_toString hc)

theorem asciiLower_trim_tag (r : Rewrite) : Decimal.asciiLower (Text.trim r.tag) = r.tag := by
  rw [Text.trim_eq_self fun c hc => (tag_canonical r c hc).1,
    Decimal.asciiLower_eq_self fun c hc => (tag_canonical r c hc).2]

theorem append_ne_of_head? {p q : String} (s : String) (hp : p ≠ "")
    (h : p.toList.head? ≠ q.toList.head?) : p ++ s ≠ q := by
  intro heq
  apply h
  have hp' : p.toList ≠ [] := by rwa [ne_eq, String.toList_eq_nil_iff]
  obtain ⟨c, cs, hc⟩ := List.exists_cons_of_ne_nil hp'
  rw [← heq, String.toList_append, hc, List.cons_append, List.head?_cons, List.head?_cons]

theorem drop_length_append_toString (pre : String) (n : Nat) :
    String.ofList ((pre ++ toString n).toList.drop pre.length) = toString n := by
  rw [String.toList_append, ← String.length_toList, List.drop_left, String.ofList_toList]

/-- The written method of a fitting count reads back as the method. -/
theorem parse_tag {r : Rewrite} (h : r.Fits) : parse r.tag = .ok r := by
  unfold parse
  simp only [asciiLower_trim_tag]
  cases r with
  | constantScore => rfl
  | constantScoreBoolean => rfl
  | scoringBoolean => rfl
  | topTermsBlendedFreqs n =>
    rw [tag_topTermsBlendedFreqs, if_neg (append_ne_of_head? _ (by decide) (by decide)),
      if_neg (append_ne_of_head? _ (by decide) (by decide)),
      if_neg (append_ne_of_head? _ (by decide) (by decide))]
    have hfind : sized.find? (fun p => ("top_terms_blended_freqs_" ++ toString n).startsWith p.1) =
        some ("top_terms_blended_freqs_", topTermsBlendedFreqs) := by
      simp [sized, String.startsWith_string_iff]
    rw [hfind]
    dsimp only
    rw [drop_length_append_toString, Decimal.parseU32?_toString h]
  | topTermsBoost n =>
    rw [tag_topTermsBoost, if_neg (append_ne_of_head? _ (by decide) (by decide)),
      if_neg (append_ne_of_head? _ (by decide) (by decide)),
      if_neg (append_ne_of_head? _ (by decide) (by decide))]
    have hfind : sized.find? (fun p => ("top_terms_boost_" ++ toString n).startsWith p.1) =
        some ("top_terms_boost_", topTermsBoost) := by
      simp [sized, String.startsWith_string_iff, String.toList_append]
    rw [hfind]
    dsimp only
    rw [drop_length_append_toString, Decimal.parseU32?_toString h]
  | topTerms n =>
    rw [tag_topTerms, if_neg (append_ne_of_head? _ (by decide) (by decide)),
      if_neg (append_ne_of_head? _ (by decide) (by decide)),
      if_neg (append_ne_of_head? _ (by decide) (by decide))]
    -- the count starts with a digit where the longer prefixes go on with `b`
    obtain ⟨d, ds, hd⟩ := List.exists_cons_of_ne_nil (Nat.toDigits_ne_nil (b := 10) (n := n))
    have hdigit : d.isDigit = true :=
      Nat.isDigit_of_mem_toDigits (by decide) (by decide) (hd ▸ List.mem_cons_self)
    have hb : 'b' ≠ d := fun hdb => by simp [← hdb] at hdigit
    have hfind : sized.find? (fun p => ("top_terms_" ++ toString n).startsWith p.1) =
        some ("top_terms_", topTerms) := by
      simp [sized, String.startsWith_string_iff, hd, hb]
    rw [hfind]
    dsimp only
    rw [drop_length_append_toString, Decimal.parseU32?_toString h]

end Rewrite

theorem QueryKind.parse_tag (k : QueryKind) : QueryKind.parse k.tag = .ok k := by
  simp [QueryKind.parse, QueryKind.ofTag?_tag]

end SearchDsl
