import SearchDsl.Error
/-!
The JSON fragment an error keeps. An error names the compact text of the innermost JSON value
that failed. A text of more than `maxFragment` bytes is cut at its last character boundary within
`maxFragment` bytes and marked with `...`, so what is kept is still text (a `String` carries its
own UTF-8 validity) and has at most `maxFragment + 3` bytes.

`Fragment t f` says what is kept of the text `t` without reference to how it is computed: the
cut is at the last valid position of `t` within the budget (`LastBoundary`). `takeBytes`, which
walks the characters and stops at the first that does not fit, cuts exactly there
(`takeBytes_lastBoundary`). Main statement: `Error.withJson_keepsInnermostFragment`.
-/

namespace SearchDsl

/-- `p` is the last character boundary of `t` at or before byte `n`. -/
structure LastBoundary (t : String) (n : Nat) (p : t.Pos) : Prop where
  within : p.offset.byteIdx ≤ n
  last : ∀ q : t.Pos, q.offset.byteIdx ≤ n → q ≤ p

/-- What an error keeps of the text `t`: `t` itself when it has at most `maxFragment` bytes, else
the bytes of `t` before its last character boundary within `maxFragment` bytes, then `...`. -/
inductive Fragment (t : String) : String → Prop where
  | whole : t.utf8ByteSize ≤ maxFragment → Fragment t t
  | cut (p : t.Pos) : maxFragment < t.utf8ByteSize → LastBoundary t maxFragment p →
      Fragment t (t.extract t.startPos p ++ "...")

section Boundary

variable {t : String} {n : Nat} {p : t.Pos}

theorem LastBoundary.le_offset_add_three (hp : LastBoundary t n p) (hn : n ≤ t.utf8ByteSize) :
    n ≤ p.offset.byteIdx + 3 := by
  by_cases hend : p = t.endPos
  · subst hend
    simp only [String.offset_endPos, String.byteIdx_rawEndPos]
    omega
  · -- the boundary after `p` lies beyond byte `n`, else it would be a later boundary within `n`
    have hnext := String.Pos.byteIdx_offset_next p hend
    have hbeyond : n < (p.next hend).offset.byteIdx := by
      apply Nat.lt_of_not_le
      intro hle
      have hback := String.Pos.Raw.le_iff.1 (String.Pos.le_iff.1 (hp.last _ hle))
      have := (p.get hend).utf8Size_pos
      omega
    have := (p.get hend).utf8Size_le_four
    omega

theorem utf8ByteSize_extract_startPos :
    (t.extract t.startPos p).utf8ByteSize = p.offset.byteIdx := by
  have hle := String.Pos.Raw.le_iff.1 p.isValid.le_rawEndPos
  rw [← String.size_toByteArray, String.toByteArray_extract, ByteArray.size_extract]
  simp only [String.offset_startPos, String.Pos.Raw.byteIdx_zero, String.size_toByteArray,
    String.byteIdx_rawEndPos] at hle ⊢
  omega

end Boundary

section Bounds

variable {t f : String}

theorem utf8ByteSize_cut (p : t.Pos) :
    (t.extract t.startPos p ++ "...").utf8ByteSize = p.offset.byteIdx + 3 := by
  rw [String.utf8ByteSize_append, utf8ByteSize_extract_startPos]
  rfl

theorem Fragment.utf8ByteSize_le (h : Fragment t f) : f.utf8ByteSize ≤ maxFragment + 3 := by
  cases h with
  | whole hle => omega
  | cut p _ hp =>
    rw [utf8ByteSize_cut]
    have := hp.within
    omega

theorem Fragment.le_utf8ByteSize_of_cut (h : Fragment t f) (hlong : maxFragment < t.utf8ByteSize) :
    maxFragment ≤ f.utf8ByteSize := by
  cases h with
  | whole hle => omega
  | cut p _ hp =>
    rw [utf8ByteSize_cut]
    have := hp.le_offset_add_three (Nat.le_of_lt hlong)
    omega

end Bounds

section TakeBytes

theorem takeBytes_prefix (cs : List Char) (n : Nat) : takeBytes cs n <+: cs := by
  induction cs generalizing n with
  | nil => simp [takeBytes]
  | cons c rest ih =>
    simp only [takeBytes]
    split
    · exact List.cons_prefix_cons.2 ⟨rfl, ih _⟩
    · exact List.nil_prefix

theorem utf8ByteSize_takeBytes_le (cs : List Char) (n : Nat) :
    (String.ofList (takeBytes cs n)).utf8ByteSize ≤ n := by
  induction cs generalizing n with
  | nil => simp [takeBytes]
  | cons c rest ih =>
    simp only [takeBytes]
    split
    · have := ih (n - c.utf8Size)
      simp only [String.ofList_cons, String.utf8ByteSize_append, String.utf8ByteSize_singleton]
      omega
    · simp

theorem utf8ByteSize_take_le_takeBytes (cs : List Char) (n i : Nat)
    (hfit : (String.ofList (cs.take i)).utf8ByteSize ≤ n) :
    (String.ofList (cs.take i)).utf8ByteSize ≤ (String.ofList (takeBytes cs n)).utf8ByteSize := by
  induction cs generalizing n i with
  | nil => simp
  | cons c rest ih =>
    cases i with
    | zero => simp
    | succ i =>
      simp only [List.take_succ_cons, String.ofList_cons, String.utf8ByteSize_append,
        String.utf8ByteSize_singleton] at hfit ⊢
      have hc : c.utf8Size ≤ n := by omega
      have := ih (n - c.utf8Size) i (by omega)
      simp only [takeBytes, if_pos hc, String.ofList_cons, String.utf8ByteSize_append,
        String.utf8ByteSize_singleton]
      omega

/-- `takeBytes` cuts a text at its last character boundary within the budget. -/
theorem takeBytes_lastBoundary (t : String) (n : Nat) :
    ∃ p : t.Pos, LastBoundary t n p ∧
      String.ofList (takeBytes t.toList n) = t.extract t.startPos p := by
  obtain ⟨rest, hsplit⟩ := takeBytes_prefix t.toList n
  let head := takeBytes t.toList n
  have htake : head = t.toList.take head.length := by
    rw [← hsplit, List.take_left]
  have hvalid : (⟨(String.ofList head).utf8ByteSize⟩ : String.Pos.Raw).IsValid t :=
    String.Pos.Raw.isValid_iff_exists_take_toList.2 ⟨head.length, by rw [← htake]⟩
  refine ⟨⟨_, hvalid⟩, ⟨utf8ByteSize_takeBytes_le t.toList n, ?_⟩, ?_⟩
  · -- a boundary within the budget is the end of a head that fits
    intro q hq
    obtain ⟨i, hi⟩ := String.Pos.Raw.isValid_iff_exists_take_toList.1 q.isValid
    rw [hi] at hq
    have := utf8ByteSize_take_le_takeBytes t.toList n i hq
    rw [String.Pos.le_iff, String.Pos.Raw.le_iff, hi]
    exact this
  · -- the bytes of `t` are those of the head followed by those of the rest
    have ht : t = String.ofList head ++ String.ofList rest := by
      rw [← String.ofList_append, hsplit, String.ofList_toList]
    have hbytes :
        t.toByteArray = (String.ofList head).toByteArray ++ (String.ofList rest).toByteArray := by
      rw [← String.toByteArray_append, ← ht]
    apply String.toByteArray_inj.1
    rw [String.toByteArray_extract]
    simp only [String.offset_startPos, String.Pos.Raw.byteIdx_zero]
    rw [hbytes]
    exact (ByteArray.extract_append_eq_left String.size_toByteArray.symm).symm

end TakeBytes

/-- The fragment kept of a JSON value is `Fragment` of its compact text. -/
theorem fragment_spec (v : Json) : Fragment v.render (fragment v) := by
  dsimp only [fragment]
  split
  · exact .whole ‹_›
  · obtain ⟨p, hp, hcut⟩ := takeBytes_lastBoundary v.render maxFragment
    rw [hcut]
    exact .cut p (Nat.lt_of_not_le ‹_›) hp

namespace Error

theorem withJson_json_of_none {e : Error} (h : e.context.json = none) (v : Json) :
    (e.withJson v).context.json = some (fragment v) := by
  unfold withJson
  rw [h]

theorem withJson_of_some {e : Error} {f : String} (h : e.context.json = some f) (v : Json) :
    e.withJson v = e := by
  unfold withJson
  rw [h]

/-- An error without a fragment takes the fragment of the value's compact text: the whole text
when it has at most `maxFragment` bytes, else its head up to the last character boundary within
`maxFragment` bytes followed by `...`, which has `maxFragment` to `maxFragment + 3` bytes. An
error that has a fragment is left as it is, so the innermost value's fragment wins. -/
theorem withJson_keepsInnermostFragment (e : Error) (v : Json) :
    (e.context.json = none →
      ∃ f, (e.withJson v).context.json = some f ∧ Fragment v.render f ∧
        f.utf8ByteSize ≤ maxFragment + 3 ∧
        (maxFragment < v.render.utf8ByteSize → maxFragment ≤ f.utf8ByteSize)) ∧
    (∀ f, e.context.json = some f → e.withJson v = e) := by
  constructor
  · intro hnone
    have hspec := fragment_spec v
    exact ⟨fragment v, withJson_json_of_none hnone v, hspec, hspec.utf8ByteSize_le,
      hspec.le_utf8ByteSize_of_cut⟩
  · intro f hsome
    exact withJson_of_some hsome v

end Error

end SearchDsl
