import SearchDsl.Json.Reader
import SearchDsl.Proofs.Json.Canonical
/-!
Values read from text are canonical. The reader inserts the members of an object one by one in
key order, a later member of a key replacing an earlier one, so every object it builds is sorted
with each key once; numbers, strings and the literals hold no object at all. The induction runs
on the nesting depth the reader is allowed, the item and member loops on their fuel.
-/
set_option autoImplicit false

namespace SearchDsl.Json

theorem integerOf_canonical (neg : Bool) (s : Nat) : (readNumber.integerOf neg s).Canonical := by
  unfold readNumber.integerOf
  split
  · exact .int _
  · split
    · exact .int _
    · exact .float _

theorem canonical_of_map_float {x : Option Float} {rest r : List Char} {v : Json}
    (h : x.map (fun f => (Json.float f, rest)) = some (v, r)) : v.Canonical := by
  obtain ⟨f, -, hf⟩ := Option.map_eq_some_iff.mp h
  cases hf
  exact .float f

theorem readExponent_canonical {neg : Bool} {s : Nat} {e : Int} {cs r : List Char} {v : Json}
    (h : readExponent neg s e cs = some (v, r)) : v.Canonical := by
  unfold readExponent at h
  -- past the sign, a digit must follow, and each branch that reads a number reads a double
  split at h
  split at h
  · split at h
    · split at h
      · exact canonical_of_map_float h
      · split at h
        · cases h
        · obtain ⟨rfl, -⟩ := Prod.mk.inj (Option.some.inj h)
          exact .float _
    · cases h
  · cases h

theorem readNumber_canonical {cs r : List Char} {v : Json} (h : readNumber cs = some (v, r)) :
    v.Canonical := by
  unfold readNumber at h
  -- past the sign and the whole digits, a number is a double unless it is an integer
  split at h
  dsimp only at h
  split at h
  · cases h
  · split at h
    · -- a fraction, maybe with an exponent
      split at h
      · cases h
      · split at h
        · exact readExponent_canonical h
        · exact canonical_of_map_float h
      · exact canonical_of_map_float h
    · -- an exponent, or the end of an integer
      split at h
      · exact readExponent_canonical h
      · split at h
        · exact canonical_of_map_float h
        · obtain ⟨rfl, -⟩ := Prod.mk.inj (Option.some.inj h)
          exact integerOf_canonical _ _
    · split at h
      · exact canonical_of_map_float h
      · obtain ⟨rfl, -⟩ := Prod.mk.inj (Option.some.inj h)
        exact integerOf_canonical _ _

section Containers

variable {item : List Char → Option (Json × List Char)}

theorem readItems_canonical (hitem : ∀ {cs v r}, item cs = some (v, r) → v.Canonical) :
    ∀ (fuel : Nat) (cs : List Char) (acc : List Json) {items : List Json} {r : List Char},
      (∀ v ∈ acc, v.Canonical) → readItems item fuel cs acc = some (items, r) →
        ∀ v ∈ items, v.Canonical
  | 0, _, _, _, _, _, h => by cases h
  | fuel + 1, cs, acc, items, r, hacc, h => by
    unfold readItems at h
    split at h
    · cases h
    · rename_i v r₁ hv
      have hacc' : ∀ w ∈ v :: acc, w.Canonical := List.forall_mem_cons.mpr ⟨hitem hv, hacc⟩
      split at h
      · exact readItems_canonical hitem fuel _ _ hacc' h
      · obtain ⟨rfl, -⟩ := Prod.mk.inj (Option.some.inj h)
        exact fun w hw => hacc' w (List.mem_reverse.mp hw)
      · cases h

theorem readMembers_canonical (hitem : ∀ {cs v r}, item cs = some (v, r) → v.Canonical) :
    ∀ (fuel : Nat) (cs : List Char) (acc : Members) {ms : Members} {r : List Char},
      (acc.Pairwise fun a b => a.1 < b.1) → ValuesCanonical acc →
        readMembers item fuel cs acc = some (ms, r) → (Json.obj ms).Canonical
  | 0, _, _, _, _, _, _, h => by cases h
  | fuel + 1, cs, acc, ms, r, hsorted, hacc, h => by
    -- a member read is inserted in its place, keeping the members sorted and canonical
    have hins : ∀ k w, w.Canonical → ((acc.insert k w).Pairwise fun a b => a.1 < b.1) ∧
        ValuesCanonical (acc.insert k w) := fun k w hw =>
      ⟨Members.sorted_insert hsorted k w, fun p hp => by
        rcases Members.mem_insert hp with rfl | hp
        · exact hw
        · exact hacc p hp⟩
    unfold readMembers at h
    split at h
    · split at h
      · cases h
      · split at h
        · split at h
          · cases h
          · have hw := hitem ‹item _ = some _›
            split at h
            · exact readMembers_canonical hitem fuel _ _ (hins _ _ hw).1 (hins _ _ hw).2 h
            · obtain ⟨rfl, -⟩ := Prod.mk.inj (Option.some.inj h)
              exact .obj (hins _ _ hw).1 (hins _ _ hw).2
            · cases h
        · cases h
    · cases h

end Containers

/-- Every value the reader reads is canonical: its objects are built by sorted insertion. -/
theorem readValue_canonical : ∀ (d : Nat) {cs : List Char} {v : Json} {r : List Char},
    readValue d cs = some (v, r) → v.Canonical
  | 0, _, _, _, h => by cases h
  | d + 1, cs, v, r, h => by
    -- the nested values are read one level down, where the induction covers them
    have hitem : ∀ {cs v r}, readValue d cs = some (v, r) → v.Canonical := fun h =>
      readValue_canonical d h
    unfold readValue at h
    split at h
    case h_1 | h_2 | h_3 =>
      obtain ⟨rfl, -⟩ := Prod.mk.inj (Option.some.inj h)
      simp
    case h_4 =>
      obtain ⟨⟨s, r'⟩, -, hs⟩ := Option.map_eq_some_iff.mp h
      cases hs
      exact .str s
    case h_5 =>
      split at h
      · cases h
      · split at h
        · obtain ⟨rfl, -⟩ := Prod.mk.inj (Option.some.inj h)
          exact .arr fun w hw => by cases hw
        · obtain ⟨⟨items, r''⟩, hitems, hv⟩ := Option.map_eq_some_iff.mp h
          cases hv
          exact .arr (readItems_canonical hitem _ _ [] (fun w hw => by cases hw) hitems)
    case h_6 =>
      split at h
      · cases h
      · split at h
        · obtain ⟨rfl, -⟩ := Prod.mk.inj (Option.some.inj h)
          exact canonical_empty
        · obtain ⟨⟨ms, r''⟩, hms, hv⟩ := Option.map_eq_some_iff.mp h
          cases hv
          exact readMembers_canonical hitem _ _ [] List.Pairwise.nil ValuesCanonical.nil hms
    case h_7 => exact readNumber_canonical h

/-- A value read from text is canonical. -/
theorem parse_canonical {text : String} {v : Json} (h : parse text = some v) : v.Canonical := by
  unfold parse at h
  split at h
  · split at h
    · cases h
      exact readValue_canonical maxDepth ‹_›
    · cases h
  · cases h

end SearchDsl.Json
