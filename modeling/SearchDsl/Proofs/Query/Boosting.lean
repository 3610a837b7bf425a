import SearchDsl.Query.Record
import SearchDsl.Proofs.Except
/-!
The order in which a boosting clause reports its faults.

Built from a record, a boosting clause checks its positive slot, then its negative slot, then its
negative boost, and reads its boost and name last: the first check that fails gives the error,
and any other fault is reported only once all three checks pass.

Read from a body, both slots are read before anything is required of them. A slot that cannot be
read is reported first, the positive one before the negative one. A body whose slots are absent
or hold no clause, and which gives no negative boost, is the empty clause. Otherwise the checks
follow in the order of the record: a positive query, a negative query, a negative boost in
(0, 1], and last the boost and name.
-/
set_option autoImplicit false

namespace SearchDsl

namespace Error

/-- An error blamed on a child slot: the slot's own required-kind error, or an error from inside
the slot, whose role starts with the slot's name. -/
def InSlot (e : Error) (required : ErrorKind) (slot : String) : Prop :=
  e.kind = required ∨ ∃ r, e.context.role = some r ∧ r.startsWith slot = true

theorem inSlot_withRole (e : Error) (required : ErrorKind) (slot : String) :
    (e.withRole slot).InSlot required slot := by
  refine .inr ⟨_, withRole_role e slot, ?_⟩
  cases e.context.role <;> simp [String.startsWith_string_iff, String.toList_append]

theorem inSlot_congr {e e' : Error} {required : ErrorKind} {slot : String} (hk : e'.kind = e.kind)
    (hr : e'.context.role = e.context.role) :
    e'.InSlot required slot ↔ e.InSlot required slot := by
  rw [InSlot, InSlot, hk, hr]

theorem kind_withJson (e : Error) (j : Json) : (e.withJson j).kind = e.kind := by
  unfold withJson
  split <;> rfl

theorem role_withJson (e : Error) (j : Json) : (e.withJson j).context.role = e.context.role := by
  unfold withJson
  split <;> rfl

end Error

namespace Boosting

/-- A negative boost that passes its check: a loose value that is a number in (0, 1]. -/
def BoostFits (nb : Option Loose) : Prop :=
  ∃ l f, nb = some l ∧ l.toF64? = some f ∧ 0 < f ∧ f ≤ 1

theorem negativeBoostOf_ok_iff (nb : Option Loose) :
    (∃ b, negativeBoostOf nb = .ok b) ↔ BoostFits nb := by
  constructor
  · rintro ⟨b, h⟩
    unfold negativeBoostOf at h
    split at h
    · cases h
    · rename_i l
      split at h
      · rename_i f hf
        split at h
        · rename_i hr
          simp only [Bool.and_eq_true, decide_eq_true_eq] at hr
          exact ⟨l, f, rfl, hf, hr.1, hr.2⟩
        · cases h
      · cases h
  · rintro ⟨l, f, rfl, hf, h0, h1⟩
    exact ⟨f, by simp [negativeBoostOf, hf, h0, h1]⟩

theorem negativeBoostOf_error {nb : Option Loose} {e : Error} (h : negativeBoostOf nb = .error e) :
    e.kind = .invalidNegativeBoost := by
  unfold negativeBoostOf at h
  split at h
  · cases h
    rfl
  · split at h
    · split at h
      · cases h
      · cases h
        rfl
    · cases h
      rfl

/-- A boosting result that reports its checks in order: the positive slot first, then the
negative slot, then the negative boost, and any other fault only once all three pass. -/
structure ChecksInOrder (positive negative : Except Error (Option Query)) (boostFits : Prop)
    (result : Except Error Clause) : Prop where
  positive_first : (∀ p, positive ≠ .ok (some p)) →
    ∃ e, result = .error e ∧ e.InSlot .positiveRequired "positive"
  negative_next : (∃ p, positive = .ok (some p)) → (∀ n, negative ≠ .ok (some n)) →
    ∃ e, result = .error e ∧ e.InSlot .negativeRequired "negative"
  boost_last : (∃ p, positive = .ok (some p)) → (∃ n, negative = .ok (some n)) →
    ¬ boostFits → ∃ e, result = .error e ∧ e.kind = .invalidNegativeBoost
  others_after : ∀ e, result = .error e → ¬ e.InSlot .positiveRequired "positive" →
    ¬ e.InSlot .negativeRequired "negative" → e.kind ≠ .invalidNegativeBoost →
    (∃ p, positive = .ok (some p)) ∧ (∃ n, negative = .ok (some n)) ∧ boostFits

namespace ChecksInOrder

variable {positive negative : Except Error (Option Query)} {boostFits : Prop}
  {result : Except Error Clause}

theorem of_positive {e : Error} (hp : ∀ p, positive ≠ .ok (some p)) (he : result = .error e)
    (hin : e.InSlot .positiveRequired "positive") :
    ChecksInOrder positive negative boostFits result where
  positive_first _ := ⟨e, he, hin⟩
  negative_next := fun ⟨p, h⟩ => absurd h (hp p)
  boost_last := fun ⟨p, h⟩ => absurd h (hp p)
  others_after _ he' hne := absurd (Except.error.inj (he'.symm.trans he) ▸ hin) hne

theorem of_negative {p : Query} {e : Error} (hp : positive = .ok (some p))
    (hn : ∀ n, negative ≠ .ok (some n)) (he : result = .error e)
    (hin : e.InSlot .negativeRequired "negative") :
    ChecksInOrder positive negative boostFits result where
  positive_first h := absurd hp (h p)
  negative_next _ _ := ⟨e, he, hin⟩
  boost_last _ := fun ⟨n, h⟩ => absurd h (hn n)
  others_after _ he' _ hne := absurd (Except.error.inj (he'.symm.trans he) ▸ hin) hne

theorem of_boost {p n : Query} (e : Error) (hp : positive = .ok (some p))
    (hn : negative = .ok (some n)) (he : result = .error e) (hk : e.kind = .invalidNegativeBoost) :
    ChecksInOrder positive negative boostFits result where
  positive_first h := absurd hp (h p)
  negative_next _ h := absurd hn (h n)
  boost_last _ _ _ := ⟨e, he, hk⟩
  others_after _ he' _ _ hne := absurd (Except.error.inj (he'.symm.trans he) ▸ hk) hne

theorem of_passed {p n : Query} (hp : positive = .ok (some p)) (hn : negative = .ok (some n))
    (hb : boostFits) : ChecksInOrder positive negative boostFits result where
  positive_first h := absurd hp (h p)
  negative_next _ h := absurd hn (h n)
  boost_last _ _ h := absurd hb h
  others_after _ _ _ _ _ := ⟨⟨p, hp⟩, ⟨n, hn⟩, hb⟩

theorem mapError {positive negative : Except Error (Option Query)} {boostFits : Prop}
    {result : Except Error Clause} (h : ChecksInOrder positive negative boostFits result)
    {f : Error → Error} (hk : ∀ e, (f e).kind = e.kind)
    (hr : ∀ e, (f e).context.role = e.context.role) :
    ChecksInOrder positive negative boostFits (result.mapError f) where
  positive_first hp := by
    obtain ⟨e, he, hin⟩ := h.positive_first hp
    exact ⟨f e, by rw [he]; rfl, (Error.inSlot_congr (hk e) (hr e)).mpr hin⟩
  negative_next hp hn := by
    obtain ⟨e, he, hin⟩ := h.negative_next hp hn
    exact ⟨f e, by rw [he]; rfl, (Error.inSlot_congr (hk e) (hr e)).mpr hin⟩
  boost_last hp hn hb := by
    obtain ⟨e, he, hkind⟩ := h.boost_last hp hn hb
    exact ⟨f e, by rw [he]; rfl, (hk e).trans hkind⟩
  others_after e' he' hp hn hb := by
    obtain ⟨e, he, rfl⟩ := Except.mapError_eq_error.mp he'
    exact h.others_after e he (fun hin => hp ((Error.inSlot_congr (hk e) (hr e)).mpr hin))
      (fun hin => hn ((Error.inSlot_congr (hk e) (hr e)).mpr hin))
      (fun hkind => hb ((hk e).trans hkind))

end ChecksInOrder

theorem buildSlot_error {role : String} {rs : Option (List ClauseRecord)} {e : Error}
    (h : ClauseRecord.buildSlot role rs = .error e) : ∃ e' : Error, e = e'.withRole role := by
  cases rs with
  | none => cases h
  | some rs =>
    rw [ClauseRecord.buildSlot] at h
    rcases Except.bind_eq_error.mp h with h | ⟨q, -, h⟩
    · cases hq : ClauseRecord.buildQuery rs .empty with
      | error e' =>
        rw [hq] at h
        exact ⟨e', (Except.error.inj h).symm⟩
      | ok q => rw [hq] at h; cases h
    · cases h

/-- A boosting clause built from a record checks its positive slot, its negative slot and its
negative boost in that order, and its boost and name only after them. -/
theorem build_checksInOrder (pos neg : Option (List ClauseRecord)) (nb : Option Loose)
    (given : ParamInput) :
    ChecksInOrder (ClauseRecord.buildSlot "positive" pos) (ClauseRecord.buildSlot "negative" neg)
      (BoostFits nb) (ClauseRecord.boosting pos neg nb given).build := by
  rw [ClauseRecord.build]
  cases hp : ClauseRecord.buildSlot "positive" pos with
  | error e =>
    obtain ⟨e', rfl⟩ := buildSlot_error hp
    exact .of_positive (fun _ h => by cases h) rfl (Error.inSlot_withRole e' _ _)
  | ok op =>
    cases op with
    | none => exact .of_positive (fun _ h => by cases h) rfl (.inl rfl)
    | some p =>
      cases hn : ClauseRecord.buildSlot "negative" neg with
      | error e =>
        obtain ⟨e', rfl⟩ := buildSlot_error hn
        exact .of_negative rfl (fun _ h => by cases h) rfl (Error.inSlot_withRole e' _ _)
      | ok on =>
        cases on with
        | none => exact .of_negative rfl (fun _ h => by cases h) rfl (.inl rfl)
        | some n =>
          cases hb : negativeBoostOf nb with
          | error e =>
            exact .of_boost _ rfl rfl rfl (negativeBoostOf_error hb)
          | ok b => exact .of_passed rfl rfl ((negativeBoostOf_ok_iff nb).mp ⟨b, hb⟩)

/-- A negative boost given in a body that passes its check: a loose value that is a number in
(0, 1]. -/
def RawFits (raw : Option Json) : Prop :=
  ∃ r nb, raw = some r ∧ Loose.ofJson r = .ok nb ∧ BoostFits nb

/-- A boosting result read from a body: an unreadable slot is reported first, the positive one
before the negative one; slots that hold nothing and no negative boost make the empty clause;
otherwise the checks run in order. -/
structure ReadsInOrder (positive negative : Except Error (Option Query)) (raw : Option Json)
    (result : Except Error Clause) : Prop where
  positive_unreadable : ∀ e, positive = .error e →
    ∃ e', result = .error e' ∧ e'.InSlot .positiveRequired "positive"
  negative_unreadable : ∀ op e, positive = .ok op → negative = .error e →
    ∃ e', result = .error e' ∧ e'.InSlot .negativeRequired "negative"
  empty_body : positive = .ok none → negative = .ok none → raw = none →
    result = .ok (Clause.empty .boosting)
  checks_in_order : ∀ op on, positive = .ok op → negative = .ok on →
    (op ≠ none ∨ on ≠ none ∨ raw ≠ none) →
    ChecksInOrder (.ok op) (.ok on) (RawFits raw) result

namespace ReadsInOrder

variable {positive negative : Except Error (Option Query)} {raw : Option Json}
  {result : Except Error Clause}

theorem of_positive {e₀ e : Error} (hp : positive = .error e₀) (he : result = .error e)
    (hin : e.InSlot .positiveRequired "positive") : ReadsInOrder positive negative raw result where
  positive_unreadable _ _ := ⟨e, he, hin⟩
  negative_unreadable op _ h := by rw [hp] at h; cases h
  empty_body h := by rw [hp] at h; cases h
  checks_in_order op _ h := by rw [hp] at h; cases h

theorem of_negative {op : Option Query} {e₀ e : Error} (hp : positive = .ok op)
    (hn : negative = .error e₀) (he : result = .error e)
    (hin : e.InSlot .negativeRequired "negative") : ReadsInOrder positive negative raw result where
  positive_unreadable _ h := by rw [hp] at h; cases h
  negative_unreadable _ _ _ _ := ⟨e, he, hin⟩
  empty_body _ h := by rw [hn] at h; cases h
  checks_in_order _ _ _ h := by rw [hn] at h; cases h

theorem of_read {op on : Option Query} (hp : positive = .ok op) (hn : negative = .ok on)
    (hempty : op = none → on = none → raw = none → result = .ok (Clause.empty .boosting))
    (hchecks : (op ≠ none ∨ on ≠ none ∨ raw ≠ none) →
      ChecksInOrder (.ok op) (.ok on) (RawFits raw) result) :
    ReadsInOrder positive negative raw result where
  positive_unreadable _ h := by rw [hp] at h; cases h
  negative_unreadable _ _ _ h := by rw [hn] at h; cases h
  empty_body h h' := by
    rw [hp] at h
    rw [hn] at h'
    exact hempty (Except.ok.inj h) (Except.ok.inj h')
  checks_in_order op' on' h h' := by
    rw [hp] at h
    rw [hn] at h'
    cases h
    cases h'
    exact hchecks

theorem mapError (h : ReadsInOrder positive negative raw result) {f : Error → Error}
    (hk : ∀ e, (f e).kind = e.kind) (hr : ∀ e, (f e).context.role = e.context.role) :
    ReadsInOrder positive negative raw (result.mapError f) where
  positive_unreadable e hp := by
    obtain ⟨e', he, hin⟩ := h.positive_unreadable e hp
    exact ⟨f e', by rw [he]; rfl, (Error.inSlot_congr (hk e') (hr e')).mpr hin⟩
  negative_unreadable op e hp hn := by
    obtain ⟨e', he, hin⟩ := h.negative_unreadable op e hp hn
    exact ⟨f e', by rw [he]; rfl, (Error.inSlot_congr (hk e') (hr e')).mpr hin⟩
  empty_body hp hn hraw := by rw [h.empty_body hp hn hraw]; rfl
  checks_in_order op on hp hn hsome := (h.checks_in_order op on hp hn hsome).mapError hk hr

end ReadsInOrder

theorem decodeSlot_error {ms : Json.Members} {role : String} {e : Error}
    (h : Query.decodeSlot ms role = .error e) : ∃ e' : Error, e = e'.withRole role := by
  unfold Query.decodeSlot at h
  split at h
  · cases h
  · split at h
    · cases h
    · rename_i e' _
      exact ⟨e', (Except.error.inj h).symm⟩

theorem decodeCompoundMembers_readsInOrder (ms : Json.Members) :
    ReadsInOrder (Query.decodeSlot ms "positive") (Query.decodeSlot ms "negative")
      (ms.get? "negative_boost") (Clause.decodeCompoundMembers .boosting ms) := by
  rw [Clause.decodeCompoundMembers]
  cases hp : Query.decodeSlot ms "positive" with
  | error e =>
    obtain ⟨e', rfl⟩ := decodeSlot_error hp
    exact .of_positive rfl rfl (Error.inSlot_withRole e' _ _)
  | ok op =>
    cases hn : Query.decodeSlot ms "negative" with
    | error e =>
      obtain ⟨e', rfl⟩ := decodeSlot_error hn
      exact .of_negative rfl rfl rfl (Error.inSlot_withRole e' _ _)
    | ok on =>
      refine .of_read rfl rfl (fun hop hon hraw => ?_) (fun hsome => ?_)
      · subst hop hon
        simp [hraw]
      · cases op with
        | none =>
          -- no positive query: whatever else is given, it is required first
          cases on with
          | none =>
            cases hraw : ms.get? "negative_boost" with
            | none => simp [hraw] at hsome
            | some r => exact .of_positive (fun _ h => by cases h) rfl (.inl rfl)
          | some n => exact .of_positive (fun _ h => by cases h) rfl (.inl rfl)
        | some p =>
          cases on with
          | none => exact .of_negative rfl (fun _ h => by cases h) rfl (.inl rfl)
          | some n =>
            cases hraw : ms.get? "negative_boost" with
            | none => exact .of_boost _ rfl rfl rfl rfl
            | some r =>
              cases hl : Loose.ofJson r with
              | error received =>
                -- a negative boost that is no loose value is refused as such
                exact .of_boost (((Error.ofKind .invalidNegativeBoost).withParam
                  "negative_boost").withReceived received) rfl rfl (by simp [hl]; rfl) rfl
              | ok nb =>
                cases hb : negativeBoostOf nb with
                | error e => exact .of_boost _ rfl rfl (by simp [hl, hb]) (negativeBoostOf_error hb)
                | ok b =>
                  have hfits := (negativeBoostOf_ok_iff nb).mp ⟨b, hb⟩
                  exact .of_passed rfl rfl ⟨r, nb, rfl, hl, hfits⟩

/-- A boosting body reads its slots first, then requires them in order; the clause and body named
around its errors change neither their kinds nor their roles. -/
theorem decodeBody_readsInOrder (ms : Json.Members) :
    ReadsInOrder (Query.decodeSlot ms "positive") (Query.decodeSlot ms "negative")
      (ms.get? "negative_boost") (Clause.decodeBody .boosting (.obj ms)) := by
  rw [Clause.decodeBody, Clause.decodeKind, Clause.decodeCompound]
  exact (decodeCompoundMembers_readsInOrder ms).mapError
    (fun e => Error.kind_withJson (e.withClause .boosting) (.obj ms))
    (fun e => Error.role_withJson (e.withClause .boosting) (.obj ms))

theorem decodeBody_of_negative_error {ms : Json.Members} {op : Option Query} {e : Error}
    (hp : Query.decodeSlot ms "positive" = .ok op)
    (hn : Query.decodeSlot ms "negative" = .error e) :
    Clause.decodeBody .boosting (.obj ms) =
      .error ((e.withClause .boosting).withJson (.obj ms)) := by
  rw [Clause.decodeBody, Clause.decodeKind, Clause.decodeCompound, Clause.decodeCompoundMembers,
    hp, hn]
  rfl

end Boosting

/-- A boosting clause reports its faults in order. Built from a record, it checks the positive
slot, then the negative slot, then the negative boost, and reports any other fault, such as one
of its boost or name, only once all three pass. Read from a body, it reads both slots first,
reporting an unreadable positive slot before an unreadable negative one; a body whose slots
hold nothing and which gives no negative boost is the empty clause; otherwise it runs the same
checks in the same order. -/
theorem boosting_reportsFaultsInOrder :
    (∀ (pos neg : Option (List ClauseRecord)) (nb : Option Loose) (given : ParamInput),
      Boosting.ChecksInOrder (ClauseRecord.buildSlot "positive" pos)
        (ClauseRecord.buildSlot "negative" neg) (Boosting.BoostFits nb)
        (ClauseRecord.boosting pos neg nb given).build) ∧
    (∀ ms : Json.Members,
      Boosting.ReadsInOrder (Query.decodeSlot ms "positive") (Query.decodeSlot ms "negative")
        (ms.get? "negative_boost") (Clause.decodeBody .boosting (.obj ms))) :=
  ⟨Boosting.build_checksInOrder, Boosting.decodeBody_readsInOrder⟩

/-- Read from a body, a boosting clause does not check in the order of the record: when the
positive query is missing, an unreadable negative slot is reported in its place, and a body
whose only slot holds null is the empty clause rather than a missing positive query. -/
theorem decodeBody_boosting_not_checksInOrder :
    ¬ Boosting.ChecksInOrder (Query.decodeSlot [("negative", .int 5)] "positive")
        (Query.decodeSlot [("negative", .int 5)] "negative") (Boosting.RawFits none)
        (Clause.decodeBody .boosting (.obj [("negative", .int 5)])) ∧
    ¬ Boosting.ChecksInOrder (Query.decodeSlot [("positive", .null)] "positive")
        (Query.decodeSlot [("positive", .null)] "negative") (Boosting.RawFits none)
        (Clause.decodeBody .boosting (.obj [("positive", .null)])) := by
  constructor
  · intro h
    have hpos : Query.decodeSlot [("negative", .int 5)] "positive" = .ok none := by
      simp only [Query.decodeSlot, Json.Members.get?, String.reduceEq, ↓dreduceIte,
        Json.Members.get?_nil]
    have hneg : Query.decodeSlot [("negative", .int 5)] "negative" = .error
        ((((Error.ofKind .invalidParams).withDetail "expected a query object").withJson
          (.int 5)).withRole "negative") := by
      simp only [Query.decodeSlot, Json.Members.get?, ↓dreduceIte, Query.decode]
    obtain ⟨e, he, hin⟩ := h.positive_first (fun p hp => by rw [hpos] at hp; cases hp)
    rw [Boosting.decodeBody_of_negative_error hpos hneg] at he
    cases he
    -- the error found is the negative slot's: of another kind, under the role `negative`
    rcases hin with hk | ⟨r, hr, hs⟩
    · rw [Error.kind_withJson] at hk
      cases hk
    · rw [Error.role_withJson] at hr
      cases hr
      simp [Error.role_withJson, Error.withDetail, Error.ofKind] at hs
  · intro h
    have hpos : Query.decodeSlot [("positive", .null)] "positive" = .ok none := by
      simp only [Query.decodeSlot, Json.Members.get?, ↓dreduceIte, Query.decode, Query.empty,
        Query.isEmpty, Query.clauses, List.all_nil, ↓reduceIte]
    have hneg : Query.decodeSlot [("positive", .null)] "negative" = .ok none := by
      simp only [Query.decodeSlot, Json.Members.get?, String.reduceEq, ↓dreduceIte,
        Json.Members.get?_nil]
    obtain ⟨e, he, -⟩ := h.positive_first (fun p hp => by rw [hpos] at hp; cases hp)
    rw [(Boosting.decodeBody_readsInOrder _).empty_body hpos hneg rfl] at he
    cases he

end SearchDsl
