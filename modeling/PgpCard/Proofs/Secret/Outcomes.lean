import PgpCard.Proofs.Card.Durable

/-!
# What an operation on secrets can come to

For each operation on the secrets there is a relation between its result, the secrets in memory
afterwards and the secrets in the store afterwards, with one constructor for each way in which it
can end: the writes it makes may be refused one by one.  `Secrets.Does` says that an operation
ends in one of these ways, whatever the store refuses.

* `Tries`  : one attempt at a secret (`Secrets.check`);
* `Verifies`, `Changes`, `ResetsPw1`, `ResetsWithCode` : the commands' rules on top of it;
* `Replaces` : a new record for a secret.
-/

set_option autoImplicit false

namespace PgpCard

namespace SecretRecord

/-- The record after one more attempt has been paid for. -/
def spent (record : SecretRecord) : SecretRecord :=
  { record with remaining := record.remaining - 1 }

/-- The record with all its attempts. -/
def restored (record : SecretRecord) : SecretRecord :=
  { record with remaining := record.limit }

/-- A record differs from another one in its attempts left only. -/
def SameValue (record record' : SecretRecord) : Prop :=
  record'.limit = record.limit ∧ record'.length = record.length ∧ record'.digest = record.digest

theorem SameValue.refl (record : SecretRecord) : record.SameValue record := ⟨rfl, rfl, rfl⟩

end SecretRecord

namespace Secrets

open Card SecretRecord

variable {ε α : Type}

/-- Begun with the same secrets in memory and in the store, an operation ends with a result and
with secrets in memory and in the store that are related; nothing else in the store changes. -/
def Does (act : Attempt ε (Kept Secrets FlakyStore) α) (secrets : Secrets)
    (related : Except ε α → Secrets → Secrets → Prop) : Prop :=
  ∀ kept : Persistent, kept.secrets = secrets →
    Durably act secrets kept fun r held kept' =>
      ∃ durable, kept' = { kept with secrets := durable } ∧ related r held durable

variable {act : Attempt ε (Kept Secrets FlakyStore) α} {secrets : Secrets}

/-! ## Records -/

/-- A secret gets a new record: memory has it, and the store has it unless it refuses. -/
inductive Replaces (secrets : Secrets) (id : SecretId) (record : SecretRecord) :
    Except StoreError Unit → Secrets → Secrets → Prop
  | done : Replaces secrets id record (.ok ()) (secrets.put id record) (secrets.put id record)
  | refused (e : StoreError) : Replaces secrets id record (.error e) (secrets.put id record) secrets

theorem persist_durably (secrets : Secrets) (id : SecretId) (kept : Persistent) :
    Durably (persist id) secrets kept fun r held kept' =>
      held = secrets ∧ Saved kept (kept.withSecret id (secrets.record id)) r kept' :=
  Durably.held_bind (durably_saveSecret id _)

theorem replace_does (secrets : Secrets) (id : SecretId) (record : SecretRecord) :
    Does (replace id record) secrets (Replaces secrets id record) := by
  rintro kept rfl
  refine Durably.adjust_bind ((persist_durably _ id _).mono ?_)
  rw [record_put, if_pos rfl]
  rintro r held kept' ⟨rfl, saved⟩
  cases saved with
  | done => exact ⟨_, rfl, .done⟩
  | refused e => exact ⟨_, rfl, .refused e⟩

theorem setValue_does (secrets : Secrets) (id : SecretId) (value : Bytes) :
    Does (setValue id value) secrets
      (Replaces secrets id (.ofValue value (secrets.record id).limit)) := fun kept same =>
  Durably.held_bind (replace_does secrets id _ kept same)

theorem clearCode_does (secrets : Secrets) :
    Does clearCode secrets (Replaces secrets .rc (.unset secrets.rc.limit)) := fun kept same =>
  Durably.held_bind (replace_does secrets .rc _ kept same)

theorem resetWithLimit_does (secrets : Secrets) (id : SecretId) (limit : UInt8) :
    Does (resetWithLimit id limit) secrets (Replaces secrets id (factoryRecord limit id)) :=
  replace_does secrets id _

/-! ## Attempts -/

/-- One attempt at a secret with a record: the result, the record in memory and the record in the
store. -/
inductive Tries (record : SecretRecord) (candidate : Bytes) :
    Except CardError Bool → SecretRecord → SecretRecord → Prop
  /-- No attempt is left. -/
  | blocked (none_left : record.isBlocked = true) :
    Tries record candidate (.error .authenticationBlocked) record record
  /-- The attempt could not be paid for. -/
  | unpaid (some_left : record.isBlocked = false) (e : StoreError) :
    Tries record candidate (.error (.storage e)) record.spent record
  | mismatch (some_left : record.isBlocked = false) (wrong : record.accepts candidate = false) :
    Tries record candidate (.ok false) record.spent record.spent
  /-- The candidate matches, but the attempts could not be given back. -/
  | unrestored (some_left : record.isBlocked = false) (right : record.accepts candidate = true)
    (e : StoreError) : Tries record candidate (.error (.storage e)) record.restored record.spent
  | matched (some_left : record.isBlocked = false) (right : record.accepts candidate = true) :
    Tries record candidate (.ok true) record.restored record.restored

theorem check_does (secrets : Secrets) (id : SecretId) (candidate : Bytes) :
    Does (check id candidate) secrets fun r held durable =>
      ∃ record record', Tries (secrets.record id) candidate r record record' ∧
        held = secrets.put id record ∧ durable = secrets.put id record' := by
  intro kept same
  refine Durably.held_bind ?_
  dsimp only
  split
  · rename_i none_left
    exact Durably.throw_bind
      ⟨secrets, by rw [← same], _, _, .blocked none_left, by simp, by simp⟩
  · rename_i some_left
    rw [Bool.not_eq_true] at some_left
    refine Durably.bind (Durably.mapError ((replace_does secrets id _ kept same).mono ?_))
    rintro r held kept' ⟨durable, rfl, replaced⟩
    cases replaced with
    | refused e =>
      exact ⟨secrets, rfl, _, _, .unpaid some_left e, rfl, by simp⟩
    | done =>
      refine Durably.note_bind ?_
      change Durably (if (secrets.record id).accepts candidate = true then _ else _) _ _ _
      split
      · rename_i right
        refine Durably.bind (Durably.mapError ((replace_does _ id _ _ (by rfl)).mono ?_))
        rintro r held kept' ⟨durable, rfl, replaced⟩
        cases replaced with
        | refused e =>
          exact ⟨_, rfl, _, _, .unrestored some_left right e, by simp [restored], rfl⟩
        | done =>
          exact Durably.pure
            ⟨_, rfl, _, _, .matched some_left right, by simp [restored], by simp [restored]⟩
      · rename_i wrong
        rw [Bool.not_eq_true] at wrong
        exact Durably.pure ⟨_, rfl, _, _, .mismatch some_left wrong, rfl, rfl⟩

/-! ## Rules on top of attempts -/

/-- What a verification reports after an attempt that left a record in memory. -/
def verdict (tried : Except CardError Bool) (record : SecretRecord) : Except CardError Unit :=
  match tried with
  | .ok true => .ok ()
  | .ok false =>
    .error (if record.isBlocked then .authenticationBlocked else .securityStatusNotSatisfied)
  | .error e => .error e

/-- The ways in which a verification can end. -/
inductive Verifies (secrets : Secrets) (id : SecretId) (candidate : Bytes) :
    Except CardError Unit → Secrets → Secrets → Prop
  | inadmissible (length : id.admits candidate.length = false) :
    Verifies secrets id candidate (.error .wrongData) secrets secrets
  | tried {tried : Except CardError Bool} {record record' : SecretRecord}
    (length : id.admits candidate.length = true)
    (tries : Tries (secrets.record id) candidate tried record record') :
    Verifies secrets id candidate (verdict tried record) (secrets.put id record)
      (secrets.put id record')

theorem verify_does (secrets : Secrets) (id : SecretId) (candidate : Bytes) :
    Does (verify id candidate) secrets (Verifies secrets id candidate) := by
  intro kept same
  unfold verify
  dsimp only
  split
  · rename_i length
    rw [Bool.not_eq_true'] at length
    exact Durably.throw_bind ⟨secrets, by rw [← same], .inadmissible length⟩
  · rename_i length
    rw [Bool.not_eq_true, Bool.not_eq_false'] at length
    refine Durably.bind ((check_does secrets id candidate kept same).mono ?_)
    rintro (e | matched) held kept' ⟨durable, rfl, record, record', tries, rfl, rfl⟩
    · exact ⟨_, rfl, .tried length tries⟩
    · cases matched with
      | true => exact Durably.pure ⟨_, rfl, .tried length tries⟩
      | false =>
        have ends := Verifies.tried length tries
        refine Durably.held_bind ?_
        rw [record_put, if_pos rfl]
        split
        · rename_i none_left
          rw [verdict, if_pos none_left] at ends
          exact Durably.throw_bind ⟨_, rfl, ends⟩
        · rename_i some_left
          rw [verdict, if_neg some_left] at ends
          exact Durably.throw ⟨_, rfl, ends⟩

/-- The ways in which a change of a secret can end.  The data is cut at the recorded length. -/
inductive Changes (secrets : Secrets) (id : SecretId) (old new : Bytes) :
    Except CardError Unit → Secrets → Secrets → Prop
  | malformed : Changes secrets id old new (.error .conditionsNotSatisfied) secrets secrets
  | failed {e : CardError} {record record' : SecretRecord}
    (tries : Tries (secrets.record id) old (.error e) record record') :
    Changes secrets id old new (.error e) (secrets.put id record) (secrets.put id record')
  | mismatch {record record' : SecretRecord}
    (tries : Tries (secrets.record id) old (.ok false) record record') :
    Changes secrets id old new (.error .conditionsNotSatisfied) (secrets.put id record)
      (secrets.put id record')
  | matched {record record' : SecretRecord} {r : Except StoreError Unit} {held durable : Secrets}
    (length : id.admits new.length = true)
    (tries : Tries (secrets.record id) old (.ok true) record record')
    (replaces : Replaces (secrets.put id record') id (.ofValue new (secrets.record id).limit)
      r held durable) :
    Changes secrets id old new (r.mapError .storage) held durable

theorem change_does (secrets : Secrets) (id : SecretId) (data : Bytes) :
    Does (change id data) secrets
      (Changes secrets id (data.take (secrets.record id).length.toNat)
        (data.drop (secrets.record id).length.toNat)) := by
  intro kept same
  refine Durably.held_bind ?_
  dsimp only
  split
  · exact Durably.throw_bind ⟨secrets, by rw [← same], .malformed⟩
  · split
    · exact Durably.throw_bind ⟨secrets, by rw [← same], .malformed⟩
    · rename_i length
      rw [Bool.not_eq_true, Bool.not_eq_false'] at length
      refine Durably.bind ((check_does secrets id _ kept same).mono ?_)
      rintro (e | matched) held kept' ⟨durable, rfl, record, record', tries, rfl, rfl⟩
      · exact ⟨_, rfl, .failed tries⟩
      · cases matched with
        | false => exact Durably.throw ⟨_, rfl, .mismatch tries⟩
        | true =>
          have := tries
          cases this
          refine Durably.mapError ((setValue_does _ id _ _ (by rfl)).mono ?_)
          rintro r held kept' ⟨durable, rfl, replaces⟩
          rw [record_put, if_pos rfl] at replaces
          exact ⟨_, rfl, .matched length tries replaces⟩

/-- The ways in which PW1 can be given a new value. -/
inductive ResetsPw1 (secrets : Secrets) (value : Bytes) :
    Except CardError Unit → Secrets → Secrets → Prop
  | inadmissible : ResetsPw1 secrets value (.error .wrongData) secrets secrets
  | admissible {r : Except StoreError Unit} {held durable : Secrets}
    (length : SecretId.pw1.admits value.length = true)
    (replaces : Replaces secrets .pw1 (.ofValue value secrets.pw1.limit) r held durable) :
    ResetsPw1 secrets value (r.mapError .storage) held durable

theorem resetPw1_does (secrets : Secrets) (value : Bytes) :
    Does (resetPw1 value) secrets (ResetsPw1 secrets value) := by
  intro kept same
  unfold resetPw1
  dsimp only
  split
  · exact Durably.throw_bind ⟨secrets, by rw [← same], .inadmissible⟩
  · rename_i length
    rw [Bool.not_eq_true, Bool.not_eq_false'] at length
    refine Durably.mapError ((setValue_does secrets .pw1 value kept same).mono ?_)
    rintro r held kept' ⟨durable, rfl, replaces⟩
    exact ⟨_, rfl, .admissible length replaces⟩

/-- The ways in which PW1 can be given a new value against the resetting code. -/
inductive ResetsWithCode (secrets : Secrets) (code value : Bytes) :
    Except CardError Unit → Secrets → Secrets → Prop
  | refused {e : CardError} (kind : e.isStorage = false) :
    ResetsWithCode secrets code value (.error e) secrets secrets
  | failed {e : CardError} {record record' : SecretRecord}
    (tries : Tries secrets.rc code (.error e) record record') :
    ResetsWithCode secrets code value (.error e) (secrets.put .rc record)
      (secrets.put .rc record')
  | mismatch {record record' : SecretRecord} (set : secrets.rc.isSet = true)
    (tries : Tries secrets.rc code (.ok false) record record') :
    ResetsWithCode secrets code value (.error .conditionsNotSatisfied) (secrets.put .rc record)
      (secrets.put .rc record')
  | matched {record record' : SecretRecord} {r : Except CardError Unit} {held durable : Secrets}
    (set : secrets.rc.isSet = true) (tries : Tries secrets.rc code (.ok true) record record')
    (resets : ResetsPw1 (secrets.put .rc record') value r held durable) :
    ResetsWithCode secrets code value r held durable

theorem resetWithCode_does (secrets : Secrets) (data : Bytes) :
    Does (resetWithCode data) secrets
      (ResetsWithCode secrets (data.take secrets.rc.length.toNat)
        (data.drop secrets.rc.length.toNat)) := by
  intro kept same
  refine Durably.held_bind ?_
  dsimp only
  split
  · exact Durably.throw_bind ⟨secrets, by rw [← same], .refused rfl⟩
  · rename_i set
    rw [Bool.not_eq_true, Bool.not_eq_false'] at set
    split
    · exact Durably.throw_bind ⟨secrets, by rw [← same], .refused rfl⟩
    · split
      · exact Durably.throw_bind ⟨secrets, by rw [← same], .refused rfl⟩
      · refine Durably.bind ((check_does secrets .rc _ kept same).mono ?_)
        rintro (e | matched) held kept' ⟨durable, rfl, record, record', tries, rfl, rfl⟩
        · exact ⟨_, rfl, .failed tries⟩
        · cases matched with
          | false => exact Durably.throw ⟨_, rfl, .mismatch set tries⟩
          | true =>
            have := tries
            cases this
            refine (resetPw1_does _ _ _ (by rfl)).mono ?_
            rintro r held kept' ⟨durable, rfl, resets⟩
            exact ⟨_, rfl, .matched set tries resets⟩

/-! ## Memory and store afterwards

Unless the store has failed, memory and store end with the same secrets. -/

section Settled

variable {id : SecretId} {held durable : Secrets}

theorem Replaces.settled {record : SecretRecord} {r : Except StoreError Unit}
    (h : Replaces secrets id record r held durable) : held = durable ∨ ∃ e, r = .error e := by
  cases h with
  | done => exact .inl rfl
  | refused e => exact .inr ⟨e, rfl⟩

theorem Tries.settled {record record' record'' : SecretRecord} {candidate : Bytes}
    {r : Except CardError Bool} (h : Tries record candidate r record' record'') :
    record' = record'' ∨ ∃ e, r = .error (.storage e) := by
  cases h with
  | blocked | mismatch | matched => exact .inl rfl
  | unpaid _ e | unrestored _ _ e => exact .inr ⟨e, rfl⟩

theorem Verifies.settled {candidate : Bytes} {r : Except CardError Unit}
    (h : Verifies secrets id candidate r held durable) :
    held = durable ∨ ∃ e, r = .error (.storage e) := by
  cases h with
  | inadmissible => exact .inl rfl
  | tried _ tries =>
    obtain rfl | ⟨e, rfl⟩ := tries.settled
    · exact .inl rfl
    · exact .inr ⟨e, rfl⟩

theorem Changes.settled {old new : Bytes} {r : Except CardError Unit}
    (h : Changes secrets id old new r held durable) :
    held = durable ∨ ∃ e, r = .error (.storage e) := by
  cases h with
  | malformed => exact .inl rfl
  | failed tries =>
    obtain rfl | ⟨e, same⟩ := tries.settled
    · exact .inl rfl
    · cases same
      exact .inr ⟨e, rfl⟩
  | mismatch tries =>
    obtain rfl | ⟨e, same⟩ := tries.settled
    · exact .inl rfl
    · cases same
  | matched _ _ replaces =>
    obtain rfl | ⟨e, rfl⟩ := replaces.settled
    · exact .inl rfl
    · exact .inr ⟨e, rfl⟩

theorem ResetsPw1.settled {value : Bytes} {r : Except CardError Unit}
    (h : ResetsPw1 secrets value r held durable) :
    held = durable ∨ ∃ e, r = .error (.storage e) := by
  cases h with
  | inadmissible => exact .inl rfl
  | admissible _ replaces =>
    obtain rfl | ⟨e, rfl⟩ := replaces.settled
    · exact .inl rfl
    · exact .inr ⟨e, rfl⟩

theorem ResetsWithCode.settled {code value : Bytes} {r : Except CardError Unit}
    (h : ResetsWithCode secrets code value r held durable) :
    held = durable ∨ ∃ e, r = .error (.storage e) := by
  cases h with
  | refused => exact .inl rfl
  | failed tries =>
    obtain rfl | ⟨e, same⟩ := tries.settled
    · exact .inl rfl
    · cases same
      exact .inr ⟨e, rfl⟩
  | mismatch _ tries =>
    obtain rfl | ⟨e, same⟩ := tries.settled
    · exact .inl rfl
    · cases same
  | matched _ _ resets => exact resets.settled

end Settled

/-! ## What stays of a secret -/

section Values

variable {held durable : Secrets}

/-- An attempt changes nothing but the attempts left. -/
theorem Tries.sameValue {record record' record'' : SecretRecord} {candidate : Bytes}
    {r : Except CardError Bool} (h : Tries record candidate r record' record'') :
    record.SameValue record' ∧ record.SameValue record'' := by
  cases h <;> exact ⟨⟨rfl, rfl, rfl⟩, rfl, rfl, rfl⟩

/-- Every secret has kept its value and its limit, or it may get a new value and has kept its
limit. -/
def Alters (allowed : SecretId → Prop) (secrets secrets' : Secrets) : Prop :=
  ∀ id, (secrets.record id).SameValue (secrets'.record id) ∨
    (secrets'.record id).limit = (secrets.record id).limit ∧ allowed id

variable {allowed : SecretId → Prop}

theorem Alters.refl (secrets : Secrets) : Alters allowed secrets secrets := fun _ =>
  .inl (.refl _)

theorem Alters.put {id : SecretId} {secrets' : Secrets} (h : Alters allowed secrets secrets')
    {record : SecretRecord}
    (new : (secrets.record id).SameValue record ∨
      record.limit = (secrets.record id).limit ∧ allowed id) :
    Alters allowed secrets (secrets'.put id record) := by
  intro other
  rw [record_put]
  split
  · rename_i same
    rwa [same]
  · exact h other

theorem Replaces.alters {id : SecretId} {secrets' : Secrets} {value : Bytes} {limit : UInt8}
    {r : Except StoreError Unit} (h : Replaces secrets' id (.ofValue value limit) r held durable)
    (before : Alters allowed secrets secrets') (same : limit = (secrets.record id).limit)
    (may : allowed id) : Alters allowed secrets held ∧ Alters allowed secrets durable := by
  cases h with
  | done => exact ⟨before.put (.inr ⟨same, may⟩), before.put (.inr ⟨same, may⟩)⟩
  | refused => exact ⟨before.put (.inr ⟨same, may⟩), before⟩

theorem Verifies.alters {id : SecretId} {candidate : Bytes} {r : Except CardError Unit}
    (h : Verifies secrets id candidate r held durable) :
    Alters allowed secrets held ∧ Alters allowed secrets durable := by
  cases h with
  | inadmissible => exact ⟨.refl _, .refl _⟩
  | tried _ tries =>
    have same := tries.sameValue
    exact ⟨(Alters.refl _).put (.inl same.1), (Alters.refl _).put (.inl same.2)⟩

/-- A change gives no new value but to the secret whose present value it was told. -/
theorem Changes.alters {id : SecretId} {old new : Bytes} {r : Except CardError Unit}
    (h : Changes secrets id old new r held durable)
    (may : (secrets.record id).isBlocked = false → (secrets.record id).accepts old = true →
      allowed id) :
    Alters allowed secrets held ∧ Alters allowed secrets durable := by
  cases h with
  | malformed => exact ⟨.refl _, .refl _⟩
  | failed tries | mismatch tries =>
    have same := tries.sameValue
    exact ⟨(Alters.refl _).put (.inl same.1), (Alters.refl _).put (.inl same.2)⟩
  | matched _ tries replaces =>
    have before : Alters allowed secrets (secrets.put id _) :=
      (Alters.refl _).put (.inl tries.sameValue.2)
    cases tries with
    | matched some_left right => exact replaces.alters before rfl (may some_left right)

theorem ResetsPw1.alters {secrets' : Secrets} {value : Bytes} {r : Except CardError Unit}
    (h : ResetsPw1 secrets' value r held durable) (before : Alters allowed secrets secrets')
    (same : secrets'.pw1.limit = secrets.pw1.limit) (may : allowed .pw1) :
    Alters allowed secrets held ∧ Alters allowed secrets durable := by
  cases h with
  | inadmissible => exact ⟨before, before⟩
  | admissible _ replaces => exact replaces.alters before same may

/-- A reset against the resetting code gives no new value but to PW1, and only if the code is set
and was told. -/
theorem ResetsWithCode.alters {code value : Bytes} {r : Except CardError Unit}
    (h : ResetsWithCode secrets code value r held durable)
    (may : secrets.rc.isSet = true → secrets.rc.isBlocked = false →
      secrets.rc.accepts code = true → allowed .pw1) :
    Alters allowed secrets held ∧ Alters allowed secrets durable := by
  cases h with
  | refused => exact ⟨.refl _, .refl _⟩
  | failed tries | mismatch _ tries =>
    have same := tries.sameValue
    exact ⟨(Alters.refl _).put (.inl same.1), (Alters.refl _).put (.inl same.2)⟩
  | matched set tries resets =>
    have before : Alters allowed secrets (secrets.put .rc _) :=
      (Alters.refl _).put (.inl tries.sameValue.2)
    cases tries with
    | matched some_left right => exact resets.alters before rfl (may set some_left right)

end Values

end Secrets

end PgpCard
