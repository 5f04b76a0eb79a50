import PgpCard.Proofs.Secret.Outcomes

/-!
# Records that are well-formed

A record has a limit, no more attempts than that, and the length and the digest of one and the same
value; only the resetting code may have no value, and then it has no attempts either.

* `SecretRecord.WellFormed` says so of a record, with a predicate for the values that a secret may
  have; `Secrets.WellFormed` says so of all three records.
* An attempt, a change and a reset leave records that are well-formed, in memory and in the store,
  whatever the store refuses (`Tries.wellFormed`, `Verifies.wellFormed`, …): a value that is new is
  the one that was given.
-/

set_option autoImplicit false

namespace PgpCard

/-- The value that a secret has on a new card. -/
def SecretId.IsFirstValue (id : SecretId) (value : Bytes) : Prop :=
  id = .pw1 ∧ value = Secrets.defaultPw1 ∨ id = .pw3 ∧ value = Secrets.defaultPw3

namespace SecretRecord

/-- What a record of a secret stands for. -/
inductive Describes (id : SecretId) (given : Bytes → Prop) (record : SecretRecord) : Prop
  /-- There is no resetting code. -/
  | nothing (code : id = .rc) (length : record.length = 0) (remaining : record.remaining = 0)
    (digest : record.digest = [])
  /-- Length and digest are those of one value. -/
  | value {value : Bytes} (given : given value) (least : id.minLength ≤ value.length)
    (greatest : value.length ≤ SecretId.maxLength) (length : record.length.toNat = value.length)
    (digest : record.digest = Digest.sha256 value) (size : record.digest.length = 32)

/-- A record has a limit, no more attempts than that, and it describes a value among those that the
secret may have been given. -/
structure WellFormed (id : SecretId) (given : Bytes → Prop) (record : SecretRecord) : Prop where
  limit : 1 ≤ record.limit
  remaining : record.remaining ≤ record.limit
  describes : record.Describes id given

variable {id : SecretId} {given given' : Bytes → Prop} {record : SecretRecord}

theorem WellFormed.mono (h : record.WellFormed id given)
    (more : ∀ value, given value → given' value) : record.WellFormed id given' where
  limit := h.limit
  remaining := h.remaining
  describes := by
    cases h.describes with
    | nothing code length remaining digest => exact .nothing code length remaining digest
    | value known least greatest length digest size =>
      exact .value (more _ known) least greatest length digest size

theorem one_le_of_ne_zero {limit : UInt8} (nonzero : limit ≠ 0) : 1 ≤ limit := by
  rw [UInt8.le_iff_toNat_le]
  exact Nat.pos_of_ne_zero fun zero => nonzero (UInt8.toNat_inj.mp zero)

/-- The record of a new value of admissible length. -/
theorem wellFormed_ofValue {value : Bytes} {limit : UInt8} (some_left : 1 ≤ limit)
    (admissible : id.admits value.length = true) (known : given value) :
    (ofValue value limit).WellFormed id given where
  limit := some_left
  remaining := UInt8.le_refl _
  describes := by
    rw [SecretId.admits, Bool.and_eq_true, decide_eq_true_eq, decide_eq_true_eq] at admissible
    refine .value known admissible.1 admissible.2 ?_ rfl (Digest.length_sha256 _)
    rw [ofValue, UInt8.toNat_ofNat']
    exact Nat.mod_eq_of_lt (Nat.lt_of_le_of_lt admissible.2 (by decide))

theorem wellFormed_unset {limit : UInt8} (some_left : 1 ≤ limit) :
    (unset limit).WellFormed .rc given where
  limit := some_left
  remaining := UInt8.zero_le
  describes := .nothing rfl rfl rfl rfl

/-- A record without a value has no attempts. -/
theorem WellFormed.value_of_some_left (h : record.WellFormed id given)
    (some_left : record.isBlocked = false) :
    ∃ value, given value ∧ id.minLength ≤ value.length ∧ value.length ≤ SecretId.maxLength ∧
      record.length.toNat = value.length ∧ record.digest = Digest.sha256 value := by
  cases h.describes with
  | nothing _ _ remaining => simp [isBlocked, remaining] at some_left
  | value known least greatest length digest => exact ⟨_, known, least, greatest, length, digest⟩

/-- Attempts may be spent and given back on a record with a value. -/
theorem WellFormed.withRemaining (h : record.WellFormed id given)
    (some_left : record.isBlocked = false) {remaining : UInt8} (within : remaining ≤ record.limit) :
    ({ record with remaining } : SecretRecord).WellFormed id given where
  limit := h.limit
  remaining := within
  describes := by
    obtain ⟨value, known, least, greatest, length, digest⟩ := h.value_of_some_left some_left
    refine .value known least greatest length digest ?_
    rw [show ({ record with remaining } : SecretRecord).digest = record.digest from rfl, digest,
      Digest.length_sha256]

theorem WellFormed.spent (h : record.WellFormed id given) (some_left : record.isBlocked = false) :
    record.spent.WellFormed id given := by
  refine h.withRemaining some_left ?_
  have nonzero : record.remaining ≠ 0 := by simpa [isBlocked] using some_left
  have less : record.remaining - 1 ≤ record.remaining := by
    rw [UInt8.le_iff_toNat_le, UInt8.toNat_sub_of_le _ _ (one_le_of_ne_zero nonzero)]
    exact Nat.sub_le _ _
  exact UInt8.le_trans less h.remaining

theorem WellFormed.restored (h : record.WellFormed id given)
    (some_left : record.isBlocked = false) : record.restored.WellFormed id given :=
  h.withRemaining some_left (UInt8.le_refl _)

end SecretRecord

namespace Secrets

open SecretRecord

/-- All three records are well-formed. -/
def WellFormed (given : SecretId → Bytes → Prop) (secrets : Secrets) : Prop :=
  ∀ id, (secrets.record id).WellFormed id (given id)

variable {given given' : SecretId → Bytes → Prop} {secrets held durable : Secrets} {id : SecretId}

theorem WellFormed.mono (h : secrets.WellFormed given)
    (more : ∀ id value, given id value → given' id value) : secrets.WellFormed given' :=
  fun id => (h id).mono (more id)

theorem WellFormed.put (h : secrets.WellFormed given) {record : SecretRecord}
    (new : record.WellFormed id (given id)) : (secrets.put id record).WellFormed given := by
  intro other
  rw [record_put]
  split
  · rename_i same
    rwa [same]
  · exact h other

/-- The first record of a secret, with some limit. -/
theorem wellFormed_factoryRecord {given : Bytes → Prop} {limit : UInt8} (some_left : 1 ≤ limit)
    (first : ∀ value, id.IsFirstValue value → given value) :
    (factoryRecord limit id).WellFormed id given := by
  cases id with
  | pw1 => exact wellFormed_ofValue some_left (by decide) (first _ (.inl ⟨rfl, rfl⟩))
  | pw3 => exact wellFormed_ofValue some_left (by decide) (first _ (.inr ⟨rfl, rfl⟩))
  | rc => exact wellFormed_unset some_left

theorem wellFormed_factory (first : ∀ id value, id.IsFirstValue value → given id value) :
    factory.WellFormed given := by
  intro id
  have same : factory.record id = factoryRecord defaultLimit id := by cases id <;> rfl
  rw [same]
  exact wellFormed_factoryRecord (by decide) (first id)

/-! ## Operations

What memory holds afterwards may have been given values that the store has not taken, so there are
two predicates, one for either. -/

section Operations

variable {inMemory inStore : SecretId → Bytes → Prop}

theorem Replaces.wellFormed {record : SecretRecord} {r : Except StoreError Unit}
    (h : Replaces secrets id record r held durable) (before : secrets.WellFormed inMemory)
    (stored : secrets.WellFormed inStore) (new : record.WellFormed id (inMemory id))
    (done : r = .ok () → record.WellFormed id (inStore id)) :
    held.WellFormed inMemory ∧ durable.WellFormed inStore := by
  cases h with
  | done => exact ⟨before.put new, stored.put (done rfl)⟩
  | refused e => exact ⟨before.put new, stored⟩

/-- An attempt leaves a well-formed record. -/
theorem Tries.wellFormed {given : Bytes → Prop} {record record' record'' : SecretRecord}
    {candidate : Bytes} {r : Except CardError Bool} (h : Tries record candidate r record' record'')
    (before : record.WellFormed id given) :
    record'.WellFormed id given ∧ record''.WellFormed id given := by
  cases h with
  | blocked => exact ⟨before, before⟩
  | unpaid some_left => exact ⟨before.spent some_left, before⟩
  | mismatch some_left => exact ⟨before.spent some_left, before.spent some_left⟩
  | unrestored some_left => exact ⟨before.restored some_left, before.spent some_left⟩
  | matched some_left => exact ⟨before.restored some_left, before.restored some_left⟩

theorem Tries.wellFormed_put {record' record'' : SecretRecord} {candidate : Bytes}
    {r : Except CardError Bool} (h : Tries (secrets.record id) candidate r record' record'')
    (before : secrets.WellFormed inMemory) (stored : secrets.WellFormed inStore) :
    (secrets.put id record').WellFormed inMemory ∧ (secrets.put id record'').WellFormed inStore :=
  ⟨before.put (h.wellFormed (before id)).1, stored.put (h.wellFormed (stored id)).2⟩

theorem Verifies.wellFormed {candidate : Bytes} {r : Except CardError Unit}
    (h : Verifies secrets id candidate r held durable) (before : secrets.WellFormed inMemory)
    (stored : secrets.WellFormed inStore) :
    held.WellFormed inMemory ∧ durable.WellFormed inStore := by
  cases h with
  | inadmissible => exact ⟨before, stored⟩
  | tried _ tries => exact tries.wellFormed_put before stored

theorem Changes.wellFormed {old new : Bytes} {r : Except CardError Unit}
    (h : Changes secrets id old new r held durable) (before : secrets.WellFormed inMemory)
    (stored : secrets.WellFormed inStore) (known : inMemory id new)
    (done : r = .ok () → inStore id new) :
    held.WellFormed inMemory ∧ durable.WellFormed inStore := by
  cases h with
  | malformed => exact ⟨before, stored⟩
  | failed tries | mismatch tries => exact tries.wellFormed_put before stored
  | @matched record record' r _ _ length tries replaces =>
    have limit := (before id).limit
    obtain ⟨before', -⟩ := tries.wellFormed_put before stored
    obtain ⟨-, stored'⟩ := tries.wellFormed_put before stored
    cases tries
    refine replaces.wellFormed before' stored' (wellFormed_ofValue limit length known) fun ok => ?_
    exact wellFormed_ofValue limit length (done (by rw [ok]; rfl))

theorem ResetsPw1.wellFormed {value : Bytes} {r : Except CardError Unit}
    (h : ResetsPw1 secrets value r held durable) (before : secrets.WellFormed inMemory)
    (stored : secrets.WellFormed inStore) (known : inMemory .pw1 value)
    (done : r = .ok () → inStore .pw1 value) :
    held.WellFormed inMemory ∧ durable.WellFormed inStore := by
  cases h with
  | inadmissible => exact ⟨before, stored⟩
  | @admissible r _ _ length replaces =>
    have limit := (before .pw1).limit
    refine replaces.wellFormed before stored (wellFormed_ofValue limit length known) fun ok => ?_
    exact wellFormed_ofValue limit length (done (by rw [ok]; rfl))

theorem ResetsWithCode.wellFormed {code value : Bytes} {r : Except CardError Unit}
    (h : ResetsWithCode secrets code value r held durable) (before : secrets.WellFormed inMemory)
    (stored : secrets.WellFormed inStore) (known : inMemory .pw1 value)
    (done : r = .ok () → inStore .pw1 value) :
    held.WellFormed inMemory ∧ durable.WellFormed inStore := by
  cases h with
  | refused => exact ⟨before, stored⟩
  | failed tries | mismatch _ tries =>
    have tries : Tries (secrets.record .rc) _ _ _ _ := tries
    exact tries.wellFormed_put before stored
  | matched _ tries resets =>
    have tries' : Tries (secrets.record .rc) _ _ _ _ := tries
    obtain ⟨before', stored'⟩ := tries'.wellFormed_put before stored
    cases tries
    exact resets.wellFormed before' stored' known done

end Operations

/-! ## What is verified -/

/-- A secret has all its attempts. -/
def Full (secrets : Secrets) (id : SecretId) : Prop :=
  (secrets.record id).remaining = (secrets.record id).limit

/-- A verification that succeeds leaves all attempts. -/
theorem Verifies.full {candidate : Bytes} {r : Except CardError Unit}
    (h : Verifies secrets id candidate r held durable) (done : r = .ok ()) : held.Full id := by
  cases h with
  | inadmissible => cases done
  | tried _ tries =>
    cases tries with
    | blocked | unpaid | mismatch | unrestored => cases done
    | matched => simp [Full, restored]

/-- It changes the record of no other secret. -/
theorem Verifies.record_other {candidate : Bytes} {r : Except CardError Unit}
    (h : Verifies secrets id candidate r held durable) {other : SecretId} (apart : other ≠ id) :
    held.record other = secrets.record other := by
  cases h with
  | inadmissible => rfl
  | tried => rw [record_put, if_neg apart]

theorem Replaces.record_other {record : SecretRecord} {r : Except StoreError Unit}
    (h : Replaces secrets id record r held durable) {other : SecretId} (apart : other ≠ id) :
    held.record other = secrets.record other := by
  cases h with
  | done | refused => rw [record_put, if_neg apart]

theorem Changes.record_other {old new : Bytes} {r : Except CardError Unit}
    (h : Changes secrets id old new r held durable) {other : SecretId} (apart : other ≠ id) :
    held.record other = secrets.record other := by
  cases h with
  | malformed => rfl
  | failed | mismatch => rw [record_put, if_neg apart]
  | matched _ _ replaces =>
    exact (replaces.record_other apart).trans (by rw [record_put, if_neg apart])

/-- A reset of PW1 changes PW1 only, and only where it does not fail before the store does. -/
theorem ResetsPw1.record_of_other {value : Bytes} {r : Except CardError Unit}
    (h : ResetsPw1 secrets value r held durable) {other : SecretId}
    (apart : other ≠ .pw1 ∨ ∃ e, r = .error e ∧ e.isStorage = false) :
    held.record other = secrets.record other := by
  cases h with
  | inadmissible => rfl
  | admissible _ replaces =>
    cases replaces with
    | done =>
      have apart := apart.resolve_right (by rintro ⟨e, ⟨⟩, -⟩)
      rw [record_put, if_neg apart]
    | refused =>
      have apart := apart.resolve_right (by rintro ⟨e, ⟨⟩, ⟨⟩⟩)
      rw [record_put, if_neg apart]

theorem ResetsWithCode.record_of_other {code value : Bytes} {r : Except CardError Unit}
    (h : ResetsWithCode secrets code value r held durable) {other : SecretId}
    (tried : other ≠ .rc) (apart : other ≠ .pw1 ∨ ∃ e, r = .error e ∧ e.isStorage = false) :
    held.record other = secrets.record other := by
  cases h with
  | refused => rfl
  | failed | mismatch => rw [record_put, if_neg tried]
  | matched _ _ resets =>
    exact (resets.record_of_other apart).trans (by rw [record_put, if_neg tried])

end Secrets

end PgpCard
