import Mathlib.Data.Set.Function
import PgpCard.Proofs.Card.Cells
import PgpCard.Proofs.Secret.Plain
import PgpCard.Proofs.Store.Sturdy

/-!
# The secrets against the reference

On a store that takes every write the card's secrets do what the plaintext reference does, as long
as no two of the strings that it compares share a digest.

* `Secrets.Denotes` : what the records have to do with the plain secrets.
* `perform_agrees` : one operation on the records does what the reference does.
* `after_agrees`, `observe_agrees` : so does a sequence of operations.
* `refines_plaintext` : the same from a new card on, with what a change takes and leaves.
-/

set_option autoImplicit false

namespace PgpCard

open Attempt

theorem SecretId.le_maxLength_of_admits {id : SecretId} {length : Nat}
    (h : id.admits length = true) : length ≤ maxLength := by
  rw [admits, Bool.and_eq_true, decide_eq_true_eq, decide_eq_true_eq] at h
  exact h.2

/-! ## Records and plain secrets -/

/-- What a record has to do with a plain secret. -/
structure SecretRecord.Denotes (record : SecretRecord) (secret : PlainSecret) : Prop where
  limit : record.limit.toNat = secret.limit
  remaining : record.remaining.toNat = secret.remaining
  length : record.length.toNat = secret.length
  digest : ∀ value, secret.value = some value → record.digest = secretDigest value
  /-- Without a value there is nothing to try. -/
  unset : secret.value = none → secret.remaining = 0

namespace SecretRecord

/-- What is told about a secret. -/
def counts (record : SecretRecord) : SecretCounts where
  limit := record.limit.toNat
  remaining := record.remaining.toNat
  length := record.length.toNat

variable {record : SecretRecord} {secret : PlainSecret}

theorem ofValue_denotes {value : Bytes} (short : value.length ≤ SecretId.maxLength)
    (limit : UInt8) : (ofValue value limit).Denotes (.ofValue value limit.toNat) where
  limit := rfl
  remaining := rfl
  length := by
    have small : value.length < 256 := Nat.lt_of_le_of_lt short (by decide)
    change (UInt8.ofNat value.length).toNat = value.length
    rw [UInt8.toNat_ofNat', Nat.mod_eq_of_lt small]
  digest := by
    rintro _ ⟨⟩
    rfl
  unset := by
    rintro ⟨⟩

theorem unset_denotes (limit : UInt8) : (unset limit).Denotes (.unset limit.toNat) where
  limit := rfl
  remaining := rfl
  length := rfl
  digest := by
    rintro _ ⟨⟩
  unset _ := rfl

theorem factoryRecord_denotes (limit : UInt8) (id : SecretId) :
    (Secrets.factoryRecord limit id).Denotes (PlainSecrets.factorySecret limit.toNat id) := by
  cases id with
  | pw1 => exact ofValue_denotes (by decide) limit
  | pw3 => exact ofValue_denotes (by decide) limit
  | rc => exact unset_denotes limit

namespace Denotes

theorem counts (h : record.Denotes secret) : record.counts = secret.counts := by
  rw [SecretRecord.counts, PlainSecret.counts, h.limit, h.remaining, h.length]

theorem isBlocked (h : record.Denotes secret) : record.isBlocked = true ↔ secret.remaining = 0 := by
  rw [SecretRecord.isBlocked, beq_iff_eq, ← h.remaining, ← UInt8.toNat_inj]
  rfl

theorem isSet (h : record.Denotes secret) : record.isSet = true ↔ secret.length ≠ 0 := by
  rw [SecretRecord.isSet, decide_eq_true_eq, UInt8.lt_iff_toNat_lt, h.length]
  exact Nat.pos_iff_ne_zero

/-- The byte that counts the attempts does not wrap: none is taken from a blocked secret. -/
theorem spent (h : record.Denotes secret) (some_left : secret.remaining ≠ 0) :
    { record with remaining := record.remaining - 1 : SecretRecord }.Denotes
      { secret with remaining := secret.remaining - 1 } where
  limit := h.limit
  remaining := by
    have positive : 1 ≤ record.remaining.toNat := by
      have := h.remaining
      omega
    have one : (1 : UInt8) ≤ record.remaining := UInt8.le_iff_toNat_le.mpr positive
    change (record.remaining - 1).toNat = secret.remaining - 1
    rw [UInt8.toNat_sub_of_le _ _ one, h.remaining]
    rfl
  length := h.length
  digest := h.digest
  unset none_set := absurd (h.unset none_set) some_left

theorem restored (h : record.Denotes secret) (set : secret.value ≠ none) :
    { record with remaining := record.limit : SecretRecord }.Denotes
      { secret with remaining := secret.limit } where
  limit := h.limit
  remaining := h.limit
  length := h.length
  digest := h.digest
  unset none_set := absurd none_set set

/-- A record accepts the value that it stands for and nothing else, unless a digest is shared. -/
theorem accepts_iff (h : record.Denotes secret) (some_left : secret.remaining ≠ 0)
    {candidate : Bytes}
    (injective : ∀ value, secret.value = some value →
      secretDigest candidate = secretDigest value → candidate = value) :
    record.accepts candidate = true ↔ secret.value = some candidate := by
  obtain ⟨value, held⟩ := Option.ne_none_iff_exists'.mp fun none_set => some_left (h.unset none_set)
  rw [accepts, Bool.and_eq_true, beq_iff_eq, beq_iff_eq, h.digest value held, held]
  constructor
  · rintro ⟨-, digest⟩
    rw [injective value held digest]
  · rintro ⟨⟩
    refine ⟨?_, rfl⟩
    rw [h.length, PlainSecret.length, held]
    rfl

end Denotes

end SecretRecord

namespace Secrets

/-- The records stand for the plain secrets. -/
def Denotes (secrets : Secrets) (plain : PlainSecrets) : Prop :=
  ∀ id, (secrets.record id).Denotes (plain id)

theorem factory_denotes : factory.Denotes PlainSecrets.factory
  | .pw1 => SecretRecord.factoryRecord_denotes defaultLimit .pw1
  | .pw3 => SecretRecord.factoryRecord_denotes defaultLimit .pw3
  | .rc => SecretRecord.factoryRecord_denotes defaultLimit .rc

variable {secrets : Secrets} {plain : PlainSecrets}

theorem Denotes.put (h : secrets.Denotes plain) {id : SecretId} {record : SecretRecord}
    {secret : PlainSecret} (new : record.Denotes secret) :
    (secrets.put id record).Denotes (Function.update plain id secret) := by
  intro other
  rw [record_put, Function.update_apply]
  split
  · exact new
  · exact h other

/-- What is told about the secrets. -/
def counts (secrets : Secrets) : List SecretCounts :=
  SecretId.all.map fun id => (secrets.record id).counts

theorem Denotes.counts (h : secrets.Denotes plain) : secrets.counts = plain.counts :=
  List.map_congr_left fun id _ => (h id).counts

/-! ## Operations on a store that takes every write -/

variable {σ ε α : Type} {good : σ → Prop}

variable [Backend σ]

theorem persist_sturdily (sturdy : Sturdy good) (id : SecretId) :
    Sturdily good (persist id) secrets fun r secrets' => r = .ok () ∧ secrets' = secrets :=
  Sturdily.held_bind (Sturdily.writeBlob sturdy ⟨rfl, rfl⟩)

theorem replace_sturdily (sturdy : Sturdy good) (id : SecretId) (record : SecretRecord) :
    Sturdily good (replace id record) secrets fun r secrets' =>
      r = .ok () ∧ secrets' = secrets.put id record :=
  Sturdily.bind fun _ usable => ⟨usable, persist_sturdily sturdy id⟩

theorem makeFactory_sturdily (sturdy : Sturdy good) :
    Sturdily good makeFactory secrets fun r secrets' => r = .ok () ∧ secrets' = factory := by
  refine Sturdily.bind fun _ usable => ⟨usable, ?_⟩
  refine Sturdily.bind ((persist_sturdily sturdy .pw1).mono ?_)
  rintro _ _ ⟨rfl, rfl⟩
  refine Sturdily.bind ((persist_sturdily sturdy .pw3).mono ?_)
  rintro _ _ ⟨rfl, rfl⟩
  exact persist_sturdily sturdy .rc

/-- A result and records that are those of the reference. -/
def Agrees (reference : Except ε α × PlainSecrets) (r : Except ε α) (secrets : Secrets) : Prop :=
  r = reference.1 ∧ secrets.Denotes reference.2

omit [Backend σ] in
/-- A new record for a secret is a new plain secret. -/
theorem agrees_of_writes {act : Attempt StoreError (Kept Secrets σ) Unit} {id : SecretId}
    {record : SecretRecord} {secret : PlainSecret} (h : secrets.Denotes plain)
    (writes : Sturdily good act secrets fun r secrets' =>
      r = .ok () ∧ secrets' = secrets.put id record)
    (new : record.Denotes secret) :
    Sturdily good (act.mapError CardError.storage) secrets
      (Agrees (.ok (), Function.update plain id secret)) := by
  refine Sturdily.mapError (writes.mono ?_)
  rintro _ _ ⟨rfl, rfl⟩
  exact ⟨rfl, h.put new⟩

theorem setValue_agrees (sturdy : Sturdy good) (h : secrets.Denotes plain) (id : SecretId)
    {value : Bytes} (short : value.length ≤ SecretId.maxLength) :
    Sturdily good ((setValue id value).mapError CardError.storage) secrets
      (Agrees (.ok (), plain.setValue id value)) := by
  have new := SecretRecord.ofValue_denotes short (secrets.record id).limit
  rw [(h id).limit] at new
  exact agrees_of_writes h (Sturdily.held_bind (replace_sturdily sturdy id _)) new

theorem check_agrees (sturdy : Sturdy good) (h : secrets.Denotes plain) {id : SecretId}
    {candidate : Bytes}
    (injective : ∀ value, (plain id).value = some value →
      secretDigest candidate = secretDigest value → candidate = value) :
    Sturdily good (check id candidate) secrets (Agrees (plain.attempt id candidate)) := by
  refine Sturdily.held_bind ?_
  dsimp only
  unfold PlainSecrets.attempt
  dsimp only
  split
  · rename_i blocked
    rw [if_pos ((h id).isBlocked.mp blocked)]
    exact Sturdily.throw ⟨rfl, h⟩
  · rename_i open_
    have some_left : (plain id).remaining ≠ 0 := fun none_left =>
      open_ ((h id).isBlocked.mpr none_left)
    rw [if_neg some_left]
    have spent := (h id).spent some_left
    have accepts := (h id).accepts_iff some_left injective
    refine Sturdily.bind (Sturdily.mapError ((replace_sturdily sturdy id _).mono ?_))
    rintro _ _ ⟨rfl, rfl⟩
    refine Sturdily.bind fun store usable => ⟨sturdy.note _ usable _, ?_⟩
    change Sturdily good (if (secrets.record id).accepts candidate = true then _ else _) _ _
    split
    · rename_i right
      have value := accepts.mp right
      rw [if_pos value]
      have restored := spent.restored (value ▸ Option.some_ne_none candidate)
      refine Sturdily.bind (Sturdily.mapError ((replace_sturdily sturdy id _).mono ?_))
      rintro _ _ ⟨rfl, rfl⟩
      refine Sturdily.pure ⟨rfl, ?_⟩
      rw [put_put]
      exact h.put restored
    · rename_i wrong
      rw [if_neg fun value => wrong (accepts.mpr value)]
      exact Sturdily.pure ⟨rfl, h.put spent⟩

/-! ## The operations -/

theorem verify_agrees (sturdy : Sturdy good) (h : secrets.Denotes plain) {id : SecretId}
    {candidate : Bytes}
    (injective : ∀ value, (plain id).value = some value →
      secretDigest candidate = secretDigest value → candidate = value) :
    Sturdily good (verify id candidate) secrets (Agrees (plain.verify id candidate)) := by
  unfold verify PlainSecrets.verify
  dsimp only
  cases admissible : id.admits candidate.length with
  | false => exact Sturdily.throw ⟨rfl, h⟩
  | true =>
    refine Sturdily.bind ((check_agrees sturdy h injective).mono ?_)
    rintro r secrets' ⟨rfl, h'⟩
    rw [if_pos rfl]
    rcases tried : plain.attempt id candidate with ⟨e | matched, plain'⟩
    · rw [tried] at h'
      exact ⟨rfl, h'⟩
    · rw [tried] at h'
      cases matched with
      | true => exact Sturdily.pure ⟨rfl, h'⟩
      | false =>
        refine Sturdily.held_bind ?_
        dsimp only
        split
        · rename_i blocked
          rw [if_pos ((h' id).isBlocked.mp blocked)]
          exact Sturdily.throw ⟨rfl, h'⟩
        · rename_i open_
          rw [if_neg fun none_left => open_ ((h' id).isBlocked.mpr none_left)]
          exact Sturdily.throw ⟨rfl, h'⟩

theorem change_agrees (sturdy : Sturdy good) (h : secrets.Denotes plain) {id : SecretId}
    {data : Bytes}
    (injective : ∀ value, (plain id).value = some value →
      secretDigest (data.take (plain id).length) = secretDigest value →
        data.take (plain id).length = value) :
    Sturdily good (change id data) secrets (Agrees (plain.change id data)) := by
  refine Sturdily.held_bind ?_
  unfold PlainSecrets.change
  dsimp only
  rw [(h id).length, List.length_drop]
  split
  · rename_i short
    rw [if_neg fun fits : _ ∧ _ => Nat.not_le.mpr short fits.1]
    exact Sturdily.throw_bind ⟨rfl, h⟩
  · rename_i long
    split
    · rename_i inadmissible
      rw [Bool.not_eq_true'] at inadmissible
      rw [if_neg fun fits : _ ∧ _ => Bool.false_ne_true (inadmissible.symm.trans fits.2)]
      exact Sturdily.throw_bind ⟨rfl, h⟩
    · rename_i admissible
      rw [Bool.not_eq_true, Bool.not_eq_false'] at admissible
      rw [if_pos ⟨Nat.not_lt.mp long, admissible⟩]
      refine Sturdily.bind ((check_agrees sturdy h injective).mono ?_)
      rintro r secrets' ⟨rfl, h'⟩
      rcases tried : plain.attempt id _ with ⟨e | matched, plain'⟩
      · rw [tried] at h'
        exact ⟨rfl, h'⟩
      · rw [tried] at h'
        cases matched with
        | true =>
          refine setValue_agrees sturdy h' id ?_
          rw [List.length_drop]
          exact SecretId.le_maxLength_of_admits admissible
        | false => exact Sturdily.throw ⟨rfl, h'⟩

theorem resetPw1_agrees (sturdy : Sturdy good) (h : secrets.Denotes plain) (value : Bytes) :
    Sturdily good (resetPw1 value) secrets (Agrees (plain.resetPw1 value)) := by
  unfold resetPw1 PlainSecrets.resetPw1
  dsimp only
  cases admissible : SecretId.pw1.admits value.length with
  | false => exact Sturdily.throw ⟨rfl, h⟩
  | true => exact setValue_agrees sturdy h .pw1 (SecretId.le_maxLength_of_admits admissible)

theorem resetWithCode_agrees (sturdy : Sturdy good) (h : secrets.Denotes plain) {data : Bytes}
    (injective : ∀ value, (plain .rc).value = some value →
      secretDigest (data.take (plain .rc).length) = secretDigest value →
        data.take (plain .rc).length = value) :
    Sturdily good (resetWithCode data) secrets (Agrees (plain.resetWithCode data)) := by
  have code : (secrets.record .rc).Denotes (plain .rc) := h .rc
  refine Sturdily.held_bind ?_
  change Sturdily good (if (!(secrets.record .rc).isSet) = true then _ else
    if (secrets.record .rc).isBlocked = true then _ else
      if data.length < (secrets.record .rc).length.toNat then _ else
        check .rc (data.take (secrets.record .rc).length.toNat) >>= fun matched =>
          if matched = true then resetPw1 (data.drop (secrets.record .rc).length.toNat) else _) _ _
  unfold PlainSecrets.resetWithCode
  dsimp only
  rw [code.length]
  split
  · rename_i missing
    rw [Bool.not_eq_true', ← Bool.not_eq_true, code.isSet, not_not] at missing
    rw [if_pos missing]
    exact Sturdily.throw ⟨rfl, h⟩
  · rename_i set
    rw [Bool.not_eq_true', ← Bool.not_eq_true, code.isSet, not_not] at set
    rw [if_neg set]
    split
    · rename_i blocked
      rw [if_pos (code.isBlocked.mp blocked)]
      exact Sturdily.throw ⟨rfl, h⟩
    · rename_i open_
      rw [if_neg fun none_left => open_ (code.isBlocked.mpr none_left)]
      split
      · exact Sturdily.throw ⟨rfl, h⟩
      · refine Sturdily.bind ((check_agrees sturdy h injective).mono ?_)
        rintro r secrets' ⟨rfl, h'⟩
        rcases tried : plain.attempt .rc _ with ⟨e | matched, plain'⟩
        · rw [tried] at h'
          exact ⟨rfl, h'⟩
        · rw [tried] at h'
          cases matched with
          | true => exact resetPw1_agrees sturdy h' _
          | false => exact Sturdily.throw ⟨rfl, h'⟩

end Secrets

/-! ## Sequences of operations -/

namespace SecretOperation

open Secrets

variable {σ : Type} [Backend σ]

/-- The operation of the card. -/
def perform : SecretOperation → Attempt CardError (Kept Secrets σ) Unit
  | .verify id candidate => Secrets.verify id candidate
  | .change id data => Secrets.change id data
  | .resetWithCode data => Secrets.resetWithCode data
  | .resetPw1 value => Secrets.resetPw1 value
  | .setValue id value => (Secrets.setValue id value).mapError .storage
  | .clearCode => Secrets.clearCode.mapError .storage
  | .resetWithLimit id limit => (Secrets.resetWithLimit id limit).mapError .storage

/-- Memory and store after a sequence of operations. -/
def after (kept : Kept Secrets σ) (operations : List SecretOperation) : Kept Secrets σ :=
  operations.foldl (fun kept operation => operation.perform.reach kept) kept

/-- The results of a sequence of operations, each with what is told afterwards. -/
def observe (kept : Kept Secrets σ) :
    List SecretOperation → List (Except CardError Unit × List SecretCounts)
  | [] => []
  | operation :: rest =>
    let (r, kept') := operation.perform.ending kept
    (r, kept'.memory.counts) :: observe kept' rest

variable {good : σ → Prop} {secrets : Secrets} {plain : PlainSecrets}

/-- One operation does what the reference does. -/
theorem perform_agrees (sturdy : Sturdy good) (h : secrets.Denotes plain)
    {operation : SecretOperation} (short : operation.IsShort)
    (injective : Set.InjOn secretDigest {string | string ∈ plain.compared operation}) :
    Sturdily good operation.perform secrets (Agrees (plain.step operation)) := by
  cases operation with
  | verify id candidate =>
    refine verify_agrees sturdy h fun value held same => injective ?_ ?_ same
    · simp [PlainSecrets.compared]
    · simp [PlainSecrets.compared, held]
  | change id data =>
    refine change_agrees sturdy h fun value held same => injective ?_ ?_ same
    · simp [PlainSecrets.compared]
    · simp [PlainSecrets.compared, held]
  | resetWithCode data =>
    refine resetWithCode_agrees sturdy h fun value held same => injective ?_ ?_ same
    · simp [PlainSecrets.compared]
    · simp [PlainSecrets.compared, held]
  | resetPw1 value => exact resetPw1_agrees sturdy h value
  | setValue id value => exact setValue_agrees sturdy h id short
  | clearCode =>
    have new := SecretRecord.unset_denotes secrets.rc.limit
    rw [show secrets.rc.limit.toNat = _ from (h .rc).limit] at new
    exact agrees_of_writes h (Sturdily.held_bind (replace_sturdily sturdy .rc _)) new
  | resetWithLimit id limit =>
    exact agrees_of_writes h (replace_sturdily sturdy id _)
      (SecretRecord.factoryRecord_denotes limit id)

/-- What one operation preserves: the store stays good and the records go on standing for the
plain secrets. -/
theorem ending_perform (sturdy : Sturdy good) {kept : Kept Secrets σ} (usable : good kept.store)
    (h : kept.memory.Denotes plain) {operation : SecretOperation} (short : operation.IsShort)
    (injective : Set.InjOn secretDigest {string | string ∈ plain.compared operation}) :
    (operation.perform.ending kept).1 = (plain.step operation).1 ∧
      good (operation.perform.reach kept).store ∧
      (operation.perform.reach kept).memory.Denotes (plain.step operation).2 := by
  have agrees := leads_iff.mp (perform_agrees sturdy h short injective kept.store usable)
  rw [ending_snd] at agrees
  exact ⟨agrees.2.1, agrees.1, agrees.2.2⟩

theorem after_agrees (sturdy : Sturdy good) {kept : Kept Secrets σ} (usable : good kept.store)
    (h : kept.memory.Denotes plain) {operations : List SecretOperation}
    (short : ∀ operation ∈ operations, operation.IsShort)
    (injective : Set.InjOn secretDigest {string | string ∈ plain.strings operations}) :
    good (after kept operations).store ∧
      (after kept operations).memory.Denotes (plain.after operations) := by
  induction operations generalizing kept plain with
  | nil => exact ⟨usable, h⟩
  | cons operation rest ih =>
    obtain ⟨-, usable', h'⟩ := ending_perform sturdy usable h (short _ (.head _))
      (injective.mono fun _ => List.mem_append_left _)
    exact ih usable' h' (fun _ later => short _ (.tail _ later))
      (injective.mono fun _ => List.mem_append_right _)

theorem observe_agrees (sturdy : Sturdy good) {kept : Kept Secrets σ} (usable : good kept.store)
    (h : kept.memory.Denotes plain) {operations : List SecretOperation}
    (short : ∀ operation ∈ operations, operation.IsShort)
    (injective : Set.InjOn secretDigest {string | string ∈ plain.strings operations}) :
    observe kept operations = plain.observe operations := by
  induction operations generalizing kept plain with
  | nil => rfl
  | cons operation rest ih =>
    obtain ⟨result, usable', h'⟩ := ending_perform sturdy usable h (short _ (.head _))
      (injective.mono fun _ => List.mem_append_left _)
    have later := ih usable' h' (fun _ later => short _ (.tail _ later))
      (injective.mono fun _ => List.mem_append_right _)
    simp only [observe, PlainSecrets.observe, ending_snd, result, h'.counts, later]

end SecretOperation

namespace Secrets

open SecretOperation

variable {σ : Type} [Backend σ] {good : σ → Prop}

/-- From the secrets of a new card on, whatever the operations, the results and what is told about
the secrets are those of the reference, as long as no two of the strings that are compared share a
digest.  A change succeeds exactly on the present value followed by a new one of admissible length
while an attempt is left, and afterwards the secret has the new value with all its attempts. -/
theorem refines_plaintext (sturdy : Sturdy good) {store : σ} (usable : good store)
    (secrets : Secrets) {operations : List SecretOperation}
    (short : ∀ operation ∈ operations, operation.IsShort)
    (injective : Set.InjOn secretDigest
      {string | string ∈ PlainSecrets.factory.strings operations}) :
    ∃ start, makeFactory ⟨secrets, store⟩ = .ok () start ∧
      start.memory.counts = PlainSecrets.factory.counts ∧
      observe start operations = PlainSecrets.factory.observe operations ∧
      ∀ before id data rest, operations = before ++ .change id data :: rest →
        let plain := PlainSecrets.factory.after before
        let changed := (change id data).ending (SecretOperation.after start before)
        (changed.1 = .ok () ↔ (plain id).remaining ≠ 0 ∧
          ∃ old new, (plain id).value = some old ∧ data = old ++ new ∧
            id.admits new.length = true) ∧
        ∀ old new, (plain id).value = some old → data = old ++ new → changed.1 = .ok () →
          changed.2.memory.Denotes (plain.setValue id new) := by
  obtain ⟨_, start, made, good_start, -, initial⟩ :=
    Leads.exists_ok (makeFactory_sturdily sturdy store usable) (by rintro e final ⟨-, ⟨⟩, -⟩)
  have h : start.memory.Denotes PlainSecrets.factory := initial ▸ factory_denotes
  refine ⟨start, made, h.counts, observe_agrees sturdy good_start h short injective, ?_⟩
  rintro before id data rest rfl
  dsimp only
  rw [PlainSecrets.strings_append] at injective
  obtain ⟨good_now, now⟩ := after_agrees sturdy good_start h
    (fun _ earlier => short _ (List.mem_append_left _ earlier))
    (injective.mono fun _ => List.mem_append_left _)
  obtain ⟨result, -, then_⟩ := ending_perform sturdy good_now now
    (short _ (List.mem_append_right _ (.head _)))
    (injective.mono fun _ here => List.mem_append_right _ (List.mem_append_left _ here))
  change ((change id data).ending _).1 = (PlainSecrets.change _ id data).1 at result
  rw [result, ending_snd]
  refine ⟨PlainSecrets.change_ok_iff, ?_⟩
  rintro old new held rfl done
  obtain ⟨some_left, old', new', held', same, admissible⟩ := PlainSecrets.change_ok_iff.mp done
  obtain rfl : old = old' := Option.some.inj (held.symm.trans held')
  obtain rfl : new = new' := List.append_cancel_left same
  have renewed := PlainSecrets.change_of_value some_left held admissible
  rw [show PlainSecrets.step _ (.change id (old ++ new)) = _ from renewed] at then_
  exact then_

/-- A wrong value, a change, the old value and a new code, and then a reset against that code. -/
theorem refines_plaintext_change :
    let new := Bytes.ascii "654321"
    let code := Bytes.ascii "12345678"
    let operations : List SecretOperation := [.verify .pw1 new,
      .change .pw1 (defaultPw1 ++ new), .verify .pw1 defaultPw1, .setValue .rc code,
      .resetWithCode (code ++ defaultPw1), .verify .pw1 defaultPw1]
    ∃ start, makeFactory ⟨factory, MemoryStore.empty⟩ = .ok () start ∧
      observe start operations = PlainSecrets.factory.observe operations ∧
      (observe start operations).map Prod.fst =
        [.error .securityStatusNotSatisfied, .ok (), .error .securityStatusNotSatisfied, .ok (),
          .ok (), .ok ()] := by
  intro new code operations
  have short : ∀ operation ∈ operations, operation.IsShort := by decide
  have injective : Set.InjOn secretDigest
      {string | string ∈ PlainSecrets.factory.strings operations} := by
    have pairs : ∀ a ∈ PlainSecrets.factory.strings operations,
        ∀ b ∈ PlainSecrets.factory.strings operations,
          secretDigest a = secretDigest b → a = b := by decide +kernel
    exact fun a here b there => pairs a here b there
  obtain ⟨start, made, -, same, -⟩ :=
    refines_plaintext memoryStore_sturdy trivial factory short injective
  refine ⟨start, made, same, ?_⟩
  rw [same]
  rfl

end Secrets

end PgpCard
