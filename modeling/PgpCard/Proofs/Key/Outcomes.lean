import PgpCard.Proofs.Card.Durable
import PgpCard.Proofs.Rsa.Rebuild

/-!
# What an operation on the key slots can come to

As for the secrets, each operation on the key slots has a relation between its result, the slots
in memory afterwards and the slots in the store afterwards.  Slots are written to the store first,
so a refused write leaves both as they were.

* `Commits`, `Generates`, `Imports`, `Signs` : the operations that write;
* `useKey_does` : deciphering and authentication write nothing;
* `Become` : what the operations can make of each slot.
-/

set_option autoImplicit false

namespace PgpCard

namespace KeySlots

open Card

variable {ε α : Type}

/-- Begun with the same slots in memory and in the store, an operation ends with a result and with
slots in memory and in the store that are related; nothing else in the store changes. -/
def Does (act : Attempt ε (Kept KeySlots FlakyStore) α) (keys : KeySlots)
    (related : Except ε α → KeySlots → KeySlots → Prop) : Prop :=
  ∀ kept : Persistent, kept.keys = keys →
    Durably act keys kept fun r held kept' =>
      ∃ durable, kept' = { kept with keys := durable } ∧ related r held durable

/-! ## Writing -/

/-- A slot gets a new content, in the store and then in memory, unless the store refuses. -/
inductive Commits (keys : KeySlots) (id : SlotId) (content : KeySlot) :
    Except StoreError Unit → KeySlots → KeySlots → Prop
  | done : Commits keys id content (.ok ()) (keys.putSlot id content) (keys.putSlot id content)
  | refused (e : StoreError) : Commits keys id content (.error e) keys keys

theorem commit_does (keys : KeySlots) (id : SlotId) (content : KeySlot) :
    Does (commit id content) keys (Commits keys id content) := by
  rintro kept rfl
  refine Durably.bind ((durably_saveSlot id content).mono ?_)
  rintro r held kept' ⟨rfl, saved⟩
  cases saved with
  | done => exact Durably.adjust ⟨_, rfl, .done⟩
  | refused e => exact ⟨_, rfl, .refused e⟩

theorem updateRecord_does (keys : KeySlots) (id : SlotId) (change : KeyRecord → KeyRecord) :
    Does (updateRecord id change) keys
      (Commits keys id { keys.slot id with record := change (keys.record id) }) :=
  fun kept same => Durably.held_bind (commit_does keys id _ kept same)

/-- The counter gets a new value, in the store and then in memory, unless the store refuses. -/
inductive Counts (keys : KeySlots) (value : Nat) :
    Except StoreError Unit → KeySlots → KeySlots → Prop
  | done : Counts keys value (.ok ()) { keys with counter := value } { keys with counter := value }
  | refused (e : StoreError) : Counts keys value (.error e) keys keys

theorem setCounter_does (keys : KeySlots) (value : Nat) :
    Does (setCounter value) keys (Counts keys (min value counterMax)) := by
  rintro kept rfl
  refine Durably.bind ((durably_saveCounter (Nat.min_le_right value counterMax)).mono ?_)
  rintro r held kept' ⟨rfl, saved⟩
  cases saved with
  | done => exact Durably.adjust ⟨_, rfl, .done⟩
  | refused e => exact ⟨_, rfl, .refused e⟩

/-! ## New keys -/

/-- The content that a slot gets with a generated key. -/
def generated (env : Environment) (old : KeyRecord) (key : Rsa.PrivateKey)
    (components : Rsa.Components) : KeySlot where
  record := { old with
    fingerprint := fingerprint components.n components.e env.now
    generationTime := env.now
    components := some components }
  key := some key

/-- The ways in which the generation of a key can end. -/
inductive Generates (env : Environment) (keys : KeySlots) (id : SlotId) :
    Except CardError Bytes → KeySlots → KeySlots → Prop
  | failed (e : Rsa.Error) : Generates env keys id (.error (.crypto e)) keys keys
  | refused (e : StoreError) : Generates env keys id (.error (.storage e)) keys keys
  /-- The key is written, but the counter of the key before it stays. -/
  | uncounted {key : Rsa.PrivateKey} {components : Rsa.Components}
    (made : env.newKey () = .ok key) (split : key.components? = .ok components)
    (signature : id = .signature) (e : StoreError) :
    Generates env keys id (.error (.storage e))
      (keys.putSlot id (generated env (keys.record id) key components))
      (keys.putSlot id (generated env (keys.record id) key components))
  | done {key : Rsa.PrivateKey} {components : Rsa.Components}
    (made : env.newKey () = .ok key) (split : key.components? = .ok components)
    {keys' : KeySlots}
    (filled : keys' = if id = .signature then
      { keys.putSlot id (generated env (keys.record id) key components) with counter := 0 }
      else keys.putSlot id (generated env (keys.record id) key components)) :
    Generates env keys id (.ok (publicKeyTemplate components.n components.e)) keys' keys'

theorem generate_does (env : Environment) (keys : KeySlots) (id : SlotId) :
    Does (generate env id) keys (Generates env keys id) := by
  intro kept same
  refine Durably.bind (Durably.mapError (Durably.ofExcept ?_))
  cases made : env.newKey () with
  | error e => exact ⟨keys, by rw [← same], .failed e⟩
  | ok key =>
    refine Durably.bind (Durably.mapError (Durably.ofExcept ?_))
    cases split : key.components? with
    | error e => exact ⟨keys, by rw [← same], .failed e⟩
    | ok components =>
      refine Durably.held_bind (Durably.bind (Durably.mapError
        ((commit_does keys id (generated env (keys.record id) key components) kept same).mono ?_)))
      rintro r held kept' ⟨durable, rfl, commits⟩
      cases commits with
      | refused e => exact ⟨_, rfl, .refused e⟩
      | done =>
        dsimp only [Except.mapError]
        split
        · rename_i signature
          refine Durably.bind (Durably.mapError ((setCounter_does _ 0 _ (by rfl)).mono ?_))
          rintro r held kept' ⟨durable, rfl, counts⟩
          cases counts with
          | refused e => exact ⟨_, rfl, .uncounted made split signature e⟩
          | done => exact Durably.pure ⟨_, rfl, .done made split (by rw [if_pos signature]; rfl)⟩
        · rename_i other
          exact Durably.pure ⟨_, rfl, .done made split (by rw [if_neg other])⟩

/-- The content that a slot gets with an imported key. -/
def imported (old : KeyRecord) (key : Rsa.PrivateKey) (components : Rsa.Components) : KeySlot where
  record := { old with
    fingerprint := KeyRecord.blankFingerprint
    generationTime := 0
    components := some components }
  key := some key

/-- The ways in which the import of a key can end. -/
inductive Imports (keys : KeySlots) (data : Bytes) :
    Except CardError SlotId → KeySlots → KeySlots → Prop
  | failed {e : CardError} (kind : e.isStorage = false) : Imports keys data (.error e) keys keys
  | refused (e : StoreError) : Imports keys data (.error (.storage e)) keys keys
  | done {template : ImportTemplate} {key : Rsa.PrivateKey} {components : Rsa.Components}
    (read : ImportTemplate.parse? data = some template)
    (made : Rsa.PrivateKey.ofFactors? (Bytes.toNatOfLong template.exponent)
      (Bytes.toNatOfLong template.p) (Bytes.toNatOfLong template.q) = .ok key)
    (split : key.components? = .ok components) :
    Imports keys data (.ok template.slot)
      (keys.putSlot template.slot (imported (keys.record template.slot) key components))
      (keys.putSlot template.slot (imported (keys.record template.slot) key components))

theorem importKey_does (keys : KeySlots) (data : Bytes) :
    Does (importKey data) keys (Imports keys data) := by
  intro kept same
  unfold importKey
  cases read : ImportTemplate.parse? data with
  | none => exact Durably.throw ⟨keys, by rw [← same], .failed rfl⟩
  | some template =>
    refine Durably.bind (Durably.mapError (Durably.ofExcept ?_))
    cases made : Rsa.PrivateKey.ofFactors? (Bytes.toNatOfLong template.exponent)
      (Bytes.toNatOfLong template.p) (Bytes.toNatOfLong template.q) with
    | error e =>
      refine ⟨keys, by rw [← same], .failed ?_⟩
      unfold importFailure
      split <;> rfl
    | ok key =>
      refine Durably.bind (Durably.mapError (Durably.ofExcept ?_))
      cases split : key.components? with
      | error e => exact ⟨keys, by rw [← same], .failed rfl⟩
      | ok components =>
        refine Durably.held_bind (Durably.bind (Durably.mapError ((commit_does keys template.slot
          (imported (keys.record template.slot) key components) kept same).mono ?_)))
        rintro r held kept' ⟨durable, rfl, commits⟩
        cases commits with
        | refused e => exact ⟨_, rfl, .refused e⟩
        | done => exact Durably.pure ⟨_, rfl, .done read made split⟩

/-! ## Using keys -/

/-- The ways in which a signature can end: the counter is raised before the key is used. -/
inductive Signs (keys : KeySlots) (message : Bytes) :
    Except CardError Bytes → KeySlots → KeySlots → Prop
  | failed {e : CardError} (kind : e.isStorage = false) : Signs keys message (.error e) keys keys
  | refused (e : StoreError) : Signs keys message (.error (.storage e)) keys keys
  | counted {key : Rsa.PrivateKey} (present : keys.signature.key = some key)
    (short : message.length ≤ Rsa.maxMessageLength) (room : keys.counter < counterMax) :
    Signs keys message ((key.sign? message).mapError .crypto)
      { keys with counter := keys.counter + 1 } { keys with counter := keys.counter + 1 }

theorem sign_does (keys : KeySlots) (message : Bytes) :
    Does (sign message) keys (Signs keys message) := by
  intro kept same
  refine Durably.bind (Durably.held_bind ?_)
  cases present : (keys.slot .signature).key with
  | none => exact Durably.throw ⟨keys, by rw [← same], .failed rfl⟩
  | some key =>
    refine Durably.pure ?_
    dsimp only
    split
    · exact Durably.throw_bind ⟨keys, by rw [← same], .failed rfl⟩
    · rename_i short
      refine Durably.held_bind ?_
      split
      · exact Durably.throw_bind ⟨keys, by rw [← same], .failed rfl⟩
      · rename_i room
        refine Durably.bind (Durably.mapError ((setCounter_does keys _ kept same).mono ?_))
        rintro r held kept' ⟨durable, rfl, counts⟩
        cases counts with
        | refused e => exact ⟨_, rfl, .refused e⟩
        | done =>
          have raised : min (keys.counter + 1) counterMax = keys.counter + 1 := by omega
          rw [raised]
          refine Durably.note_bind (Durably.mapError (Durably.ofExcept ?_))
          exact ⟨_, rfl, .counted present (by omega) (by omega)⟩

/-- Nothing changes, and a failure is none of the store. -/
inductive Leaves {π α : Type} (same : π) : Except CardError α → π → π → Prop
  | leaves {r : Except CardError α} (kind : ∀ e, r = .error e → e.isStorage = false) :
    Leaves same r same same

/-- A use of a key that may be refused changes no slot. -/
theorem useKey_does (keys : KeySlots) (id : SlotId) (refused : Prop) [Decidable refused]
    {otherwise : CardError} (kind : otherwise.isStorage = false)
    (use : Rsa.PrivateKey → Except Rsa.Error Bytes) :
    Does (do
      let key ← requireKey id
      if refused then
        throw otherwise
      Kept.note (.keyUsed id)
      (Attempt.ofExcept (use key)).mapError .crypto) keys (Leaves keys) := by
  intro kept same
  refine Durably.bind (Durably.held_bind ?_)
  cases (keys.slot id).key with
  | none => exact Durably.throw ⟨keys, by rw [← same], .leaves (by rintro _ ⟨⟩; rfl)⟩
  | some key =>
    refine Durably.pure ?_
    dsimp only
    split
    · exact Durably.throw_bind ⟨keys, by rw [← same], .leaves (by rintro _ ⟨⟩; exact kind)⟩
    · refine Durably.note_bind (Durably.mapError (Durably.ofExcept ?_))
      refine ⟨keys, by rw [← same], .leaves ?_⟩
      cases use key with
      | ok message => rintro _ ⟨⟩
      | error e => rintro _ ⟨⟩; rfl

theorem decipher_does (keys : KeySlots) (data : Bytes) :
    Does (decipher data) keys (Leaves keys) :=
  useKey_does keys .decryption _ rfl fun key => key.decrypt? (data.drop 1)

theorem authenticate_does (keys : KeySlots) (challenge : Bytes) :
    Does (authenticate challenge) keys (Leaves keys) :=
  useKey_does keys .authentication _ rfl fun key => key.sign? challenge

/-! ## Memory and store afterwards

Memory and store always end with the same slots. -/

section Settled

variable {keys held durable : KeySlots} {id : SlotId}

theorem Commits.settled {content : KeySlot} {r : Except StoreError Unit}
    (h : Commits keys id content r held durable) : held = durable := by
  cases h <;> rfl

theorem Generates.settled {env : Environment} {r : Except CardError Bytes}
    (h : Generates env keys id r held durable) : held = durable := by
  cases h <;> rfl

theorem Imports.settled {data : Bytes} {r : Except CardError SlotId}
    (h : Imports keys data r held durable) : held = durable := by
  cases h <;> rfl

theorem Signs.settled {message : Bytes} {r : Except CardError Bytes}
    (h : Signs keys message r held durable) : held = durable := by
  cases h <;> rfl

end Settled

/-! ## What becomes of a slot -/

/-- What an operation can make of a slot: it is as before or empty, the host has described its key
anew, or it has a new key. -/
inductive Becomes (env : Environment) (old : KeySlot) : KeySlot → Prop
  | kept : Becomes env old old
  | emptied : Becomes env old emptySlot
  | described (record : KeyRecord) (same : record.components = old.record.components) :
    Becomes env old { old with record }
  | generated {key : Rsa.PrivateKey} {components : Rsa.Components}
    (made : env.newKey () = .ok key) (split : key.components? = .ok components) :
    Becomes env old (KeySlots.generated env old.record key components)
  | imported {exponent p q : Nat} {key : Rsa.PrivateKey} {components : Rsa.Components}
    (made : Rsa.PrivateKey.ofFactors? exponent p q = .ok key)
    (split : key.components? = .ok components) :
    Becomes env old (KeySlots.imported old.record key components)

/-- What operations can make of the slots. -/
def Become (env : Environment) (keys keys' : KeySlots) : Prop :=
  ∀ id, Becomes env (keys.slot id) (keys'.slot id)

section Become

variable {env : Environment} {keys held durable : KeySlots} {id : SlotId}

theorem Become.refl (env : Environment) (keys : KeySlots) : Become env keys keys := fun _ => .kept

theorem Become.putSlot (id : SlotId) {content : KeySlot}
    (new : Becomes env (keys.slot id) content) : Become env keys (keys.putSlot id content) := by
  intro other
  rw [slot_putSlot]
  split
  · rename_i same
    rw [same]
    exact new
  · exact .kept

theorem Become.withCounter (h : Become env keys held) (value : Nat) :
    Become env keys { held with counter := value } := fun id => by
  rw [slot_withCounter]
  exact h id

theorem Commits.become (env : Environment) {content : KeySlot} {r : Except StoreError Unit}
    (h : Commits keys id content r held durable) (new : Becomes env (keys.slot id) content) :
    Become env keys durable := by
  cases h with
  | done => exact Become.putSlot id new
  | refused => exact .refl env keys

theorem Generates.become {r : Except CardError Bytes}
    (h : Generates env keys id r held durable) : Become env keys durable := by
  cases h with
  | failed | refused => exact .refl env keys
  | uncounted made split => exact Become.putSlot id (.generated made split)
  | done made split filled =>
    have new : Become env keys (keys.putSlot id (generated env (keys.record id) _ _)) :=
      Become.putSlot id (.generated made split)
    rw [filled]
    split
    · exact new.withCounter 0
    · exact new

theorem Imports.become (env : Environment) {data : Bytes} {r : Except CardError SlotId}
    (h : Imports keys data r held durable) : Become env keys durable := by
  cases h with
  | failed | refused => exact .refl env keys
  | done read made split => exact Become.putSlot _ (.imported made split)

theorem Signs.become (env : Environment) {message : Bytes} {r : Except CardError Bytes}
    (h : Signs keys message r held durable) : Become env keys durable := by
  cases h with
  | failed | refused => exact .refl env keys
  | counted => exact (Become.refl env keys).withCounter _

end Become

/-! ## Components and keys -/

section Coherent

variable {env : Environment} {keys keys' : KeySlots}

theorem coherent_emptySlot : emptySlot.Coherent := rfl

theorem coherent_factory : factory.Coherent := fun id => by
  rw [slot_factory]
  exact coherent_emptySlot

theorem Coherent.withCounter (h : keys.Coherent) (value : Nat) :
    ({ keys with counter := value } : KeySlots).Coherent := fun id => by
  rw [slot_withCounter]
  exact h id

/-- A new key is rebuilt from what is kept of it. -/
theorem Becomes.coherent {old new : KeySlot} (h : Becomes env old new) (sound : env.SoundKeys)
    (before : old.Coherent) : new.Coherent := by
  cases h with
  | kept => exact before
  | emptied => exact coherent_emptySlot
  | described record same =>
    unfold KeySlot.Coherent
    dsimp only
    rw [same]
    exact before
  | generated made split =>
    exact ⟨_, (Rsa.PrivateKey.ofComponents?_of_components? split).trans (sound _ made), rfl⟩
  | imported made split =>
    exact ⟨_, (Rsa.PrivateKey.ofComponents?_of_components? split).trans
      (Rsa.PrivateKey.checked_of_ofFactors? made), rfl⟩

theorem Become.coherent (h : Become env keys keys') (sound : env.SoundKeys)
    (before : keys.Coherent) : keys'.Coherent := fun id => (h id).coherent sound (before id)

end Coherent

/-! ## What stays of the slots -/

section Counter

variable {keys held durable : KeySlots} {id : SlotId}

theorem Commits.counter {content : KeySlot} {r : Except StoreError Unit}
    (h : Commits keys id content r held durable) : durable.counter = keys.counter := by
  cases h with
  | done => exact counter_putSlot keys id content
  | refused => rfl

theorem Generates.counter {env : Environment} {r : Except CardError Bytes}
    (h : Generates env keys id r held durable) :
    durable.counter = keys.counter ∨ durable.counter = 0 := by
  cases h with
  | failed | refused => exact .inl rfl
  | uncounted => exact .inl (counter_putSlot keys id _)
  | done _ _ filled =>
    rw [filled]
    split
    · exact .inr rfl
    · exact .inl (counter_putSlot keys id _)

theorem Imports.counter {data : Bytes} {r : Except CardError SlotId}
    (h : Imports keys data r held durable) : durable.counter = keys.counter := by
  cases h with
  | failed | refused => rfl
  | done => exact counter_putSlot keys _ _

/-- A signature changes nothing but the counter, by one. -/
theorem Signs.counter {message : Bytes} {r : Except CardError Bytes}
    (h : Signs keys message r held durable) :
    durable = keys ∨ durable = { keys with counter := keys.counter + 1 } := by
  cases h with
  | failed | refused => exact .inl rfl
  | counted => exact .inr rfl

end Counter

end KeySlots

end PgpCard
