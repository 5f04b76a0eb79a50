import PgpCard.Proofs.Key.Outcomes
import PgpCard.Proofs.Store.Journal

/-!
# What a signature costs

The counter is raised in the store before the signature key is used.

* `MemoryStore.counter` : the signature counter that a store has, which is at most the greatest one
  where the store holds everything (`Holds.counter_le`);
* `Grows.counter_of_not_written`, `Grows.counter_of_written` : what the journal says of it;
* `KeySlots.Spends` : the ways in which a signature ends, with what it leaves in the journal;
  `sign_logs` says that it ends in one of them.
-/

set_option autoImplicit false

namespace PgpCard

open Card

/-! ## The counter in a store -/

namespace MemoryStore

variable {store store' : MemoryStore}

/-- The signature counter that a store has; it is zero where the store has none yet. -/
def counter (store : MemoryStore) : Nat :=
  ((store.blobs.find? KeySlots.counterName).map Bytes.toNat).getD 0

theorem counter_of_at? {bytes : Bytes}
    (found : store.at? (.blob KeySlots.counterName) = some (.inl bytes)) :
    store.counter = Bytes.toNat bytes := by
  rw [counter, find?_blobs_of_at? found]
  rfl

theorem counter_congr
    (same : store'.at? (.blob KeySlots.counterName) = store.at? (.blob KeySlots.counterName)) :
    store'.counter = store.counter := by
  rw [counter, counter, find?_blobs_congr same]

end MemoryStore

section Holds

variable {store : MemoryStore} {kept : Persistent}

theorem Card.Holds.counter_eq (holds : Holds store kept) : store.counter = kept.keys.counter := by
  obtain ⟨content, found, denotes⟩ := holds .counter
  cases content with
  | inl bytes => exact (MemoryStore.counter_of_at? found).trans denotes.2
  | inr value => cases denotes

/-- Three bytes denote no more than the greatest counter. -/
theorem Card.Holds.counter_le (holds : Holds store kept) : store.counter ≤ KeySlots.counterMax := by
  obtain ⟨content, found, denotes⟩ := holds .counter
  cases content with
  | inl bytes =>
    have bound := Bytes.toNat_lt bytes
    have width : bytes.length = 3 := denotes.1
    rw [width] at bound
    rw [MemoryStore.counter_of_at? found]
    show Bytes.toNat bytes ≤ 0xFFFFFF
    omega
  | inr value => cases denotes

end Holds

section Journal

variable {store store' : FlakyStore} {entries later : List JournalEntry}

theorem Grows.counter_of_not_written (grows : Grows store entries store')
    (unwritten : ∀ data, .blob KeySlots.counterName data ∉ entries) :
    store'.inner.counter = store.inner.counter :=
  MemoryStore.counter_congr (grows.at?_of_not_written unwritten)

/-- A store has the counter that was written last. -/
theorem Grows.counter_of_written {value : Nat} (small : value ≤ KeySlots.counterMax)
    (grows : Grows store
      (.blob KeySlots.counterName (Bytes.ofNat KeySlots.counterLength value) :: later) store')
    (unwritten : ∀ data, .blob KeySlots.counterName data ∉ later) :
    store'.inner.counter = value := by
  rw [MemoryStore.counter_of_at? (grows.at?_of_written unwritten), toNat_counter small]

end Journal

/-! ## Signatures -/

namespace KeySlots

/-- The counter is written before it is adopted. -/
theorem setCounter_logs (keys : KeySlots) {value : Nat} (small : value ≤ counterMax) :
    Logs (setCounter value) keys fun r held entries =>
      match r with
      | .ok () => held = { keys with counter := value } ∧
        entries = [.blob counterName (Bytes.ofNat counterLength value)]
      | .error _ => held = keys ∧ entries = [.refusedBlob counterName] := by
  unfold setCounter
  rw [Nat.min_eq_left small]
  refine Logs.bind (Logs.writeBlob ?_ fun _ => ⟨rfl, rfl⟩)
  exact Logs.adjust ⟨rfl, rfl⟩

/-- What the journal says of a signature that has been counted: the counter was raised by one, and
then the key was used once. -/
def countedEntries (counter : Nat) : List JournalEntry :=
  [.blob counterName (Bytes.ofNat counterLength (counter + 1)), .audit (.keyUsed .signature)]

/-- The ways in which a signature can end, with what it leaves in the journal. -/
inductive Spends (keys : KeySlots) (message : Bytes) :
    Except CardError Bytes → KeySlots → List JournalEntry → Prop
  | keyless (absent : keys.signature.key = none) :
    Spends keys message (.error .referencedDataNotFound) keys []
  | long (long : Rsa.maxMessageLength < message.length) :
    Spends keys message (.error .wrongLength) keys []
  | full (full : counterMax ≤ keys.counter) : Spends keys message (.error .stateUnchanged) keys []
  | refused (room : keys.counter < counterMax) (e : StoreError) :
    Spends keys message (.error (.storage e)) keys [.refusedBlob counterName]
  | counted {key : Rsa.PrivateKey} (present : keys.signature.key = some key)
    (short : message.length ≤ Rsa.maxMessageLength) (room : keys.counter < counterMax) :
    Spends keys message ((key.sign? message).mapError .crypto)
      { keys with counter := keys.counter + 1 } (countedEntries keys.counter)

theorem sign_logs (keys : KeySlots) (message : Bytes) :
    Logs (sign message) keys (Spends keys message) := by
  refine Logs.bind (Logs.held_bind ?_)
  cases present : (keys.slot .signature).key with
  | none => exact Logs.throw (.keyless present)
  | some key =>
    refine Logs.pure ?_
    dsimp only
    split
    · rename_i long
      exact Logs.throw_bind (.long long)
    · rename_i short
      refine Logs.held_bind ?_
      split
      · rename_i full
        exact Logs.throw_bind (.full full)
      · rename_i room
        have room : keys.counter < counterMax := by omega
        refine Logs.bind (Logs.mapError ((setCounter_logs keys room).mono ?_))
        rintro (e | ⟨⟩) held entries ⟨rfl, rfl⟩
        · exact .refused room e
        · refine Logs.bind (Logs.note (Logs.mapError (Logs.ofExcept ?_)))
          exact .counted present (by omega) room

end KeySlots

end PgpCard
