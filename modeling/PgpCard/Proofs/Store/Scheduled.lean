import PgpCard.Proofs.Card.Cells
import PgpCard.Proofs.Store.Discreet
import PgpCard.Store.Faulty

/-!
# Stores that hold the same but for the private objects

* `MemoryStore.HoldsLike` : two stores in memory hold the same, but for the text of the data
  objects, where they hold records that look alike.  Such stores are discreet.
* `FaultyStore.Scheduled` : two stores refuse the same reads and writes from now on.  They are
  discreet if the stores below are.
-/

set_option autoImplicit false

namespace PgpCard

/-! ## A store in memory -/

namespace MemoryStore

/-- Two stores hold the same, but for the text of the data objects, where they hold texts that stand
for records that look alike. -/
structure HoldsLike (store store' : MemoryStore) : Prop where
  others : ∀ place, place ≠ .blob DataObjects.recordName →
    store'.at? place = store.at? place
  objects : Option.Rel DataObjects.ReadsLike (store.blobs.find? DataObjects.recordName)
    (store'.blobs.find? DataObjects.recordName)

variable {store store' : MemoryStore}

theorem HoldsLike.blob (alike : HoldsLike store store') {name : String}
    (other : name ≠ DataObjects.recordName) :
    store'.blobs.find? name = store.blobs.find? name := by
  apply find?_blobs_congr
  apply alike.others
  rintro ⟨⟩
  exact other rfl

theorem HoldsLike.scalar (alike : HoldsLike store store') (key : String) :
    store'.scalars.find? key = store.scalars.find? key := by
  have same : store'.at? (.scalar key) = store.at? (.scalar key) := alike.others _ nofun
  exact (Option.map_inj_right fun _ _ => Sum.inr.inj).mp same

theorem HoldsLike.putScalar (alike : HoldsLike store store') (key : String) (value : UInt16) :
    HoldsLike (store.putScalar key value) (store'.putScalar key value) := by
  refine ⟨fun place other => ?_, alike.objects⟩
  rw [at?_putScalar, at?_putScalar, alike.others place other]

theorem HoldsLike.putBlob (alike : HoldsLike store store') {name : String}
    (other : name ≠ DataObjects.recordName) (data : Bytes) :
    HoldsLike (store.putBlob name data) (store'.putBlob name data) := by
  constructor
  · intro place apart
    rw [at?_putBlob, at?_putBlob, alike.others place apart]
  · simp only [MemoryStore.putBlob, Table.find?_insert_of_ne _ _ other.symm]
    exact alike.objects

theorem HoldsLike.putObjects (alike : HoldsLike store store') {text text' : Bytes}
    (same : DataObjects.ReadsLike text text') :
    HoldsLike (store.putBlob DataObjects.recordName text)
      (store'.putBlob DataObjects.recordName text') := by
  constructor
  · intro place apart
    rw [at?_putBlob, at?_putBlob, if_neg apart, if_neg apart, alike.others place apart]
  · simp only [MemoryStore.putBlob, Table.find?_insert_self]
    exact .some same

theorem discreet_holdsLike : Discreet HoldsLike where
  readByte key := by
    intro store store' alike
    have same : store'.byte? key = store.byte? key := by
      unfold byte?
      rw [alike.scalar key]
    rw [Card.readByte_eq, Card.readByte_eq, same]
    cases store.byte? key with
    | ok value => exact .ok rfl alike
    | error e => exact .error e alike
  writeByte key value := fun _ _ alike => .ok rfl (alike.putScalar key value.toUInt16)
  readWord key := fun _ _ alike => .ok (alike.scalar key).symm alike
  writeWord key value := fun _ _ alike => .ok rfl (alike.putScalar key value)
  readBlob name other := fun _ _ alike => .ok (alike.blob other).symm alike
  writeBlob name data other := fun _ _ alike => .ok rfl (alike.putBlob other data)
  readObjects := fun _ _ alike => .ok alike.objects alike
  writeObjects text text' same := fun _ _ alike => .ok rfl (alike.putObjects same)
  note _ _ _ alike := alike

end MemoryStore

/-! ## A store that fails on schedule -/

namespace FaultyStore

variable {σ : Type} {stores : σ → σ → Prop}

/-- Two stores refuse the same reads and the same writes from now on, and the stores below are
related. -/
structure Scheduled (stores : σ → σ → Prop) (store store' : FaultyStore σ) : Prop where
  reads : ∀ n, store'.readFails (store'.reads + n) = store.readFails (store.reads + n)
  writes : ∀ n, store'.writeFails (store'.writes + n) = store.writeFails (store.writes + n)
  inner : stores store.inner store'.inner

open Attempt

theorem read_accords {α α' : Type} {values : α → α' → Prop} {act : Attempt StoreError σ α}
    {other : Attempt StoreError σ α'} (h : Accords stores values act other) :
    Accords (Scheduled stores) values (read act) (read other) := by
  intro store store' alike
  have now : store'.readFails store'.reads = store.readFails store.reads := alike.reads 0
  have later : ∀ n,
      store'.readFails (store'.reads + 1 + n) = store.readFails (store.reads + 1 + n) := by
    intro n
    rw [Nat.add_assoc, Nat.add_assoc]
    exact alike.reads (1 + n)
  unfold read
  dsimp only
  rw [now]
  split
  · exact .error _ ⟨later, alike.writes, alike.inner⟩
  · have ends := h store.inner store'.inner alike.inner
    generalize act store.inner = result, other store'.inner = result' at ends
    cases ends with
    | ok value state => exact .ok value ⟨later, alike.writes, state⟩
    | error e state => exact .error e ⟨later, alike.writes, state⟩

theorem write_accords {act other : Attempt StoreError σ Unit} (h : Accords stores Eq act other)
    (done done' refused refused' : JournalEntry) :
    Accords (Scheduled stores) Eq (write act done refused) (write other done' refused') := by
  intro store store' alike
  have now : store'.writeFails store'.writes = store.writeFails store.writes := alike.writes 0
  have later : ∀ n,
      store'.writeFails (store'.writes + 1 + n) = store.writeFails (store.writes + 1 + n) := by
    intro n
    rw [Nat.add_assoc, Nat.add_assoc]
    exact alike.writes (1 + n)
  unfold write
  dsimp only
  rw [now]
  split
  · exact .error _ ⟨alike.reads, later, alike.inner⟩
  · have ends := h store.inner store'.inner alike.inner
    generalize act store.inner = result, other store'.inner = result' at ends
    cases ends with
    | ok value state => exact .ok value ⟨alike.reads, later, state⟩
    | error e state => exact .error e ⟨alike.reads, later, state⟩

/-- A schedule of failures tells nothing of what the store below holds. -/
theorem discreet_scheduled [Backend σ] (discreet : Discreet stores) :
    Discreet (Scheduled stores) where
  readByte key := read_accords (discreet.readByte key)
  writeByte key value := write_accords (discreet.writeByte key value) _ _ _ _
  readWord key := read_accords (discreet.readWord key)
  writeWord key value := write_accords (discreet.writeWord key value) _ _ _ _
  readBlob name other := read_accords (discreet.readBlob name other)
  writeBlob name data other := write_accords (discreet.writeBlob name data other) _ _ _ _
  readObjects := read_accords discreet.readObjects
  writeObjects text text' same := write_accords (discreet.writeObjects text text' same) _ _ _ _
  note step _ _ alike := ⟨alike.reads, alike.writes, discreet.note step _ _ alike.inner⟩

end FaultyStore

end PgpCard
