import PgpCard.Card.Lifecycle
import PgpCard.Proofs.Record.RoundTrip
import PgpCard.Store.Memory

/-!
# What a store holds of a card

A card keeps twelve byte strings and numbers in its store, each in a place of its own.  A `Cell` is
one of them, `Cell.Denotes` says which contents stand for its value, and a store `Holds` what is
kept if every cell has such a content.

* `Holds.write`  : writing one cell changes what is held in that cell and nowhere else; the
  lemmas after it say so for each kind of cell.
* `load_of_holds` : what is held is what `Card.load` reads, provided that the components of each
  key stand for the private key beside them (`KeySlots.Coherent`).
-/

set_option autoImplicit false

namespace PgpCard

/-! ## Places -/

/-- Where a store keeps something. -/
inductive Place
  | blob (name : String)
  | scalar (key : String)
  deriving DecidableEq, Repr

namespace MemoryStore

/-- What is kept in a place: a byte string or a number. -/
def at? (store : MemoryStore) : Place → Option (Bytes ⊕ UInt16)
  | .blob name => (store.blobs.find? name).map .inl
  | .scalar key => (store.scalars.find? key).map .inr

theorem at?_putBlob (store : MemoryStore) (name : String) (data : Bytes) (place : Place) :
    (store.putBlob name data).at? place =
      if place = .blob name then some (.inl data) else store.at? place := by
  cases place with
  | scalar key => rfl
  | blob other =>
    by_cases h : other = name
    · simp [at?, putBlob, h]
    · simp [at?, putBlob, Table.find?_insert_of_ne _ _ h, h]

theorem at?_putScalar (store : MemoryStore) (key : String) (value : UInt16) (place : Place) :
    (store.putScalar key value).at? place =
      if place = .scalar key then some (.inr value) else store.at? place := by
  cases place with
  | blob name => rfl
  | scalar other =>
    by_cases h : other = key
    · simp [at?, putScalar, h]
    · simp [at?, putScalar, Table.find?_insert_of_ne _ _ h, h]

theorem find?_blobs_of_at? {store : MemoryStore} {name : String} {data : Bytes}
    (h : store.at? (.blob name) = some (.inl data)) : store.blobs.find? name = some data := by
  simpa [at?] using h

theorem find?_blobs_congr {store store' : MemoryStore} {name : String}
    (same : store'.at? (.blob name) = store.at? (.blob name)) :
    store'.blobs.find? name = store.blobs.find? name :=
  (Option.map_inj_right fun _ _ => Sum.inl.inj).mp same

theorem find?_scalars_of_at? {store : MemoryStore} {key : String} {value : UInt16}
    (h : store.at? (.scalar key) = some (.inr value)) : store.scalars.find? key = some value := by
  simpa [at?] using h

end MemoryStore

/-- A card keeps something in the place. -/
def Place.Used : Place → Prop
  | .blob name => name ∈ Card.recordNames
  | .scalar key => key ∈ Card.scalarKeys

instance : DecidablePred Place.Used
  | .blob name => inferInstanceAs (Decidable (name ∈ Card.recordNames))
  | .scalar key => inferInstanceAs (Decidable (key ∈ Card.scalarKeys))

/-! ## One thing among the things kept -/

namespace Secrets

@[simp] theorem record_put (secrets : Secrets) (id other : SecretId) (record : SecretRecord) :
    (secrets.put id record).record other = if other = id then record else secrets.record other := by
  cases id <;> cases other <;> rfl

@[simp] theorem put_put (secrets : Secrets) (id : SecretId) (record record' : SecretRecord) :
    (secrets.put id record).put id record' = secrets.put id record' := by
  cases id <;> rfl

@[simp] theorem put_record (secrets : Secrets) (id : SecretId) :
    secrets.put id (secrets.record id) = secrets := by
  cases id <;> rfl

end Secrets

namespace KeySlots

@[simp] theorem slot_putSlot (keys : KeySlots) (id other : SlotId) (content : KeySlot) :
    (keys.putSlot id content).slot other = if other = id then content else keys.slot other := by
  cases id <;> cases other <;> rfl

@[simp] theorem record_putSlot (keys : KeySlots) (id other : SlotId) (content : KeySlot) :
    (keys.putSlot id content).record other =
      if other = id then content.record else keys.record other := by
  cases id <;> cases other <;> rfl

@[simp] theorem counter_putSlot (keys : KeySlots) (id : SlotId) (content : KeySlot) :
    (keys.putSlot id content).counter = keys.counter := by
  cases id <;> rfl

@[simp] theorem slot_withCounter (keys : KeySlots) (value : Nat) (id : SlotId) :
    ({ keys with counter := value } : KeySlots).slot id = keys.slot id := by
  cases id <;> rfl

@[simp] theorem slot_factory (id : SlotId) : factory.slot id = emptySlot := by
  cases id <;> rfl

end KeySlots

/-! ## Cells -/

/-- One of the things that a card keeps in its store. -/
inductive Cell
  | secret (id : SecretId)
  | slot (id : SlotId)
  | counter
  | objects
  | lasting
  | terminated
  | layout
  | ready
  deriving DecidableEq, Repr

namespace Cell

/-- Where a cell is kept. -/
def place : Cell → Place
  | secret id => .blob id.recordName
  | slot id => .blob id.recordName
  | counter => .blob KeySlots.counterName
  | objects => .blob DataObjects.recordName
  | lasting => .scalar Card.pw1StatusKey
  | terminated => .scalar Card.terminatedKey
  | layout => .scalar Card.layoutKey
  | ready => .scalar Card.readyKey

/-- Every cell has a place of its own. -/
theorem place_inj {cell other : Cell} (h : cell.place = other.place) : cell = other := by
  revert h
  cases cell with
  | secret id | slot id =>
    cases id <;> cases other with
    | secret id' | slot id' => cases id' <;> decide
    | _ => decide
  | _ =>
    cases other with
    | secret id' | slot id' => cases id' <;> decide
    | _ => decide

/-- A cell is kept under one of the names and keys of the card. -/
theorem used (cell : Cell) : cell.place.Used := by
  cases cell with
  | secret id | slot id => cases id <;> decide
  | _ => decide

/-- A flag as a number. -/
def flag (b : Bool) : UInt16 := if b then 1 else 0

/-- The contents of a cell that stand for what is kept. -/
def Denotes (kept : Persistent) : Cell → Bytes ⊕ UInt16 → Prop
  | secret id, .inl text => Record.decode? text = some (kept.secrets.record id)
  | slot id, .inl text => Record.decode? text = some (kept.keys.record id)
  | counter, .inl bytes =>
    bytes.length = KeySlots.counterLength ∧ Bytes.toNat bytes = kept.keys.counter
  | objects, .inl text => Record.decode? text = some kept.objects
  | lasting, .inr value => value = flag kept.lasting
  | terminated, .inr value => value = flag kept.terminated
  | layout, .inr value => value = Card.layoutVersion
  | ready, .inr value => value = 1
  | _, _ => False

/-- A store holds in a cell what is kept there. -/
def HeldBy (store : MemoryStore) (kept : Persistent) (cell : Cell) : Prop :=
  ∃ content, store.at? cell.place = some content ∧ cell.Denotes kept content

/-- Two things kept have the same value in a cell. -/
def Agrees (kept kept' : Persistent) : Cell → Prop
  | secret id => kept.secrets.record id = kept'.secrets.record id
  | slot id => kept.keys.record id = kept'.keys.record id
  | counter => kept.keys.counter = kept'.keys.counter
  | objects => kept.objects = kept'.objects
  | lasting => kept.lasting = kept'.lasting
  | terminated => kept.terminated = kept'.terminated
  | layout | ready => True

theorem Denotes.of_agrees {kept kept' : Persistent} {cell : Cell} {content : Bytes ⊕ UInt16}
    (h : cell.Denotes kept content) (same : cell.Agrees kept kept') :
    cell.Denotes kept' content := by
  cases cell <;> cases content <;> simp_all [Denotes, Agrees]

end Cell

/-! ## Whole stores -/

namespace Card

open Cell

/-- A store holds what is kept, in every cell. -/
def Holds (store : MemoryStore) (kept : Persistent) : Prop :=
  ∀ cell : Cell, cell.HeldBy store kept

variable {store store' : MemoryStore} {kept kept' : Persistent}

/-- Writing one cell changes what is held in that cell and nowhere else. -/
theorem Holds.write (h : Holds store kept) (cell : Cell) {content : Bytes ⊕ UInt16}
    (written : ∀ place, store'.at? place =
      if place = cell.place then some content else store.at? place)
    (fresh : cell.Denotes kept' content)
    (others : ∀ other, other ≠ cell → other.Agrees kept kept') : Holds store' kept' := by
  intro other
  by_cases same : other = cell
  · subst same
    exact ⟨content, by rw [written, if_pos rfl], fresh⟩
  · obtain ⟨old, found, denotes⟩ := h other
    refine ⟨old, ?_, denotes.of_agrees (others other same)⟩
    rw [written, if_neg fun place => same (place_inj place), found]

end Card

namespace Persistent

/-- What is kept, with another record for a secret. -/
def withSecret (id : SecretId) (record : SecretRecord) (kept : Persistent) : Persistent :=
  { kept with secrets := kept.secrets.put id record }

/-- What is kept, with another content of a slot. -/
def withSlot (id : SlotId) (content : KeySlot) (kept : Persistent) : Persistent :=
  { kept with keys := kept.keys.putSlot id content }

/-- What is kept, with another value of the signature counter. -/
def withCounter (value : Nat) (kept : Persistent) : Persistent :=
  { kept with keys := { kept.keys with counter := value } }

end Persistent

namespace Card

open Cell

variable {store : MemoryStore} {kept : Persistent}

theorem Holds.writeSecret (h : Holds store kept) (id : SecretId) (record : SecretRecord) :
    Holds (store.putBlob id.recordName (Record.encode record)) (kept.withSecret id record) := by
  refine h.write (.secret id) (store.at?_putBlob _ _) ?_ ?_
  · simp [Denotes, Persistent.withSecret, Record.decode?_encode]
  · intro other ne
    cases other <;> simp_all [Agrees, Persistent.withSecret]

theorem Holds.writeSlot (h : Holds store kept) (id : SlotId) (content : KeySlot) :
    Holds (store.putBlob id.recordName (Record.encode content.record))
      (kept.withSlot id content) := by
  refine h.write (.slot id) (store.at?_putBlob _ _) ?_ ?_
  · simp [Denotes, Persistent.withSlot, Record.decode?_encode]
  · intro other ne
    cases other <;> simp_all [Agrees, Persistent.withSlot]

/-- A counter that is not too great is read back from its three bytes. -/
theorem toNat_counter {value : Nat} (small : value ≤ KeySlots.counterMax) :
    Bytes.toNat (Bytes.ofNat KeySlots.counterLength value) = value := by
  rw [Bytes.toNat_ofNat]
  exact Nat.mod_eq_of_lt (Nat.lt_of_le_of_lt small (by decide))

theorem Holds.writeCounter (h : Holds store kept) {value : Nat}
    (small : value ≤ KeySlots.counterMax) :
    Holds (store.putBlob KeySlots.counterName (Bytes.ofNat KeySlots.counterLength value))
      (kept.withCounter value) := by
  refine h.write .counter (store.at?_putBlob _ _) ?_ ?_
  · exact ⟨Bytes.length_ofNat _ _, toNat_counter small⟩
  · intro other ne
    cases other with
    | slot id => cases id <;> rfl
    | counter => exact absurd rfl ne
    | _ => simp [Agrees, Persistent.withCounter]

theorem Holds.writeObjects (h : Holds store kept) (objects : DataObjects) :
    Holds (store.putBlob DataObjects.recordName (Record.encode objects))
      { kept with objects } := by
  refine h.write .objects (store.at?_putBlob _ _) ?_ ?_
  · exact Record.decode?_encode objects
  · intro other ne
    cases other <;> simp_all [Agrees, KeySlots.record]

theorem Holds.writeLasting (h : Holds store kept) (lasting : Bool) :
    Holds (store.putScalar pw1StatusKey (flag lasting)) { kept with lasting } := by
  refine h.write .lasting (store.at?_putScalar _ _) rfl ?_
  intro other ne
  cases other <;> simp_all [Agrees, KeySlots.record]

theorem Holds.writeTerminated (h : Holds store kept) (terminated : Bool) :
    Holds (store.putScalar terminatedKey (flag terminated)) { kept with terminated } := by
  refine h.write .terminated (store.at?_putScalar _ _) rfl ?_
  intro other ne
  cases other <;> simp_all [Agrees, KeySlots.record]

theorem Holds.writeLayout (h : Holds store kept) :
    Holds (store.putScalar layoutKey layoutVersion) kept := by
  refine h.write .layout (store.at?_putScalar _ _) rfl ?_
  intro other _
  cases other <;> simp [Agrees]

theorem Holds.writeReady (h : Holds store kept) : Holds (store.putScalar readyKey 1) kept := by
  refine h.write .ready (store.at?_putScalar _ _) rfl ?_
  intro other _
  cases other <;> simp [Agrees]

end Card

/-! ## Reading what is held -/

/-- The components of a slot stand for the private key beside them; a slot without components
has no key. -/
def KeySlot.Coherent (slot : KeySlot) : Prop :=
  match slot.record.components with
  | none => slot.key = none
  | some components =>
    ∃ key, Rsa.PrivateKey.ofComponents? components = .ok key ∧ slot.key = some key

/-- Every slot is coherent. -/
def KeySlots.Coherent (keys : KeySlots) : Prop := ∀ id, (keys.slot id).Coherent

namespace Card

variable {store : MemoryStore} {kept : Persistent}

theorem readBlob_of_at? {name : String} {data : Bytes}
    (h : store.at? (.blob name) = some (.inl data)) :
    Backend.readBlob name store = .ok (some data) store := by
  change EStateM.Result.ok (store.blobs.find? name) store = _
  rw [MemoryStore.find?_blobs_of_at? h]

theorem requireRecord_of_at? {α : Type} [Recorded α] {name : String} {text : Bytes} {record : α}
    (h : store.at? (.blob name) = some (.inl text)) (read : Record.decode? text = some record) :
    Store.requireRecord name store = .ok record store := by
  simp only [Store.requireRecord, Store.loadRecord, bind, EStateM.bind, readBlob_of_at? h, read]
  rfl

theorem Holds.requireSecret (h : Holds store kept) (id : SecretId) :
    Store.requireRecord id.recordName store = .ok (kept.secrets.record id) store := by
  obtain ⟨content, found, denotes⟩ := h (.secret id)
  cases content with
  | inl text => exact requireRecord_of_at? found denotes
  | inr value => cases denotes

theorem Holds.loadSecrets (h : Holds store kept) : Secrets.load store = .ok kept.secrets store := by
  simp only [Secrets.load, bind, EStateM.bind, h.requireSecret]
  rfl

theorem Holds.requireSlot (h : Holds store kept) (id : SlotId) :
    Store.requireRecord id.recordName store = .ok (kept.keys.record id) store := by
  obtain ⟨content, found, denotes⟩ := h (.slot id)
  cases content with
  | inl text => exact requireRecord_of_at? found denotes
  | inr value => cases denotes

theorem Holds.loadSlot (h : Holds store kept) {id : SlotId}
    (coherent : (kept.keys.slot id).Coherent) :
    KeySlots.loadSlot id store = .ok (kept.keys.slot id) store := by
  simp only [KeySlots.loadSlot, bind, EStateM.bind, h.requireSlot]
  unfold KeySlot.Coherent at coherent
  rw [KeySlots.record]
  split at coherent
  · rename_i none
    rw [none, ← coherent]
    rfl
  · rename_i components some
    obtain ⟨key, rebuilt, present⟩ := coherent
    rw [some]
    simp only [rebuilt, ← present]
    rfl

theorem Holds.loadCounter (h : Holds store kept) :
    KeySlots.loadCounter store = .ok kept.keys.counter store := by
  obtain ⟨content, found, denotes⟩ := h .counter
  cases content with
  | inr value => cases denotes
  | inl bytes =>
    simp only [KeySlots.loadCounter, bind, EStateM.bind, readBlob_of_at? found]
    rw [if_pos denotes.1, denotes.2]
    rfl

theorem Holds.loadKeys (h : Holds store kept) (coherent : kept.keys.Coherent) :
    KeySlots.load store = .ok kept.keys store := by
  simp only [KeySlots.load, bind, EStateM.bind, h.loadSlot (coherent _), h.loadCounter]
  rfl

theorem Holds.loadObjects (h : Holds store kept) :
    DataObjects.load store = .ok kept.objects store := by
  obtain ⟨content, found, denotes⟩ := h .objects
  cases content with
  | inl text => exact requireRecord_of_at? found denotes
  | inr value => cases denotes

/-- A byte that is out of range is a failure to read. -/
theorem readByte_eq (store : MemoryStore) (key : String) :
    Backend.readByte key store =
      match store.byte? key with
      | .ok value => .ok value store
      | .error e => .error e store :=
  rfl

theorem readByte_flag {key : String} {b : Bool}
    (h : store.at? (.scalar key) = some (.inr (Cell.flag b))) :
    ∃ byte, Backend.readByte key store = .ok (some byte) store ∧ (some byte == some 1) = b := by
  have found := MemoryStore.find?_scalars_of_at? h
  refine ⟨if b then 1 else 0, ?_, by cases b <;> rfl⟩
  rw [readByte_eq, MemoryStore.byte?, found]
  cases b <;> rfl

theorem Holds.readLayout (h : Holds store kept) :
    Backend.readWord layoutKey store = .ok (some layoutVersion) store := by
  obtain ⟨content, found, denotes⟩ := h .layout
  cases content with
  | inl text => cases denotes
  | inr value =>
    cases denotes
    change EStateM.Result.ok (store.scalars.find? layoutKey) store = _
    rw [MemoryStore.find?_scalars_of_at? found]

theorem Holds.readTerminated (h : Holds store kept) :
    ∃ mark, Backend.readByte terminatedKey store = .ok (some mark) store ∧
      (some mark == some 1) = kept.terminated := by
  obtain ⟨content, found, denotes⟩ := h .terminated
  cases content with
  | inl text => cases denotes
  | inr value =>
    cases denotes
    exact readByte_flag found

theorem Holds.readLasting (h : Holds store kept) :
    ∃ status, Backend.readByte pw1StatusKey store = .ok (some status) store ∧
      (some status == some 1) = kept.lasting := by
  obtain ⟨content, found, denotes⟩ := h .lasting
  cases content with
  | inl text => cases denotes
  | inr value =>
    cases denotes
    exact readByte_flag found

/-- What a store holds is what is read from it. -/
theorem load_of_holds (h : Holds store kept) (coherent : kept.keys.Coherent) :
    load store = .ok kept store := by
  obtain ⟨mark, read_mark, terminated⟩ := h.readTerminated
  obtain ⟨status, read_status, lasting⟩ := h.readLasting
  simp only [load, bind, EStateM.bind, h.readLayout]
  simp [pure, EStateM.bind, EStateM.pure, h.loadSecrets, h.loadKeys coherent, h.loadObjects,
    read_status, read_mark, lasting, terminated]

/-- A store that holds what is kept is marked as set up. -/
theorem Holds.readReady (h : Holds store kept) :
    Backend.readByte readyKey store = .ok (some 1) store := by
  obtain ⟨content, found, denotes⟩ := h .ready
  cases content with
  | inl text => cases denotes
  | inr value =>
    cases denotes
    have found : store.at? _ = some (.inr (Cell.flag true)) := found
    obtain ⟨byte, read, one⟩ := readByte_flag found
    rw [read, eq_of_beq one]

end Card

end PgpCard
