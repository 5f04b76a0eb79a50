import PgpCard.Proofs.Bytes
import PgpCard.Proofs.Card.Authority

/-!
# The values that a host writes and reads back

Some objects are read back as they were written; others are shown as part of an object that puts
several values together.

* `Persistent.value?` : what is kept of an object that is read back, and `Holds.value?_eq` that a
  store tells it from one cell;
* `DataObject.shownIn`, `DataObject.portion` : where a value is read, as `portion_value?` says;
* `Persistent.Updates` : the values differ by some changes, and by nothing else;
* `Writes.updates`, `Rewrites.updates` : what a write and a new key make of the values.
-/

set_option autoImplicit false

namespace PgpCard

open Card

/-! ## Values -/

namespace Persistent

/-- What is kept of an object that is read back. -/
def value? (kept : Persistent) : DataObject → Option Bytes
  | .passwordStatus => some [if kept.lasting then 1 else 0]
  | .fingerprint id => some (kept.keys.record id).fingerprintPadded
  | .caFingerprint id => some (kept.keys.record id).caFingerprintPadded
  | .generationTime id => some (Bytes.ofNat 4 (kept.keys.record id).generationTime.toNat)
  | other => kept.objects.value? other

end Persistent

namespace DataObject

/-- The object can be read back after it was written. -/
def isReadBack (object : DataObject) : Bool := (Persistent.factory.value? object).isSome

/-- The cell in which an object that is read back is kept. -/
def cell : DataObject → Cell
  | passwordStatus => .lasting
  | fingerprint id | caFingerprint id | generationTime id => .slot id
  | _ => .objects

/-- No object is kept in the layout or the mark. -/
theorem cell_ne (object : DataObject) : object.cell ≠ .layout ∧ object.cell ≠ .ready := by
  cases object <;> exact ⟨nofun, nofun⟩

end DataObject

section Values

variable {kept kept' : Persistent} {object : DataObject}

theorem Persistent.isSome_value? (kept : Persistent) (object : DataObject) :
    (kept.value? object).isSome = object.isReadBack := by
  cases object <;> rfl

/-- The tags of these objects. -/
example : (DataObject.all.filter DataObject.isReadBack).map DataObject.tag =
    [0x5B, 0x5F2D, 0x5F35, 0x5E, 0x5F50, 0xC4, 0x0101, 0x0102, 0x0103, 0x0104, 0x7F21, 0xC7, 0xC8,
      0xC9, 0xCA, 0xCB, 0xCC, 0xCE, 0xCF, 0xD0] := by decide

/-- Nothing is kept of an object that is not read back. -/
theorem Persistent.value?_of_unread (unread : object.isReadBack = false) :
    kept.value? object = none := by
  rw [← Option.isNone_iff_eq_none, ← Option.not_isSome, isSome_value?, unread]
  rfl

/-- Some objects have new values, and the others are as they were. -/
structure Persistent.Updates (old : Persistent) (changes : DataObject → Bytes → Prop)
    (kept : Persistent) : Prop where
  changed : ∀ object value, changes object value → object.isReadBack = true →
    kept.value? object = some value
  others : ∀ object, (∀ value, ¬ changes object value) → kept.value? object = old.value? object

namespace Persistent.Updates

variable {old old' : Persistent} {changes changes' : DataObject → Bytes → Prop}

/-- Where nothing has a new value, everything may be as it was. -/
theorem none (unchanged : ∀ object value, ¬ changes object value)
    (same : ∀ object, kept.value? object = old.value? object) : old.Updates changes kept :=
  ⟨fun object value changed => absurd changed (unchanged object value), fun object _ => same object⟩

theorem congr (h : old.Updates changes kept)
    (same : ∀ object value, changes object value ↔ changes' object value) :
    old.Updates changes' kept where
  changed object value changed := h.changed object value ((same object value).mpr changed)
  others object unchanged := h.others object fun value changed =>
    unchanged value ((same object value).mp changed)

/-- Only the values matter. -/
theorem transfer (h : old.Updates changes kept)
    (before : ∀ object, old'.value? object = old.value? object)
    (after : ∀ object, kept'.value? object = kept.value? object) : old'.Updates changes kept' where
  changed object value changed known := (after object).trans (h.changed object value changed known)
  others object unchanged := by rw [after, before, h.others object unchanged]

/-- An object that has not its old value was given another one. -/
theorem exists_of_ne (h : old.Updates changes kept) (differs : kept.value? object ≠ old.value? object) :
    ∃ value, changes object value := by
  by_contra unchanged
  exact differs (h.others object (not_exists.mp unchanged))

end Persistent.Updates

/-- What is kept in its cell tells the value of an object. -/
theorem Persistent.value?_of_agrees (same : object.cell.Agrees kept kept') :
    kept'.value? object = kept.value? object := by
  cases object with
  | passwordStatus =>
    have same : kept.lasting = kept'.lasting := same
    rw [value?, value?, same]
  | fingerprint id | caFingerprint id | generationTime id =>
    have same : kept.keys.record id = kept'.keys.record id := same
    rw [value?, value?, same]
  | _ =>
    have same : kept.objects = kept'.objects := same
    rw [value?, value?, same]
    all_goals nofun

/-- A cell stands for one value only. -/
theorem Cell.agrees_of_denotes {cell : Cell} {content : Bytes ⊕ UInt16}
    (h : cell.Denotes kept content) (h' : cell.Denotes kept' content) :
    cell.Agrees kept kept' := by
  have flag_inj : ∀ {b c : Bool}, Cell.flag b = Cell.flag c → b = c := by decide
  cases cell with
  | secret | slot | objects =>
    cases content with
    | inl text => exact Option.some.inj (h.symm.trans h')
    | inr value => cases h
  | counter =>
    cases content with
    | inl text => exact h.2.symm.trans h'.2
    | inr value => cases h
  | lasting | terminated =>
    cases content with
    | inl text => cases h
    | inr value => exact flag_inj (h.symm.trans h')
  | layout | ready => trivial

namespace Card.Holds

variable {store store' : MemoryStore}

/-- Two stores with the same content in a cell keep the same there. -/
theorem agrees (holds : Holds store kept) (holds' : Holds store' kept') {cell : Cell}
    (same : store'.at? cell.place = store.at? cell.place) : cell.Agrees kept kept' := by
  obtain ⟨content, found, denotes⟩ := holds cell
  obtain ⟨content', found', denotes'⟩ := holds' cell
  rw [same, found] at found'
  cases found'
  exact Cell.agrees_of_denotes denotes denotes'

/-- Two stores with the same content in its cell keep the same of an object. -/
theorem value?_eq (holds : Holds store kept) (holds' : Holds store' kept')
    (same : store'.at? object.cell.place = store.at? object.cell.place) :
    kept'.value? object = kept.value? object :=
  Persistent.value?_of_agrees (holds.agrees holds' same)

/-- A PW1 status of zero is read back as such. -/
theorem value?_status (holds : Holds store kept)
    (off : store.at? Cell.lasting.place = some (.inr 0)) :
    kept.value? .passwordStatus = some [0] := by
  obtain ⟨content, found, denotes⟩ := holds .lasting
  cases found.symm.trans off
  have flag : 0 = Cell.flag kept.lasting := denotes
  rw [Persistent.value?]
  cases lasting : kept.lasting with
  | false => rfl
  | true =>
    rw [lasting] at flag
    cases flag

end Card.Holds

end Values

/-! ## Where values are read -/

/-- The place of a slot among those that are shown together. -/
def SlotId.position (id : SlotId) : Nat := all.idxOf id

namespace DataObject

/-- The object in which a value is shown. -/
def shownIn : DataObject → DataObject
  | fingerprint _ => fingerprints
  | caFingerprint _ => caFingerprints
  | generationTime _ => generationTimes
  | object => object

/-- The part of the object in which it is shown that a value takes. -/
def portion (object : DataObject) (data : Bytes) : Bytes :=
  match object with
  | passwordStatus => data.take 1
  | fingerprint id | caFingerprint id => (data.drop (20 * id.position)).take 20
  | generationTime id => (data.drop (4 * id.position)).take 4
  | _ => data

end DataObject

/-- Of three parts of one size, shown together, each stands where its slot says. -/
theorem portion_flatMap {part : SlotId → Bytes} {size : Nat}
    (sized : ∀ id, (part id).length = size) (id : SlotId) :
    ((SlotId.all.flatMap part).drop (size * id.position)).take size = part id := by
  have shown : SlotId.all.flatMap part =
      part .signature ++ (part .decryption ++ part .authentication) := by
    simp [SlotId.all]
  rw [shown]
  cases id with
  | signature =>
    have position : size * SlotId.signature.position = 0 := rfl
    rw [position, List.drop_zero, List.take_left' (sized _)]
  | decryption =>
    have position : size * SlotId.decryption.position = size := Nat.mul_one size
    rw [position, List.drop_left' (sized _), List.take_left' (sized _)]
  | authentication =>
    have position : size * SlotId.authentication.position = size + size := Nat.mul_two size
    rw [position, ← List.drop_drop, List.drop_left' (sized _), List.drop_left' (sized _),
      List.take_of_length_le (Nat.le_of_eq (sized _))]

/-- What is shown of an object that is read back has the value as its portion. -/
theorem portion_value? (memory : Memory) {object : DataObject} {value : Bytes}
    (known : memory.persistent.value? object = some value) :
    ∃ data, memory.value? object.shownIn = some data ∧ object.portion data = value := by
  cases object with
  | passwordStatus =>
    refine ⟨_, rfl, ?_⟩
    cases known
    show [memory.security.statusByte] = _
    rfl
  | fingerprint id | caFingerprint id =>
    refine ⟨_, rfl, ?_⟩
    cases known
    exact portion_flatMap (fun _ => Bytes.length_fitRight _ _) id
  | generationTime id =>
    refine ⟨_, rfl, ?_⟩
    cases known
    exact portion_flatMap (fun _ => Bytes.length_ofNat _ _) id
  | name | language | sex | login | url | certificate | private1 | private2 | private3 | private4 =>
    exact ⟨value, known, rfl⟩
  | _ => cases known

/-! ## Changes of values -/

/-- A string of the right width is neither cut nor filled up. -/
theorem Bytes.fitRight_of_length {width : Nat} {bytes : Bytes} (length : bytes.length = width) :
    fitRight width bytes = bytes := by
  rw [fitRight, List.take_of_length_le (Nat.le_of_eq length), length, Nat.sub_self,
    List.replicate_zero, List.append_nil]

/-- Four bytes are read back from the time that they denote. -/
theorem Bytes.ofNat_time {bytes : Bytes} (length : bytes.length = 4) :
    ofNat 4 (UInt32.ofNat (toNat bytes)).toNat = bytes := by
  have small : toNat bytes < UInt32.size := by
    have bound := toNat_lt bytes
    rwa [length] at bound
  rw [UInt32.toNat_ofNat_of_lt' small, ← length, ofNat_toNat]

namespace Card

variable {memory memory' : Memory} {kept kept' old : Persistent} {object : DataObject}
  {value : Bytes}

/-- A stored object has the value that was written. -/
theorem value?_withValue? {objects objects' : DataObjects}
    (new : objects.withValue? object value = some objects') :
    objects'.value? object = some value := by
  unfold DataObjects.withValue? at new
  split at new
  case h_3 =>
    split at new
    · cases new
      rfl
    · cases new
  case h_11 => cases new
  all_goals
    cases new
    rfl

/-- A value for which nothing is asked in vain fits. -/
theorem fits_of_demand {fits : Bool} {e : CardError}
    (demanded : DataObject.demand fits e = .ok ()) : fits = true := by
  cases fits with
  | true => rfl
  | false => cases demanded

/-- The values of an object that are written fill their place. -/
theorem length_of_check (checked : object.check value = .ok ()) :
    match object with
    | .passwordStatus => value = [0] ∨ value = [1]
    | .fingerprint _ | .caFingerprint _ => value.length = 20
    | .generationTime _ => value.length = 4
    | _ => True := by
  cases object with
  | passwordStatus =>
    have valid := fits_of_demand checked
    rwa [Bool.or_eq_true, beq_iff_eq, beq_iff_eq] at valid
  | fingerprint | caFingerprint | generationTime => exact eq_of_beq (fits_of_demand checked)
  | _ => trivial

end Card

/-! ## Records of slots -/

/-- What a record tells of an object that is kept in its slot. -/
def KeyRecord.value? (record : KeyRecord) : DataObject → Option Bytes
  | .fingerprint _ => some record.fingerprintPadded
  | .caFingerprint _ => some record.caFingerprintPadded
  | .generationTime _ => some (Bytes.ofNat 4 record.generationTime.toNat)
  | _ => none

/-- A slot has a new record, and nothing else that is read back differs. -/
structure Persistent.Rewrites (old : Persistent) (id : SlotId) (record : KeyRecord)
    (kept : Persistent) : Prop where
  records : ∀ other, kept.keys.record other = if other = id then record else old.keys.record other
  objects : kept.objects = old.objects
  lasting : kept.lasting = old.lasting

/-- The fingerprint and the time that a slot says of its key, as values of objects. -/
inductive Describes (id : SlotId) (fingerprint : Bytes) (time : UInt32) : DataObject → Bytes → Prop
  | fingerprint : Describes id fingerprint time (.fingerprint id) fingerprint
  | time : Describes id fingerprint time (.generationTime id) (Bytes.ofNat 4 time.toNat)

theorem Describes.unique {id : SlotId} {fingerprint : Bytes} {time : UInt32} {object : DataObject}
    {value value' : Bytes} (described : Describes id fingerprint time object value)
    (described' : Describes id fingerprint time object value') : value' = value := by
  cases described with
  | fingerprint =>
    cases described'
    rfl
  | time =>
    cases described'
    rfl

namespace Persistent

variable {old kept : Persistent} {id : SlotId} {record : KeyRecord} {object : DataObject}

theorem value?_of_cell (kept : Persistent) (slot : object.cell = .slot id) :
    kept.value? object = (kept.keys.record id).value? object := by
  cases object with
  | fingerprint | caFingerprint | generationTime =>
    cases slot
    rfl
  | _ => cases slot

theorem rewrites_putSlot (old : Persistent) (id : SlotId) (content : KeySlot) :
    old.Rewrites id content.record { old with keys := old.keys.putSlot id content } :=
  ⟨fun other => KeySlots.record_putSlot old.keys id other content, rfl, rfl⟩

namespace Rewrites

/-- The values in the slot are those of the new record. -/
theorem value?_of_cell (h : old.Rewrites id record kept) (slot : object.cell = .slot id) :
    kept.value? object = record.value? object := by
  rw [Persistent.value?_of_cell kept slot, h.records, if_pos rfl]

/-- The others are as they were. -/
theorem value?_of_other (h : old.Rewrites id record kept) (other : object.cell ≠ .slot id) :
    kept.value? object = old.value? object := by
  apply value?_of_agrees
  cases object with
  | passwordStatus => exact h.lasting.symm
  | fingerprint slot | caFingerprint slot | generationTime slot =>
    have apart : slot ≠ id := fun same => other (congrArg Cell.slot same)
    show old.keys.record slot = kept.keys.record slot
    rw [h.records, if_neg apart]
  | _ => exact h.objects.symm

/-- A record that differs in one object alone gives it its value. -/
theorem updates_of_written (h : old.Rewrites id record kept) {written : DataObject} {value : Bytes}
    (slot : written.cell = .slot id) (reads : record.value? written = some value)
    (same : ∀ object, object.cell = .slot id → object ≠ written →
      record.value? object = (old.keys.record id).value? object) :
    old.Updates (fun object value' => object = written ∧ value' = value) kept := by
  constructor
  · rintro object value' ⟨rfl, rfl⟩ -
    rw [h.value?_of_cell slot, reads]
  · intro object unwritten
    have apart : object ≠ written := fun same => unwritten value ⟨same, rfl⟩
    by_cases slot : object.cell = .slot id
    · rw [h.value?_of_cell slot, same object slot apart, Persistent.value?_of_cell old slot]
    · exact h.value?_of_other slot

/-- A new key is described, and the other values are as they were. -/
theorem updates {fingerprint : Bytes} {time : UInt32} {components : Option Rsa.Components}
    (h : old.Rewrites id { old.keys.record id with
      fingerprint, generationTime := time, components } kept)
    (full : fingerprint.length = 20) : old.Updates (Describes id fingerprint time) kept := by
  constructor
  · rintro object value (_ | _) -
    · rw [h.value?_of_cell rfl]
      exact congrArg some (Bytes.fitRight_of_length full)
    · exact h.value?_of_cell rfl
  · intro object undescribed
    by_cases slot : object.cell = .slot id
    · rw [h.value?_of_cell slot, Persistent.value?_of_cell old slot]
      cases object with
      | fingerprint =>
        cases slot
        exact absurd .fingerprint (undescribed _)
      | generationTime =>
        cases slot
        exact absurd .time (undescribed _)
      | caFingerprint => rfl
      | _ => cases slot
    · exact h.value?_of_other slot

end Rewrites

end Persistent

namespace Card

variable {memory memory' : Memory} {kept' : Persistent} {object : DataObject} {value : Bytes}

/-- A write that was done gives its object the value. -/
theorem Writes.updates (h : Writes memory value object (.ok ()) memory' kept')
    (checked : object.check value = .ok ()) :
    memory.persistent.Updates (fun object' value' => object' = object ∧ value' = value) kept' := by
  have fits := length_of_check checked
  generalize result : (.ok () : Except CardError Unit) = r at h
  cases h with
  | status saved =>
    cases saved with
    | refused => cases result
    | done =>
      constructor
      · rintro _ _ ⟨rfl, rfl⟩ -
        rcases fits with rfl | rfl <;> rfl
      · intro other apart
        cases other with
        | passwordStatus => exact absurd ⟨rfl, rfl⟩ (apart value)
        | _ => rfl
  | @fingerprint id _ _ _ commits | @caFingerprint id _ _ _ commits
  | @generationTime id _ _ _ commits =>
    cases commits with
    | refused => cases result
    | done =>
      have rewrites := Persistent.rewrites_putSlot memory.persistent id
      refine (rewrites _).updates_of_written rfl ?_ fun other slot apart => ?_
      · first
          | exact congrArg some (Bytes.fitRight_of_length fits)
          | exact congrArg some (Bytes.ofNat_time fits)
      · cases other <;> cases slot <;> first | rfl | exact absurd rfl apart
  | resettingCode =>
    constructor
    · rintro _ _ ⟨rfl, rfl⟩ known
      cases known
    · intro other _
      cases other <;> rfl
  | @stored _ objects _ _ new saved =>
    cases saved with
    | refused => cases result
    | done =>
      constructor
      · rintro stored _ ⟨rfl, rfl⟩ -
        have written := value?_withValue? new
        cases stored with
        | passwordStatus | fingerprint | caFingerprint | generationTime => cases written
        | _ => exact written
      · intro other apart
        have apart : other ≠ object := fun same => apart value ⟨same, rfl⟩
        cases other with
        | passwordStatus | fingerprint | caFingerprint | generationTime => rfl
        | _ => exact value?_of_withValue? new apart
  | unknown => cases result

end Card

end PgpCard
