import PgpCard.Key.Slots
import PgpCard.DataObject.Stored
import PgpCard.Proofs.Accord
import PgpCard.Proofs.Record.RoundTrip
import PgpCard.Secret.Secrets
import Mathlib.Data.Option.Basic

/-!
# Stores that differ in the private objects

Two records of data objects look alike if they differ in the third and the fourth private object at
most.  Related stores are `Discreet` if they answer alike but for this record, where they answer
with records that look alike.

Above such stores, whatever is done with the secrets and the key slots is the same on both sides,
and a write of a data object leaves records that look alike.
-/

set_option autoImplicit false

namespace PgpCard

open Attempt

/-! ## What looks alike -/

namespace DataObjects

/-- Two records differ in the third and the fourth private object at most. -/
def LooksLike (objects objects' : DataObjects) : Prop :=
  ∃ private3 private4, objects' = { objects with private3, private4 }

variable {objects objects' : DataObjects} {object : DataObject}

theorem LooksLike.refl (objects : DataObjects) : objects.LooksLike objects := ⟨_, _, rfl⟩

/-- No other object shows what the two private objects are. -/
theorem LooksLike.value? (same : objects.LooksLike objects') (not3 : object ≠ .private3)
    (not4 : object ≠ .private4) : objects'.value? object = objects.value? object := by
  obtain ⟨private3, private4, rfl⟩ := same
  cases object with
  | private3 => exact absurd rfl not3
  | private4 => exact absurd rfl not4
  | _ => rfl

/-- What is written takes the place of the same object in both records. -/
theorem LooksLike.withValue? (same : objects.LooksLike objects') (object : DataObject)
    (value : Bytes) :
    Option.Rel LooksLike (objects.withValue? object value) (objects'.withValue? object value) := by
  obtain ⟨private3, private4, rfl⟩ := same
  cases object with
  | sex =>
    match value with
    | [_] => exact .some ⟨private3, private4, rfl⟩
    | [] | _ :: _ :: _ => exact .none
  | name | language | login | url | certificate | private1 | private2 | private3 | private4 =>
    exact .some ⟨_, _, rfl⟩
  | _ => exact .none

end DataObjects

/-! ## Stores that answer alike -/

/-- Two texts stand for records of data objects that look alike. -/
def DataObjects.ReadsLike (text text' : Bytes) : Prop :=
  ∃ objects objects' : DataObjects, Record.decode? text = some objects ∧
    Record.decode? text' = some objects' ∧ objects.LooksLike objects'

theorem DataObjects.LooksLike.encode {objects objects' : DataObjects}
    (same : objects.LooksLike objects') :
    ReadsLike (Record.encode objects) (Record.encode objects') :=
  ⟨objects, objects', Record.decode?_encode objects, Record.decode?_encode objects', same⟩

/-- Stores that are related answer alike, but for the text of the data objects; there they answer
with texts that stand for records that look alike, and they take such texts. -/
structure Discreet {σ : Type} [Backend σ] (stores : σ → σ → Prop) : Prop where
  readByte : ∀ key, Steady stores (Backend.readByte key)
  writeByte : ∀ key value, Steady stores (Backend.writeByte key value)
  readWord : ∀ key, Steady stores (Backend.readWord key)
  writeWord : ∀ key value, Steady stores (Backend.writeWord key value)
  readBlob : ∀ name, name ≠ DataObjects.recordName → Steady stores (Backend.readBlob name)
  writeBlob : ∀ name data, name ≠ DataObjects.recordName →
    Steady stores (Backend.writeBlob name data)
  readObjects : Accords stores (Option.Rel DataObjects.ReadsLike)
    (Backend.readBlob DataObjects.recordName) (Backend.readBlob DataObjects.recordName)
  writeObjects : ∀ text text', DataObjects.ReadsLike text text' →
    Accords stores Eq (Backend.writeBlob DataObjects.recordName text)
      (Backend.writeBlob DataObjects.recordName text')
  note : ∀ step store store', stores store store' →
    stores (Backend.note step store) (Backend.note step store')

theorem SecretId.recordName_ne_objects (id : SecretId) :
    id.recordName ≠ DataObjects.recordName := by
  cases id <;> decide

theorem SlotId.recordName_ne_objects (id : SlotId) :
    id.recordName ≠ DataObjects.recordName := by
  cases id <;> decide

theorem KeySlots.counterName_ne_objects : KeySlots.counterName ≠ DataObjects.recordName := by
  decide

variable {σ : Type} [Backend σ] {stores : σ → σ → Prop} (discreet : Discreet stores)

section Discreet

include discreet

section Records

variable {α : Type} [Recorded α] {name : String}

theorem requireRecord_steady (other : name ≠ DataObjects.recordName) :
    Steady stores (Store.requireRecord name : Attempt StoreError σ α) := by
  refine Steady.bind (Steady.bind (discreet.readBlob name other) fun text => ?_) fun found => ?_
  · split
    · exact Steady.pure
    · split
      · exact Steady.throw
      · exact Steady.pure
  · split
    · exact Steady.throw
    · exact Steady.pure

theorem saveRecord_steady (other : name ≠ DataObjects.recordName) (record : α) :
    Steady stores (Store.saveRecord name record) :=
  discreet.writeBlob name _ other

end Records

open Kept (Related)

/-! ## Secrets -/

namespace Secrets

theorem persist_steady (id : SecretId) : Steady (Related Eq stores) (persist id) :=
  Steady.bind Steady.held fun _ =>
    Steady.onStore (saveRecord_steady discreet id.recordName_ne_objects _)

theorem replace_steady (id : SecretId) (record : SecretRecord) :
    Steady (Related Eq stores) (replace id record) :=
  Steady.bind Steady.adjust fun _ => persist_steady discreet id

theorem makeFactory_steady :
    Steady (Related Eq stores) (makeFactory : Attempt StoreError (Kept Secrets σ) Unit) := by
  refine Steady.bind Steady.adjust fun _ => ?_
  refine Steady.bind (persist_steady discreet .pw1) fun _ => ?_
  exact Steady.bind (persist_steady discreet .pw3) fun _ => persist_steady discreet .rc

theorem load_steady : Steady stores (load : Attempt StoreError σ Secrets) := by
  have loads : ∀ id : SecretId, Steady stores
      (Store.requireRecord id.recordName : Attempt StoreError σ SecretRecord) :=
    fun id => requireRecord_steady discreet id.recordName_ne_objects
  refine Steady.bind (loads .pw1) fun _ => ?_
  exact Steady.bind (loads .pw3) fun _ => Steady.bind (loads .rc) fun _ => Steady.pure

theorem setValue_steady (id : SecretId) (value : Bytes) :
    Steady (Related Eq stores) (setValue id value) :=
  Steady.bind Steady.held fun _ => replace_steady discreet id _

theorem clearCode_steady :
    Steady (Related Eq stores) (clearCode : Attempt StoreError (Kept Secrets σ) Unit) :=
  Steady.bind Steady.held fun _ => replace_steady discreet .rc _

theorem resetWithLimit_steady (id : SecretId) (limit : UInt8) :
    Steady (Related Eq stores) (resetWithLimit id limit) :=
  replace_steady discreet id _

theorem check_steady (id : SecretId) (candidate : Bytes) :
    Steady (Related Eq stores) (check id candidate) := by
  refine Steady.bind Steady.held fun secrets => ?_
  dsimp only
  split
  · exact Steady.throw_bind
  · refine Steady.bind (replace_steady discreet id _).mapError fun _ => ?_
    refine Steady.bind (Steady.note (discreet.note _)) fun _ => ?_
    split
    · exact Steady.bind (replace_steady discreet id _).mapError fun _ => Steady.pure
    · exact Steady.pure

theorem verify_steady (id : SecretId) (candidate : Bytes) :
    Steady (Related Eq stores) (verify id candidate) := by
  unfold verify
  dsimp only
  split
  · exact Steady.throw_bind
  · refine Steady.bind (check_steady discreet id candidate) fun matched => ?_
    cases matched with
    | true => exact Steady.pure
    | false =>
      refine Steady.bind Steady.held fun secrets => ?_
      split
      · exact Steady.throw_bind
      · exact Steady.throw

theorem change_steady (id : SecretId) (data : Bytes) :
    Steady (Related Eq stores) (change id data) := by
  refine Steady.bind Steady.held fun secrets => ?_
  dsimp only
  split
  · exact Steady.throw_bind
  · split
    · exact Steady.throw_bind
    · refine Steady.bind (check_steady discreet id _) fun matched => ?_
      cases matched with
      | true => exact (setValue_steady discreet id _).mapError
      | false => exact Steady.throw

theorem resetPw1_steady (value : Bytes) : Steady (Related Eq stores) (resetPw1 value) := by
  unfold resetPw1
  dsimp only
  split
  · exact Steady.throw_bind
  · exact (setValue_steady discreet .pw1 value).mapError

theorem resetWithCode_steady (data : Bytes) :
    Steady (Related Eq stores) (resetWithCode data) := by
  refine Steady.bind Steady.held fun secrets => ?_
  dsimp only
  split
  · exact Steady.throw_bind
  · split
    · exact Steady.throw_bind
    · split
      · exact Steady.throw_bind
      · refine Steady.bind (check_steady discreet .rc _) fun matched => ?_
        cases matched with
        | true => exact resetPw1_steady discreet _
        | false => exact Steady.throw

end Secrets

/-! ## Key slots -/

namespace KeySlots

theorem saveCounter_steady (value : Nat) : Steady stores (saveCounter value) :=
  discreet.writeBlob _ _ counterName_ne_objects

theorem loadCounter_steady : Steady stores (loadCounter : Attempt StoreError σ Nat) := by
  refine Steady.bind (discreet.readBlob _ counterName_ne_objects) fun found => ?_
  split
  · exact Steady.throw
  · split
    · exact Steady.pure
    · exact Steady.throw

theorem setCounter_steady (value : Nat) : Steady (Related Eq stores) (setCounter value) :=
  Steady.bind (Steady.onStore (saveCounter_steady discreet _)) fun _ => Steady.adjust

theorem makeFactory_steady :
    Steady (Related Eq stores) (makeFactory : Attempt StoreError (Kept KeySlots σ) Unit) := by
  have saves : ∀ id : SlotId, Steady (Related Eq stores)
      (Kept.onStore (Store.saveRecord id.recordName KeyRecord.empty) :
        Attempt StoreError (Kept KeySlots σ) Unit) :=
    fun id => Steady.onStore (saveRecord_steady discreet id.recordName_ne_objects _)
  refine Steady.bind Steady.adjust fun _ => ?_
  refine Steady.bind (saves .signature) fun _ => ?_
  refine Steady.bind (saves .decryption) fun _ => ?_
  refine Steady.bind (saves .authentication) fun _ => ?_
  exact Steady.onStore (saveCounter_steady discreet 0)

theorem loadSlot_steady (id : SlotId) : Steady stores (loadSlot id) := by
  refine Steady.bind (requireRecord_steady discreet id.recordName_ne_objects) fun record => ?_
  split
  · exact Steady.pure
  · split
    · exact Steady.throw
    · exact Steady.pure

theorem load_steady : Steady stores (load : Attempt StoreError σ KeySlots) := by
  refine Steady.bind (loadSlot_steady discreet .signature) fun _ => ?_
  refine Steady.bind (loadSlot_steady discreet .decryption) fun _ => ?_
  refine Steady.bind (loadSlot_steady discreet .authentication) fun _ => ?_
  exact Steady.bind (loadCounter_steady discreet) fun _ => Steady.pure

theorem commit_steady (id : SlotId) (content : KeySlot) :
    Steady (Related Eq stores) (commit id content) :=
  Steady.bind (Steady.onStore (saveRecord_steady discreet id.recordName_ne_objects _))
    fun _ => Steady.adjust

theorem updateRecord_steady (id : SlotId) (change : KeyRecord → KeyRecord) :
    Steady (Related Eq stores) (updateRecord id change) :=
  Steady.bind Steady.held fun _ => commit_steady discreet id _

theorem generate_steady (env : Environment) (id : SlotId) :
    Steady (Related Eq stores) (generate env id) := by
  refine Steady.bind Steady.ofExcept.mapError fun key => ?_
  refine Steady.bind Steady.ofExcept.mapError fun components => ?_
  refine Steady.bind Steady.held fun keys => ?_
  refine Steady.bind (commit_steady discreet id _).mapError fun _ => ?_
  dsimp only
  split
  · exact Steady.bind (setCounter_steady discreet 0).mapError fun _ => Steady.pure
  · exact Steady.pure

theorem importKey_steady (data : Bytes) : Steady (Related Eq stores) (importKey data) := by
  unfold importKey
  split
  · exact Steady.throw
  · refine Steady.bind Steady.ofExcept.mapError fun key => ?_
    refine Steady.bind Steady.ofExcept.mapError fun components => ?_
    refine Steady.bind Steady.held fun keys => ?_
    exact Steady.bind (commit_steady discreet _ _).mapError fun _ => Steady.pure

omit [Backend σ] discreet in
theorem requireKey_steady (id : SlotId) :
    Steady (Related Eq stores) (requireKey id : Attempt CardError (Kept KeySlots σ) _) := by
  refine Steady.bind Steady.held fun keys => ?_
  split
  · exact Steady.throw
  · exact Steady.pure

/-- The use of a key shows nothing of the store. -/
theorem useKey_steady (id : SlotId) (result : Except Rsa.Error Bytes) :
    Steady (Related Eq stores) (do
      Kept.note (.keyUsed id)
      (Attempt.ofExcept result).mapError .crypto :
        Attempt CardError (Kept KeySlots σ) Bytes) :=
  Steady.bind (Steady.note (discreet.note _)) fun _ => Steady.ofExcept.mapError

theorem sign_steady (message : Bytes) : Steady (Related Eq stores) (sign message) := by
  refine Steady.bind (requireKey_steady _) fun key => ?_
  dsimp only
  split
  · exact Steady.throw_bind
  · refine Steady.bind Steady.held fun keys => ?_
    split
    · exact Steady.throw_bind
    · refine Steady.bind (setCounter_steady discreet _).mapError fun _ => ?_
      exact useKey_steady discreet .signature _

theorem decipher_steady (data : Bytes) : Steady (Related Eq stores) (decipher data) := by
  refine Steady.bind (requireKey_steady _) fun key => ?_
  dsimp only
  split
  · exact Steady.throw_bind
  · exact useKey_steady discreet .decryption _

theorem authenticate_steady (challenge : Bytes) :
    Steady (Related Eq stores) (authenticate challenge) := by
  refine Steady.bind (requireKey_steady _) fun key => ?_
  dsimp only
  split
  · exact Steady.throw_bind
  · exact useKey_steady discreet .authentication _

end KeySlots

/-! ## Data objects -/

namespace DataObjects

theorem load_accords :
    Accords stores LooksLike (load : Attempt StoreError σ DataObjects) load := by
  have finds : Accords stores (Option.Rel LooksLike)
      (Store.loadRecord recordName : Attempt StoreError σ (Option DataObjects))
      (Store.loadRecord recordName) := by
    refine Accords.bind discreet.readObjects ?_
    rintro _ _ (⟨objects, objects', reads, reads', same⟩ | _)
    · dsimp only
      rw [reads, reads']
      exact Accords.pure (.some same)
    · exact Accords.pure .none
  refine Accords.bind finds ?_
  rintro _ _ (same | _)
  · exact Accords.pure same
  · exact Accords.throw _

theorem save_accords {objects objects' : DataObjects} (same : objects.LooksLike objects') :
    Accords stores Eq (Store.saveRecord recordName objects)
      (Store.saveRecord recordName objects') :=
  discreet.writeObjects _ _ same.encode

theorem makeFactory_steady :
    Steady (Related LooksLike stores)
      (makeFactory : Attempt StoreError (Kept DataObjects σ) Unit) := by
  refine Steady.bind (Accords.adjust fun _ _ _ => LooksLike.refl _) fun _ => ?_
  exact Accords.onStore (save_accords discreet (LooksLike.refl _))

/-- A write brings records that look alike to the store and then to memory. -/
theorem put_steady (object : DataObject) (value : Bytes) :
    Steady (Related LooksLike stores) (put object value) := by
  refine Accords.bind Accords.held fun objects objects' same => ?_
  have written := same.withValue? object value
  generalize objects.withValue? object value = next, objects'.withValue? object value = next'
    at written
  cases written with
  | none => exact Accords.throw _
  | some alike =>
    refine Accords.bind (Accords.onStore (save_accords discreet alike)).mapError fun _ _ _ => ?_
    exact Accords.adjust fun _ _ _ => alike

end DataObjects

end Discreet

end PgpCard
