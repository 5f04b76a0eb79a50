import PgpCard.CardError
import PgpCard.Environment
import PgpCard.Key.Import
import PgpCard.Key.Public
import PgpCard.Record.Key
import PgpCard.Rsa.Padding
import PgpCard.Store.Records

/-!
# Key slots and the signature counter

Each slot has its record and, where the record has components, the private key rebuilt from
them.  The signature counter belongs to the signature key and is kept on three bytes.

* `KeySlots.generate` and `KeySlots.importKey` fill a slot.
* `KeySlots.sign`, `KeySlots.decipher` and `KeySlots.authenticate` use the key of a slot; a
  signature is counted before it is made.
* `KeySlots.load` rebuilds everything from the store.

Each change is written to the store first and then made in memory.
-/

set_option autoImplicit false

namespace PgpCard

/-- A slot: what is kept of it, and its private key. -/
structure KeySlot where
  record : KeyRecord
  key : Option Rsa.PrivateKey
  deriving DecidableEq, Repr

/-- The three slots and the signature counter. -/
structure KeySlots where
  signature : KeySlot
  decryption : KeySlot
  authentication : KeySlot
  /-- The number of signatures made with the signature key. -/
  counter : Nat
  deriving DecidableEq, Repr

namespace KeySlots

/-- A slot without a key. -/
def emptySlot : KeySlot := ⟨.empty, none⟩

/-- Three slots without keys. -/
def factory : KeySlots := ⟨emptySlot, emptySlot, emptySlot, 0⟩

/-- One of the slots. -/
def slot (keys : KeySlots) : SlotId → KeySlot
  | .signature => keys.signature
  | .decryption => keys.decryption
  | .authentication => keys.authentication

/-- The slots with a new content for one of them. -/
def putSlot (id : SlotId) (content : KeySlot) (keys : KeySlots) : KeySlots :=
  match id with
  | .signature => { keys with signature := content }
  | .decryption => { keys with decryption := content }
  | .authentication => { keys with authentication := content }

/-- What is kept of a slot. -/
def record (keys : KeySlots) (id : SlotId) : KeyRecord := (keys.slot id).record

/-- A slot has no key. -/
def isEmpty (keys : KeySlots) (id : SlotId) : Bool := (keys.slot id).key.isNone

/-! ## What the slots show -/

/-- The algorithm attributes of a slot. -/
def attributes (keys : KeySlots) (id : SlotId) : Bytes := (keys.record id).attributes.toBytes

/-- The fingerprints of all slots. -/
def fingerprints (keys : KeySlots) : Bytes :=
  SlotId.all.flatMap fun id => (keys.record id).fingerprintPadded

/-- The fingerprints of the keys that certify those in the slots. -/
def caFingerprints (keys : KeySlots) : Bytes :=
  SlotId.all.flatMap fun id => (keys.record id).caFingerprintPadded

/-- The times at which the keys were made. -/
def generationTimes (keys : KeySlots) : Bytes :=
  SlotId.all.flatMap fun id => Bytes.ofNat 4 (keys.record id).generationTime.toNat

/-- The public key of a slot. -/
def publicKey (keys : KeySlots) (id : SlotId) : Except CardError Bytes :=
  match (keys.record id).components with
  | none => .error .referencedDataNotFound
  | some components => .ok (publicKeyTemplate components.n components.e)

/-! ## The signature counter -/

/-- The name of the counter in the store. -/
def counterName : String := "ds_counter"

/-- The length of the counter in the store. -/
def counterLength : Nat := 3

/-- The greatest value of the counter. -/
def counterMax : Nat := 0xFFFFFF

/-- The counter on three bytes. -/
def counterBytes (keys : KeySlots) : Bytes := Bytes.ofNat counterLength keys.counter

variable {σ : Type} [Backend σ]

/-- Writes a value of the counter to the store. -/
def saveCounter (value : Nat) : Attempt StoreError σ Unit :=
  Backend.writeBlob counterName (Bytes.ofNat counterLength value)

/-- The counter as the store has it. -/
def loadCounter : Attempt StoreError σ Nat := do
  match ← Backend.readBlob counterName with
  | none => throw (.corrupt counterName .missing)
  | some bytes =>
    if bytes.length = counterLength then return Bytes.toNat bytes
    throw (.corrupt counterName (.counterLength bytes.length))

/-- Gives the counter a value, at most the greatest one. -/
def setCounter (value : Nat) : Attempt StoreError (Kept KeySlots σ) Unit := do
  let value := min value counterMax
  Kept.onStore (saveCounter value)
  Kept.adjust fun keys => { keys with counter := value }

/-! ## Filling and emptying slots -/

/-- Empties all slots and sets the counter to zero. -/
def makeFactory : Attempt StoreError (Kept KeySlots σ) Unit := do
  Kept.adjust fun _ => factory
  Kept.onStore (Store.saveRecord SlotId.signature.recordName KeyRecord.empty)
  Kept.onStore (Store.saveRecord SlotId.decryption.recordName KeyRecord.empty)
  Kept.onStore (Store.saveRecord SlotId.authentication.recordName KeyRecord.empty)
  Kept.onStore (saveCounter 0)

/-- A slot as the store has it, its key rebuilt from the components. -/
def loadSlot (id : SlotId) : Attempt StoreError σ KeySlot := do
  let record : KeyRecord ← Store.requireRecord id.recordName
  match record.components with
  | none => return ⟨record, none⟩
  | some components =>
    match Rsa.PrivateKey.ofComponents? components with
    | .error e => throw (.corrupt id.recordName (.invalidKey e))
    | .ok key => return ⟨record, some key⟩

/-- The slots and the counter as the store has them. -/
def load : Attempt StoreError σ KeySlots := do
  let signature ← loadSlot .signature
  let decryption ← loadSlot .decryption
  let authentication ← loadSlot .authentication
  let counter ← loadCounter
  return { signature, decryption, authentication, counter }

/-- Gives a slot a new content, in the store and then in memory. -/
def commit (id : SlotId) (content : KeySlot) : Attempt StoreError (Kept KeySlots σ) Unit := do
  Kept.onStore (Store.saveRecord id.recordName content.record)
  Kept.adjust (putSlot id content)

/-- Makes a new key in a slot and returns its public part.  A new signature key starts with a
counter of zero. -/
def generate (env : Environment) (id : SlotId) : Attempt CardError (Kept KeySlots σ) Bytes := do
  let key ← (Attempt.ofExcept (env.newKey ())).mapError .crypto
  let components ← (Attempt.ofExcept key.components?).mapError .crypto
  let old := (← Kept.held).record id
  let record := { old with
    fingerprint := fingerprint components.n components.e env.now
    generationTime := env.now
    components := some components }
  (commit id ⟨record, some key⟩).mapError .storage
  if id = .signature then
    (setCounter 0).mapError .storage
  return publicKeyTemplate components.n components.e

/-- How a command reports a key that cannot be made from its parts. -/
def importFailure : Rsa.Error → CardError
  | .unsupportedModulus _ => .dataInvalid
  | other => .crypto other

/-- Puts an imported key into the slot that it names.  Its fingerprint and time are blank until
the host writes them. -/
def importKey (data : Bytes) : Attempt CardError (Kept KeySlots σ) SlotId := do
  match ImportTemplate.parse? data with
  | none => throw .dataInvalid
  | some template =>
    let key ← (Attempt.ofExcept (Rsa.PrivateKey.ofFactors? (Bytes.toNatOfLong template.exponent)
      (Bytes.toNatOfLong template.p) (Bytes.toNatOfLong template.q))).mapError importFailure
    let components ← (Attempt.ofExcept key.components?).mapError .crypto
    let old := (← Kept.held).record template.slot
    let record := { old with
      fingerprint := KeyRecord.blankFingerprint
      generationTime := 0
      components := some components }
    (commit template.slot ⟨record, some key⟩).mapError .storage
    return template.slot

/-! ## Using keys -/

/-- The key of a slot. -/
def requireKey (id : SlotId) : Attempt CardError (Kept KeySlots σ) Rsa.PrivateKey := do
  match ((← Kept.held).slot id).key with
  | none => throw .referencedDataNotFound
  | some key => return key

/-- Signs a message with the signature key, after the counter has been raised. -/
def sign (message : Bytes) : Attempt CardError (Kept KeySlots σ) Bytes := do
  let key ← requireKey .signature
  if Rsa.maxMessageLength < message.length then
    throw .wrongLength
  let counter := (← Kept.held).counter
  if counterMax ≤ counter then
    throw .stateUnchanged
  (setCounter (counter + 1)).mapError .storage
  Kept.note (.keyUsed .signature)
  (Attempt.ofExcept (key.sign? message)).mapError .crypto

/-- Deciphers with the decryption key: one byte for the kind of padding, then the cryptogram. -/
def decipher (data : Bytes) : Attempt CardError (Kept KeySlots σ) Bytes := do
  let key ← requireKey .decryption
  if data.length ≠ Rsa.keyBytes + 1 then
    throw .dataInvalid
  Kept.note (.keyUsed .decryption)
  (Attempt.ofExcept (key.decrypt? (data.drop 1))).mapError .crypto

/-- Signs a challenge with the authentication key. -/
def authenticate (challenge : Bytes) : Attempt CardError (Kept KeySlots σ) Bytes := do
  let key ← requireKey .authentication
  if Rsa.maxMessageLength < challenge.length then
    throw .wrongLength
  Kept.note (.keyUsed .authentication)
  (Attempt.ofExcept (key.sign? challenge)).mapError .crypto

/-! ## What the host writes about a key -/

/-- Changes the record of a slot and keeps its key. -/
def updateRecord (id : SlotId) (change : KeyRecord → KeyRecord) :
    Attempt StoreError (Kept KeySlots σ) Unit := do
  let old := (← Kept.held).slot id
  commit id { old with record := change old.record }

/-- Writes the fingerprint of a slot's key. -/
def setFingerprint (id : SlotId) (value : Bytes) : Attempt StoreError (Kept KeySlots σ) Unit :=
  updateRecord id fun record => { record with fingerprint := value }

/-- Writes the fingerprint of the key that certifies a slot's key. -/
def setCaFingerprint (id : SlotId) (value : Bytes) : Attempt StoreError (Kept KeySlots σ) Unit :=
  updateRecord id fun record => { record with caFingerprint := value }

/-- Writes the time at which a slot's key was made. -/
def setGenerationTime (id : SlotId) (time : UInt32) : Attempt StoreError (Kept KeySlots σ) Unit :=
  updateRecord id fun record => { record with generationTime := time }

end KeySlots

end PgpCard
