import PgpCard.Card.Lifecycle
import PgpCard.DataObject.Access

/-!
# Commands about data objects

GET DATA and PUT DATA name an object by P1 and P2.  Some objects are stored as they were
written, others are put together from the state of the card.

* `Memory.value?` is what GET DATA shows of an object.
* `Card.write` is what PUT DATA does with an object whose value has been checked.
-/

set_option autoImplicit false

namespace PgpCard

namespace Memory

/-- The PW1 status, the greatest lengths of the secrets, and the attempts left for PW1, RC and
PW3. -/
def passwordStatus (memory : Memory) : Bytes :=
  let longest := UInt8.ofNat SecretId.maxLength
  let rc := memory.secrets.rc
  [memory.security.statusByte, longest, longest, longest, memory.secrets.pw1.remaining,
    if rc.isSet then rc.remaining else 0, memory.secrets.pw3.remaining]

/-- The discretionary objects of the application as one element. -/
def discretionaryData (memory : Memory) : Bytes :=
  let keys := memory.keys
  ((((((((TlvBuilder.empty.add DataObject.capabilities.tag Profile.capabilities).add
    (DataObject.attributes .signature).tag (keys.attributes .signature)).add
    (DataObject.attributes .decryption).tag (keys.attributes .decryption)).add
    (DataObject.attributes .authentication).tag (keys.attributes .authentication)).add
    DataObject.passwordStatus.tag memory.passwordStatus).add
    DataObject.fingerprints.tag keys.fingerprints).add
    DataObject.caFingerprints.tag keys.caFingerprints).add
    DataObject.generationTimes.tag keys.generationTimes).wrap DataObject.discretionaryTag |>.bytes

/-- All that describes the application, as elements one after another. -/
def applicationData (memory : Memory) : Bytes :=
  ((TlvBuilder.empty.add DataObject.applicationId.tag memory.profile.applicationId).add
    DataObject.historicalBytes.tag Profile.historicalBytes).addRaw memory.discretionaryData
    |>.bytes

/-- The signature counter as an element. -/
def securitySupport (memory : Memory) : Bytes :=
  Tlv.encode DataObject.signatureCounter.tag memory.keys.counterBytes

/-- What is shown of an object. -/
def value? (memory : Memory) : DataObject → Option Bytes
  | .applicationId => some memory.profile.applicationId
  | .historicalBytes => some Profile.historicalBytes
  | .cardholder => some memory.objects.cardholderData
  | .applicationData => some memory.applicationData
  | .securitySupport => some memory.securitySupport
  | .capabilities => some Profile.capabilities
  | .attributes slot => some (memory.keys.attributes slot)
  | .passwordStatus => some memory.passwordStatus
  | .fingerprints => some memory.keys.fingerprints
  | .caFingerprints => some memory.keys.caFingerprints
  | .generationTimes => some memory.keys.generationTimes
  | .signatureCounter => some memory.keys.counterBytes
  | other => memory.objects.value? other

end Memory

namespace Card

variable {σ : Type} [Backend σ]

/-- Fails unless a read or a write is allowed. -/
def requireAccess (access : Option Access) : Attempt CardError (Card σ) Unit := do
  match access with
  | none => throw .recordNotFound
  | some access =>
    if !access.granted (← Kept.held).security then
      throw .securityStatusNotSatisfied

/-- The object that a command names. -/
def requireObject (cmd : Command) : Attempt CardError (Card σ) DataObject :=
  match DataObject.ofTag? cmd.p1p2 with
  | none => throw .recordNotFound
  | some object => pure object

/-- GET DATA. -/
def getData (cmd : Command) : Attempt CardError (Card σ) Bytes := do
  let object ← requireObject cmd
  requireAccess object.readAccess?
  match (← Kept.held).value? object with
  | none => throw .recordNotFound
  | some value => return value

/-- Writes the PW1 status. -/
def writeStatus (status : UInt8) : Attempt CardError (Card σ) Unit := do
  (Kept.onStore (Backend.writeByte pw1StatusKey status)).mapError .storage
  adjustSecurity (Security.setLasting (status == 1))

/-- Writes an object whose value has been checked. -/
def write (value : Bytes) : DataObject → Attempt CardError (Card σ) Unit
  | .passwordStatus => writeStatus (value.headD 0)
  | .fingerprint slot => (onKeys (KeySlots.setFingerprint slot value)).mapError .storage
  | .caFingerprint slot => (onKeys (KeySlots.setCaFingerprint slot value)).mapError .storage
  | .generationTime slot =>
    (onKeys (KeySlots.setGenerationTime slot (UInt32.ofNat (Bytes.toNat value)))).mapError
      .storage
  | .resettingCode =>
    if value.isEmpty then (onSecrets Secrets.clearCode).mapError .storage
    else (onSecrets (Secrets.setValue .rc value)).mapError .storage
  | other => onObjects (DataObjects.put other value)

/-- PUT DATA. -/
def putData (cmd : Command) : Attempt CardError (Card σ) Bytes := do
  let object ← requireObject cmd
  requireAccess object.writeAccess?
  Attempt.ofExcept (object.check cmd.data)
  write cmd.data object
  return []

end Card

end PgpCard
