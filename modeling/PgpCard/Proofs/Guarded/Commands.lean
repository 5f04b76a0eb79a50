import PgpCard.Card.Process
import PgpCard.Proofs.Guarded.Keys
import PgpCard.Proofs.Guarded.Secrets

/-!
# Commands within range

Each command that uses partial operations, itself or below, is carried out with these made explicit.
The others are taken as they are.

* `Machine.write_eq` : the value of an object is taken apart within range, since it is held against
  the limits of the object first, and the tag of a slot is no smaller than the first of its group;
* `Machine.dispatch_eq` : a command with no more data than a chain may hold is carried out within
  range, on any memory and any store, and does what `Card.dispatch` does.
-/

set_option autoImplicit false

namespace PgpCard.Guarded

open Card (onSecrets onKeys onObjects adjustSecurity)

variable {ε σ α : Type}

/-! ## Parts of a card -/

@[simp] theorem guarded_onSecrets {act : Attempt ε (Kept Secrets σ) α} :
    (onSecrets act).guarded = onSecrets act.guarded :=
  Kept.guarded_onPart

@[simp] theorem guarded_onKeys {act : Attempt ε (Kept KeySlots σ) α} :
    (onKeys act).guarded = onKeys act.guarded :=
  Kept.guarded_onPart

@[simp] theorem guarded_adjustSecurity {change : Security → Security} :
    (adjustSecurity change : Attempt ε (Card σ) Unit).guarded = adjustSecurity change :=
  rfl

variable [Backend σ]

namespace Machine

/-! ## Secrets -/

/-- VERIFY. -/
def verify (cmd : Command) : Attempt (Halt CardError) (Card σ) Bytes := do
  match Card.verifyTarget? cmd.p2 with
  | none => throw (.failed .incorrectP1P2)
  | some (secret, condition) =>
    match ← (onSecrets (Guarded.verify secret cmd.data)).guardedOutcome with
    | .ok () =>
      adjustSecurity (Security.grant condition)
      return []
    | .error e =>
      adjustSecurity (Security.revokeSecret secret)
      throw (.failed e)

/-- CHANGE REFERENCE DATA. -/
def changeReferenceData (cmd : Command) : Attempt (Halt CardError) (Card σ) Bytes := do
  match Card.changeTarget? cmd.p2 with
  | none => throw (.failed .incorrectP1P2)
  | some secret =>
    let result ← (onSecrets (Guarded.change secret cmd.data)).guardedOutcome
    adjustSecurity (Security.revokeSecret secret)
    match result with
    | .ok () => return []
    | .error e => throw (.failed e)

/-- RESET RETRY COUNTER. -/
def resetRetryCounter (cmd : Command) : Attempt (Halt CardError) (Card σ) Bytes := do
  if cmd.p2 ≠ 0x81 then
    throw (.failed .incorrectP1P2)
  if cmd.p1 = 0x00 then
    onSecrets (Guarded.resetWithCode cmd.data)
  else if cmd.p1 = 0x02 then
    (Card.require .pw3 .conditionsNotSatisfied).guarded
    (onSecrets (Secrets.resetPw1 cmd.data)).guarded
  else
    throw (.failed .wrongP1P2)
  adjustSecurity Security.revokePw1
  return []

theorem verify_eq (cmd : Command) :
    (verify cmd : Attempt (Halt CardError) (Card σ) Bytes) = (Card.verify cmd).guarded := by
  unfold verify Card.verify
  rcases Card.verifyTarget? cmd.p2 with _ | ⟨secret, condition⟩
  · rfl
  · simp only [Guarded.verify_eq, ← guarded_onSecrets, Attempt.guardedOutcome_guarded,
      Attempt.guarded_bind]
    refine bind_congr fun result => ?_
    cases result <;> rfl

theorem changeReferenceData_eq (cmd : Command) :
    (changeReferenceData cmd : Attempt (Halt CardError) (Card σ) Bytes) =
      (Card.changeReferenceData cmd).guarded := by
  unfold changeReferenceData Card.changeReferenceData
  rcases Card.changeTarget? cmd.p2 with _ | secret
  · rfl
  · simp only [change_eq, ← guarded_onSecrets, Attempt.guardedOutcome_guarded,
      Attempt.guarded_bind]
    refine bind_congr fun result => ?_
    cases result <;> rfl

theorem resetRetryCounter_eq (cmd : Command) :
    (resetRetryCounter cmd : Attempt (Halt CardError) (Card σ) Bytes) =
      (Card.resetRetryCounter cmd).guarded := by
  simp [resetRetryCounter, Card.resetRetryCounter, resetWithCode_eq]

/-! ## Keys -/

/-- PERFORM SECURITY OPERATION. -/
def performSecurityOperation (cmd : Command) : Attempt (Halt CardError) (Card σ) Bytes := do
  if cmd.p1p2 = Card.signatureMode then
    (Card.require .pw1Signing .securityStatusNotSatisfied).guarded
    let signature ← onKeys (sign cmd.data)
    adjustSecurity Security.afterSigning
    return signature
  else
    (Card.performSecurityOperation cmd).guarded

/-- GENERATE ASYMMETRIC KEY PAIR. -/
def generateKeyPair (env : Environment) (cmd : Command) :
    Attempt (Halt CardError) (Card σ) Bytes := do
  if cmd.p1 ≠ 0x80 ∧ cmd.p1 ≠ 0x81 then
    throw (.failed .wrongP1P2)
  match Card.templateSlot? cmd.data with
  | none => throw (.failed .wrongData)
  | some slot =>
    if cmd.p1 = 0x81 then
      (Attempt.ofExcept ((← Kept.held).keys.publicKey slot)).guarded
    else
      (Card.require .pw3 .securityStatusNotSatisfied).guarded
      onKeys (generate env slot)

/-- PUT DATA in its odd form: a key import. -/
def importKey (cmd : Command) : Attempt (Halt CardError) (Card σ) Bytes := do
  if cmd.p1p2 ≠ Card.importMode then
    throw (.failed .recordNotFound)
  (Card.require .pw3 .securityStatusNotSatisfied).guarded
  let _ ← onKeys (Guarded.importKey cmd.data)
  return []

theorem performSecurityOperation_eq (cmd : Command) :
    (performSecurityOperation cmd : Attempt (Halt CardError) (Card σ) Bytes) =
      (Card.performSecurityOperation cmd).guarded := by
  unfold performSecurityOperation
  split
  · rename_i signs
    simp [Card.performSecurityOperation, Card.computeSignature, signs, sign_eq]
  · rfl

theorem generateKeyPair_eq {env : Environment} (makes : env.MakesKeys) (cmd : Command) :
    (generateKeyPair env cmd : Attempt (Halt CardError) (Card σ) Bytes) =
      (Card.generateKeyPair env cmd).guarded := by
  unfold generateKeyPair Card.generateKeyPair
  cases Card.templateSlot? cmd.data with
  | none => simp
  | some slot => simp [generate_eq makes]

theorem importKey_eq {cmd : Command} (short : cmd.data.length < UInt32.size) :
    (importKey cmd : Attempt (Halt CardError) (Card σ) Bytes) = (Card.importKey cmd).guarded := by
  simp [importKey, Card.importKey, Guarded.importKey_eq short]

/-! ## Data objects -/

/-- What is shown of an object. -/
def value? (memory : Memory) : DataObject → Except (Halt ε) (Option Bytes)
  | .securitySupport => do
    return some (Tlv.encode DataObject.signatureCounter.tag (← counterBytes memory.keys.counter))
  | .signatureCounter => do return some (← counterBytes memory.keys.counter)
  | other => .ok (memory.value? other)

/-- GET DATA. -/
def getData (cmd : Command) : Attempt (Halt CardError) (Card σ) Bytes := do
  let object ← (Card.requireObject cmd).guarded
  (Card.requireAccess object.readAccess?).guarded
  match ← Attempt.ofExcept (value? (← Kept.held) object) with
  | none => throw (.failed .recordNotFound)
  | some value => return value

/-- The slot of one of three consecutive tags. -/
def slotFor (tag first : Nat) : Except (Halt ε) SlotId := do
  match ← sub tag first with
  | 0 => return .signature
  | 1 => return .decryption
  | _ => return .authentication

/-- Writes an object that a tag names, and whose value has been checked. -/
def write (tag : Nat) (value : Bytes) : DataObject → Attempt (Halt CardError) (Card σ) Unit
  | .passwordStatus => do
    let status ← Attempt.ofExcept (element value 0)
    (Card.writeStatus status).guarded
  | .fingerprint _ => do
    let slot ← Attempt.ofExcept (slotFor tag (DataObject.fingerprint .signature).tag)
    (Card.write value (.fingerprint slot)).guarded
  | .caFingerprint _ => do
    let slot ← Attempt.ofExcept (slotFor tag (DataObject.caFingerprint .signature).tag)
    (Card.write value (.caFingerprint slot)).guarded
  | .generationTime _ => do
    let slot ← Attempt.ofExcept (slotFor tag (DataObject.generationTime .signature).tag)
    (Card.write value (.generationTime slot)).guarded
  | other => (Card.write value other).guarded

/-- PUT DATA. -/
def putData (cmd : Command) : Attempt (Halt CardError) (Card σ) Bytes := do
  let object ← (Card.requireObject cmd).guarded
  (Card.requireAccess object.writeAccess?).guarded
  (Attempt.ofExcept (object.check cmd.data)).guarded
  write cmd.p1p2 cmd.data object
  return []

/-- The counter is shown without the first of its four bytes. -/
theorem value?_eq (memory : Memory) (object : DataObject) :
    (value? memory object : Except (Halt ε) (Option Bytes)) = .ok (memory.value? object) := by
  cases object with
  | securitySupport | signatureCounter =>
    rw [value?, counterBytes_eq]
    rfl
  | _ => rfl

omit [Backend σ] in
theorem getData_eq (cmd : Command) :
    (getData cmd : Attempt (Halt CardError) (Card σ) Bytes) = (Card.getData cmd).guarded := by
  unfold getData Card.getData
  simp only [value?_eq, Attempt.ofExcept_ok, pure_bind, Attempt.guarded_bind, Kept.guarded_held]
  refine bind_congr fun object => bind_congr fun _ => bind_congr fun memory => ?_
  cases memory.value? object <;> rfl

/-- A value that is written as the PW1 status is one byte. -/
theorem element_of_status {value : Bytes}
    (checked : DataObject.passwordStatus.check value = .ok ()) :
    (element value 0 : Except (Halt ε) UInt8) = .ok (value.headD 0) := by
  cases value with
  | nil => cases checked
  | cons status rest => rfl

/-- The slots of a group are named by three consecutive tags. -/
theorem slotFor_fingerprint (slot : SlotId) :
    (slotFor (DataObject.fingerprint slot).tag (DataObject.fingerprint .signature).tag :
      Except (Halt ε) SlotId) = .ok slot := by
  cases slot <;> rfl

theorem slotFor_caFingerprint (slot : SlotId) :
    (slotFor (DataObject.caFingerprint slot).tag (DataObject.caFingerprint .signature).tag :
      Except (Halt ε) SlotId) = .ok slot := by
  cases slot <;> rfl

theorem slotFor_generationTime (slot : SlotId) :
    (slotFor (DataObject.generationTime slot).tag (DataObject.generationTime .signature).tag :
      Except (Halt ε) SlotId) = .ok slot := by
  cases slot <;> rfl

/-- A value that was held against the limits of its object is written within range. -/
theorem write_eq {object : DataObject} {value : Bytes} (checked : object.check value = .ok ()) :
    (write object.tag value object : Attempt (Halt CardError) (Card σ) Unit) =
      (Card.write value object).guarded := by
  cases object with
  | passwordStatus => simp [write, element_of_status checked, Card.write]
  | fingerprint slot => simp [write, slotFor_fingerprint]
  | caFingerprint slot => simp [write, slotFor_caFingerprint]
  | generationTime slot => simp [write, slotFor_generationTime]
  | _ => rfl

theorem putData_eq (cmd : Command) :
    (putData cmd : Attempt (Halt CardError) (Card σ) Bytes) = (Card.putData cmd).guarded := by
  unfold putData Card.putData Card.requireObject
  cases named : DataObject.ofTag? cmd.p1p2 with
  | none => rfl
  | some object =>
    -- the tag is the one of the object, so its distance from the first of the group is the slot
    rw [← DataObject.tag_of_ofTag? named]
    cases checked : object.check cmd.data with
    | error e => simp [checked, mapError_error]
    | ok fits => simp [checked, mapError_ok, write_eq checked]

/-! ## Life of the card -/

/-- Gives memory and store the state of a new card. -/
def makeFactory : Attempt (Halt StoreError) (Card σ) Unit := do
  (onSecrets Secrets.makeFactory).guarded
  onKeys Guarded.makeFactory
  (onObjects DataObjects.makeFactory).guarded
  (Kept.onStore (Backend.writeByte Card.pw1StatusKey 0)).guarded
  (Kept.onStore (Backend.writeByte Card.terminatedKey 0)).guarded
  (Kept.onStore (Backend.writeWord Card.layoutKey Card.layoutVersion)).guarded
  (Kept.onStore (Backend.writeByte Card.readyKey 1)).guarded
  Kept.adjust fun memory => { memory with
    security := .initial
    terminated := false
    chain := memory.chain.reset
    outgoing := .empty }

/-- ACTIVATE. -/
def activate : Attempt (Halt CardError) (Card σ) Bytes := do
  let memory ← Kept.held
  if !memory.terminated then
    throw (.failed .conditionsNotSatisfied)
  makeFactory.mapError (Halt.map .storage)
  return []

theorem makeFactory_eq :
    (makeFactory : Attempt (Halt StoreError) (Card σ) Unit) = Card.makeFactory.guarded := by
  simp [makeFactory, Card.makeFactory, Guarded.makeFactory_eq]

theorem activate_eq :
    (activate : Attempt (Halt CardError) (Card σ) Bytes) = Card.activate.guarded := by
  simp [activate, Card.activate, makeFactory_eq]

/-! ## All commands -/

/-- Carries a command out; the result is the data of its response. -/
def dispatch (env : Environment) (cmd : Command) : Attempt (Halt CardError) (Card σ) Bytes :=
  match cmd.instruction with
  | .verify => verify cmd
  | .changeReferenceData => changeReferenceData cmd
  | .resetRetryCounter => resetRetryCounter cmd
  | .performSecurityOperation => performSecurityOperation cmd
  | .generateKeyPair => generateKeyPair env cmd
  | .getData => getData cmd
  | .putData => putData cmd
  | .importKey => importKey cmd
  | .activate => activate
  | .internalAuthenticate | .getChallenge | .terminate | .getVersion | .setRetries | .select
  | .invalidate | .getResponse | .unsupported _ => (Card.dispatch env cmd).guarded

/-- A command is carried out within range. -/
theorem dispatch_eq {env : Environment} (makes : env.MakesKeys) {cmd : Command}
    (short : cmd.data.length ≤ CommandChain.cardCapacity) :
    (dispatch env cmd : Attempt (Halt CardError) (Card σ) Bytes) =
      (Card.dispatch env cmd).guarded := by
  have fits : cmd.data.length < UInt32.size := Nat.lt_of_le_of_lt short (by decide)
  unfold dispatch Card.dispatch
  cases cmd.instruction with
  | verify => exact verify_eq cmd
  | changeReferenceData => exact changeReferenceData_eq cmd
  | resetRetryCounter => exact resetRetryCounter_eq cmd
  | performSecurityOperation => exact performSecurityOperation_eq cmd
  | generateKeyPair => exact generateKeyPair_eq makes cmd
  | getData => exact getData_eq cmd
  | putData => exact putData_eq cmd
  | importKey => exact importKey_eq fits
  | activate => exact activate_eq
  | _ => rfl

end Machine

end PgpCard.Guarded
