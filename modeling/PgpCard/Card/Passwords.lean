import PgpCard.Card.Lifecycle

/-!
# Commands about secrets and the life of the card

* VERIFY, CHANGE REFERENCE DATA and RESET RETRY COUNTER try or replace a secret.
* SET RETRIES gives secrets new limits and their first values.
* TERMINATE needs PW1 and PW3 blocked; ACTIVATE makes a terminated card new.
-/

set_option autoImplicit false

namespace PgpCard.Card

variable {σ : Type} [Backend σ]

/-- What VERIFY tries and grants for a value of P2. -/
def verifyTarget? (p2 : UInt8) : Option (SecretId × Condition) :=
  if p2 = 0x81 then some (.pw1, .pw1Signing)
  else if p2 = 0x82 then some (.pw1, .pw1Other)
  else if p2 = 0x83 then some (.pw3, .pw3)
  else none

/-- VERIFY: a match grants one condition; any failure revokes all that the secret granted. -/
def verify (cmd : Command) : Attempt CardError (Card σ) Bytes := do
  match verifyTarget? cmd.p2 with
  | none => throw .incorrectP1P2
  | some (secret, condition) =>
    match ← (onSecrets (Secrets.verify secret cmd.data)).outcome with
    | .ok () =>
      adjustSecurity (Security.grant condition)
      return []
    | .error e =>
      adjustSecurity (Security.revokeSecret secret)
      throw e

/-- The secret that CHANGE REFERENCE DATA changes for a value of P2. -/
def changeTarget? (p2 : UInt8) : Option SecretId :=
  if p2 = 0x81 then some .pw1
  else if p2 = 0x83 then some .pw3
  else none

/-- CHANGE REFERENCE DATA: the secret is no longer verified, whatever the outcome. -/
def changeReferenceData (cmd : Command) : Attempt CardError (Card σ) Bytes := do
  match changeTarget? cmd.p2 with
  | none => throw .incorrectP1P2
  | some secret =>
    let result ← (onSecrets (Secrets.change secret cmd.data)).outcome
    adjustSecurity (Security.revokeSecret secret)
    match result with
    | .ok () => return []
    | .error e => throw e

/-- RESET RETRY COUNTER: a new value for PW1, against the resetting code or with PW3 verified. -/
def resetRetryCounter (cmd : Command) : Attempt CardError (Card σ) Bytes := do
  if cmd.p2 ≠ 0x81 then
    throw .incorrectP1P2
  if cmd.p1 = 0x00 then
    onSecrets (Secrets.resetWithCode cmd.data)
  else if cmd.p1 = 0x02 then
    require .pw3 .conditionsNotSatisfied
    onSecrets (Secrets.resetPw1 cmd.data)
  else
    throw .wrongP1P2
  adjustSecurity Security.revokePw1
  return []

/-- Gives a secret a new limit and its first value, unless the limit is zero.  PW1 also loses
its verifications and its lasting status. -/
def setLimit (secret : SecretId) (limit : UInt8) : Attempt CardError (Card σ) Unit := do
  if limit ≠ 0 then
    (onSecrets (Secrets.resetWithLimit secret limit)).mapError .storage
    if secret = .pw1 then
      (Kept.onStore (Backend.writeByte pw1StatusKey 0)).mapError .storage
      adjustSecurity fun security => (security.setLasting false).revokePw1

/-- SET RETRIES: the limits of PW1, RC and PW3, where zero leaves a secret alone. -/
def setRetries (cmd : Command) : Attempt CardError (Card σ) Bytes := do
  match cmd.data with
  | [pw1, rc, pw3] =>
    require .pw3 .conditionsNotSatisfied
    setLimit .pw1 pw1
    setLimit .rc rc
    setLimit .pw3 pw3
    return []
  | _ => throw .wrongData

/-- TERMINATE: only when neither PW1 nor PW3 can be tried any more. -/
def terminate : Attempt CardError (Card σ) Bytes := do
  let memory ← Kept.held
  if !(memory.secrets.pw1.isBlocked && memory.secrets.pw3.isBlocked) then
    throw .conditionsNotSatisfied
  (Kept.onStore (Backend.writeByte terminatedKey 1)).mapError .storage
  Kept.adjust fun memory => { memory with
    terminated := true, security := memory.security.revokeAll }
  return []

/-- ACTIVATE: makes a terminated card new. -/
def activate : Attempt CardError (Card σ) Bytes := do
  let memory ← Kept.held
  if !memory.terminated then
    throw .conditionsNotSatisfied
  makeFactory.mapError .storage
  return []

end PgpCard.Card
