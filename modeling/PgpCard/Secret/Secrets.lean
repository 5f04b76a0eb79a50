import PgpCard.CardError
import PgpCard.Digest.Sha256
import PgpCard.Record.Secret
import PgpCard.Store.Records

/-!
# The secrets and their attempts

Every attempt at a secret is paid for before it is looked at: the record with one attempt less
is written to the store, and only then is the candidate compared.  A match gives all attempts
back.

* `Secrets.check` spends one attempt on a candidate.
* `Secrets.verify`, `Secrets.change` and `Secrets.resetWithCode` are the commands' rules on top
  of it.
* `Secrets.setValue`, `Secrets.clearCode` and `Secrets.resetWithLimit` replace a record.

Each of them changes the record in memory first and then writes it.
-/

set_option autoImplicit false

namespace PgpCard

/-- The records of the three secrets. -/
structure Secrets where
  pw1 : SecretRecord
  pw3 : SecretRecord
  rc : SecretRecord
  deriving DecidableEq, Repr

/-- The digest kept of a value. -/
def secretDigest (value : Bytes) : Bytes := Digest.sha256 value

namespace SecretRecord

/-- The record of a value with all its attempts; the length keeps eight bits. -/
def ofValue (value : Bytes) (limit : UInt8) : SecretRecord where
  limit := limit
  remaining := limit
  length := UInt8.ofNat value.length
  digest := secretDigest value

/-- A candidate has the recorded length and the recorded digest. -/
def accepts (record : SecretRecord) (candidate : Bytes) : Bool :=
  record.length.toNat == candidate.length && secretDigest candidate == record.digest

end SecretRecord

namespace Secrets

/-- The value of PW1 on a new card. -/
def defaultPw1 : Bytes := Bytes.ascii "123456"

/-- The value of PW3 on a new card. -/
def defaultPw3 : Bytes := Bytes.ascii "12345678"

/-- The attempts for a secret on a new card. -/
def defaultLimit : UInt8 := 3

/-- The record that a secret has on a new card, with a limit. -/
def factoryRecord (limit : UInt8) : SecretId → SecretRecord
  | .pw1 => .ofValue defaultPw1 limit
  | .pw3 => .ofValue defaultPw3 limit
  | .rc => .unset limit

/-- The secrets of a new card. -/
def factory : Secrets where
  pw1 := factoryRecord defaultLimit .pw1
  pw3 := factoryRecord defaultLimit .pw3
  rc := factoryRecord defaultLimit .rc

/-- The record of a secret. -/
def record (secrets : Secrets) : SecretId → SecretRecord
  | .pw1 => secrets.pw1
  | .pw3 => secrets.pw3
  | .rc => secrets.rc

/-- The secrets with a new record for one of them. -/
def put (secret : SecretId) (record : SecretRecord) (secrets : Secrets) : Secrets :=
  match secret with
  | .pw1 => { secrets with pw1 := record }
  | .pw3 => { secrets with pw3 := record }
  | .rc => { secrets with rc := record }

variable {σ : Type} [Backend σ]

/-- Writes the record of a secret to the store. -/
def persist (secret : SecretId) : Attempt StoreError (Kept Secrets σ) Unit := do
  let secrets ← Kept.held
  Kept.onStore (Store.saveRecord secret.recordName (secrets.record secret))

/-- Replaces the record of a secret, in memory and then in the store. -/
def replace (secret : SecretId) (record : SecretRecord) :
    Attempt StoreError (Kept Secrets σ) Unit := do
  Kept.adjust (put secret record)
  persist secret

/-- Gives all secrets the values of a new card. -/
def makeFactory : Attempt StoreError (Kept Secrets σ) Unit := do
  Kept.adjust fun _ => factory
  persist .pw1
  persist .pw3
  persist .rc

/-- The secrets as the store has them. -/
def load : Attempt StoreError σ Secrets := do
  let pw1 ← Store.requireRecord SecretId.pw1.recordName
  let pw3 ← Store.requireRecord SecretId.pw3.recordName
  let rc ← Store.requireRecord SecretId.rc.recordName
  return { pw1, pw3, rc }

/-- Gives a secret a new value and all its attempts. -/
def setValue (secret : SecretId) (value : Bytes) : Attempt StoreError (Kept Secrets σ) Unit := do
  let secrets ← Kept.held
  replace secret (.ofValue value (secrets.record secret).limit)

/-- Takes the resetting code away. -/
def clearCode : Attempt StoreError (Kept Secrets σ) Unit := do
  let secrets ← Kept.held
  replace .rc (.unset secrets.rc.limit)

/-- Gives a secret a new limit and the value that it has on a new card. -/
def resetWithLimit (secret : SecretId) (limit : UInt8) :
    Attempt StoreError (Kept Secrets σ) Unit :=
  replace secret (factoryRecord limit secret)

/-- Spends one attempt on a candidate and tells whether it matches.  Without attempts nothing
changes. -/
def check (secret : SecretId) (candidate : Bytes) : Attempt CardError (Kept Secrets σ) Bool := do
  let record := (← Kept.held).record secret
  if record.isBlocked then
    throw .authenticationBlocked
  let spent := { record with remaining := record.remaining - 1 }
  (replace secret spent).mapError .storage
  Kept.note (.compared secret)
  if spent.accepts candidate then
    (replace secret { spent with remaining := spent.limit }).mapError .storage
    return true
  else
    return false

/-- Verifies a candidate of admissible length. -/
def verify (secret : SecretId) (candidate : Bytes) :
    Attempt CardError (Kept Secrets σ) Unit := do
  if !secret.admits candidate.length then
    throw .wrongData
  if ← check secret candidate then
    return
  if ((← Kept.held).record secret).isBlocked then
    throw .authenticationBlocked
  throw .securityStatusNotSatisfied

/-- Changes a secret: the data is the old value followed by the new one, cut at the recorded
length. -/
def change (secret : SecretId) (data : Bytes) : Attempt CardError (Kept Secrets σ) Unit := do
  let length := ((← Kept.held).record secret).length.toNat
  if data.length < length then
    throw .conditionsNotSatisfied
  if !secret.admits (data.drop length).length then
    throw .conditionsNotSatisfied
  if ← check secret (data.take length) then
    (setValue secret (data.drop length)).mapError .storage
  else
    throw .conditionsNotSatisfied

/-- Gives PW1 a new value of admissible length. -/
def resetPw1 (value : Bytes) : Attempt CardError (Kept Secrets σ) Unit := do
  if !SecretId.pw1.admits value.length then
    throw .wrongData
  (setValue .pw1 value).mapError .storage

/-- Gives PW1 a new value against the resetting code: the data is the code followed by the
value. -/
def resetWithCode (data : Bytes) : Attempt CardError (Kept Secrets σ) Unit := do
  let code := (← Kept.held).rc
  if !code.isSet then
    throw .conditionsNotSatisfied
  if code.isBlocked then
    throw .authenticationBlocked
  let length := code.length.toNat
  if data.length < length then
    throw .conditionsNotSatisfied
  if ← check .rc (data.take length) then
    resetPw1 (data.drop length)
  else
    throw .conditionsNotSatisfied

end Secrets

end PgpCard
