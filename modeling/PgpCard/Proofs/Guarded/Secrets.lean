import PgpCard.Proofs.Guarded.Basic
import PgpCard.Secret.Secrets

/-!
# Attempts at secrets within range

* `Guarded.check_eq` : an attempt is taken off within range, since a blocked secret is not tried;
* `Guarded.change_eq`, `Guarded.resetWithCode_eq` : data that holds two values is cut within range,
  since it is held against the recorded length first.
-/

set_option autoImplicit false

namespace PgpCard.Guarded

open Secrets (replace setValue resetPw1)

variable {σ : Type} [Backend σ]

/-- Spends one attempt on a candidate and tells whether it matches. -/
def check (secret : SecretId) (candidate : Bytes) :
    Attempt (Halt CardError) (Kept Secrets σ) Bool := do
  let record := (← Kept.held).record secret
  if record.isBlocked then
    throw (.failed .authenticationBlocked)
  let remaining ← Attempt.ofExcept (subByte record.remaining 1)
  let spent := { record with remaining }
  ((replace secret spent).mapError CardError.storage).guarded
  Kept.note (.compared secret)
  if spent.accepts candidate then
    ((replace secret { spent with remaining := spent.limit }).mapError CardError.storage).guarded
    return true
  else
    return false

/-- Verifies a candidate of admissible length. -/
def verify (secret : SecretId) (candidate : Bytes) :
    Attempt (Halt CardError) (Kept Secrets σ) Unit := do
  if !secret.admits candidate.length then
    throw (.failed .wrongData)
  if ← check secret candidate then
    return
  if ((← Kept.held).record secret).isBlocked then
    throw (.failed .authenticationBlocked)
  throw (.failed .securityStatusNotSatisfied)

/-- Changes a secret: the data is the old value followed by the new one. -/
def change (secret : SecretId) (data : Bytes) :
    Attempt (Halt CardError) (Kept Secrets σ) Unit := do
  let length := ((← Kept.held).record secret).length.toNat
  if data.length < length then
    throw (.failed .conditionsNotSatisfied)
  let (old, new) ← Attempt.ofExcept (splitAt data length)
  if !secret.admits new.length then
    throw (.failed .conditionsNotSatisfied)
  if ← check secret old then
    ((setValue secret new).mapError CardError.storage).guarded
  else
    throw (.failed .conditionsNotSatisfied)

/-- Gives PW1 a new value against the resetting code: the data is the code followed by the
value. -/
def resetWithCode (data : Bytes) : Attempt (Halt CardError) (Kept Secrets σ) Unit := do
  let code := (← Kept.held).rc
  if !code.isSet then
    throw (.failed .conditionsNotSatisfied)
  if code.isBlocked then
    throw (.failed .authenticationBlocked)
  let length := code.length.toNat
  if data.length < length then
    throw (.failed .conditionsNotSatisfied)
  let (code, value) ← Attempt.ofExcept (splitAt data length)
  if ← check .rc code then
    (resetPw1 value).guarded
  else
    throw (.failed .conditionsNotSatisfied)

/-- A secret that is not blocked has an attempt to spend. -/
theorem one_le_of_not_blocked {record : SecretRecord} (untried : ¬ record.isBlocked = true) :
    1 ≤ record.remaining := by
  have left : record.remaining ≠ 0 := by simpa [SecretRecord.isBlocked] using untried
  have positive : record.remaining.toNat ≠ 0 := fun zero => left (UInt8.toNat_inj.mp zero)
  exact UInt8.le_iff_toNat_le.mpr (Nat.one_le_iff_ne_zero.mpr positive)

/-- An attempt is taken off a secret that has one. -/
theorem check_eq (secret : SecretId) (candidate : Bytes) :
    (check secret candidate : Attempt (Halt CardError) (Kept Secrets σ) Bool) =
      (Secrets.check secret candidate).guarded := by
  unfold check Secrets.check
  simp only [Attempt.guarded_bind, Kept.guarded_held]
  refine bind_congr fun secrets => ?_
  rw [Attempt.guarded_ite]
  split
  · rfl
  · rename_i unblocked
    simp [subByte_of_le (one_le_of_not_blocked unblocked)]

theorem verify_eq (secret : SecretId) (candidate : Bytes) :
    (verify secret candidate : Attempt (Halt CardError) (Kept Secrets σ) Unit) =
      (Secrets.verify secret candidate).guarded := by
  simp [verify, Secrets.verify, check_eq]

/-- Old and new value are cut apart within the data. -/
theorem change_eq (secret : SecretId) (data : Bytes) :
    (change secret data : Attempt (Halt CardError) (Kept Secrets σ) Unit) =
      (Secrets.change secret data).guarded := by
  unfold change Secrets.change
  simp only [Attempt.guarded_bind, Kept.guarded_held]
  refine bind_congr fun secrets => ?_
  rw [Attempt.guarded_ite]
  split
  · rfl
  · rename_i enough
    simp [splitAt_of_le (Nat.not_lt.mp enough), check_eq]

/-- So are the resetting code and the new value of PW1. -/
theorem resetWithCode_eq (data : Bytes) :
    (resetWithCode data : Attempt (Halt CardError) (Kept Secrets σ) Unit) =
      (Secrets.resetWithCode data).guarded := by
  unfold resetWithCode Secrets.resetWithCode
  simp only [Attempt.guarded_bind, Kept.guarded_held]
  refine bind_congr fun secrets => ?_
  rw [Attempt.guarded_ite]
  split
  · rfl
  rw [Attempt.guarded_ite]
  split
  · rfl
  rw [Attempt.guarded_ite]
  split
  · rfl
  · rename_i enough
    simp [splitAt_of_le (Nat.not_lt.mp enough), check_eq]

end PgpCard.Guarded
