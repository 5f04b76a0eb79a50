import PgpCard.Security

/-!
# How what is verified changes

The PW1 status is set on its own: no verification and no use of a key changes it.  What is verified
is given condition by condition, so that a session can be followed without looking into `Security`
again.
-/

set_option autoImplicit false

namespace PgpCard.Security

variable (security : Security)

/-! ## The PW1 status -/

@[simp] theorem lasting_grant (condition : Condition) :
    (security.grant condition).lasting = security.lasting := by
  cases condition <;> rfl

@[simp] theorem lasting_revoke (condition : Condition) :
    (security.revoke condition).lasting = security.lasting := by
  cases condition <;> rfl

@[simp] theorem lasting_revokePw1 : security.revokePw1.lasting = security.lasting := rfl

@[simp] theorem lasting_revokeSecret (id : SecretId) :
    (security.revokeSecret id).lasting = security.lasting := by
  cases id <;> simp [revokeSecret]

@[simp] theorem lasting_afterSigning : security.afterSigning.lasting = security.lasting := by
  unfold afterSigning
  split <;> simp

@[simp] theorem lasting_afterOther : security.afterOther.lasting = security.lasting := by
  unfold afterOther
  split <;> simp

/-! ## What is verified -/

variable {security} {condition : Condition}

theorem holds_grant (granted : Condition) :
    (security.grant granted).holds condition =
      (decide (condition = granted) || security.holds condition) := by
  cases granted <;> cases condition <;> rfl

theorem holds_revokePw1 (pw1 : condition ≠ .pw3) :
    security.revokePw1.holds condition = false := by
  cases condition <;> first | rfl | exact absurd rfl pw1

theorem holds_revokeAll : security.revokeAll.holds condition = false := by
  cases condition <;> rfl

theorem holds_revoke (revoked : Condition) :
    (security.revoke revoked).holds condition =
      (decide (condition ≠ revoked) && security.holds condition) := by
  cases revoked <;> cases condition <;> rfl

theorem holds_of_revokePw1 (h : security.revokePw1.holds condition = true) :
    security.holds condition = true := by
  cases condition with
  | pw1Signing | pw1Other => cases h
  | pw3 => exact h

theorem holds_of_revokeSecret {id : SecretId}
    (h : (security.revokeSecret id).holds condition = true) : security.holds condition = true := by
  cases id with
  | pw1 => exact holds_of_revokePw1 h
  | pw3 =>
    rw [revokeSecret, holds_revoke, Bool.and_eq_true] at h
    exact h.2
  | rc => exact h

theorem holds_initial : initial.holds condition = false := by
  cases condition <;> rfl

theorem holds_setLasting (lasting : Bool) :
    (security.setLasting lasting).holds condition = security.holds condition := by
  cases condition <;> rfl

/-- A use of a key that takes one verification away unless it is lasting. -/
theorem holds_afterSigning :
    security.afterSigning.holds condition =
      (security.holds condition && (security.lasting || decide (condition ≠ .pw1Signing))) := by
  unfold afterSigning
  split
  · simp [*]
  · simp [*, holds_revoke, Bool.and_comm]

theorem holds_afterOther :
    security.afterOther.holds condition =
      (security.holds condition && (security.lasting || decide (condition ≠ .pw1Other))) := by
  unfold afterOther
  split
  · simp [*]
  · simp [*, holds_revoke, Bool.and_comm]

end PgpCard.Security
