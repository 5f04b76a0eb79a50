import PgpCard.Secret.Id

/-!
# Security state

Three conditions can be satisfied in a session: PW1 verified for signing, PW1 verified for
everything else, and PW3 verified.  The PW1 status says whether PW1 stays verified after a key
was used; it is the only part of this state that the store keeps as well.
-/

set_option autoImplicit false

namespace PgpCard

/-- What a command may ask for. -/
inductive Condition
  /-- PW1 was verified for signing. -/
  | pw1Signing
  /-- PW1 was verified for deciphering, authentication and private objects. -/
  | pw1Other
  /-- PW3 was verified. -/
  | pw3
  deriving DecidableEq, Repr

/-- The conditions satisfied in a session. -/
structure Security where
  pw1Signing : Bool := false
  pw1Other : Bool := false
  pw3 : Bool := false
  /-- PW1 stays verified after a key was used. -/
  lasting : Bool := false
  deriving DecidableEq, Repr

namespace Security

/-- Nothing is verified, and every use of a key needs a verification. -/
def initial : Security := {}

/-- A condition is satisfied. -/
def holds (security : Security) : Condition → Bool
  | .pw1Signing => security.pw1Signing
  | .pw1Other => security.pw1Other
  | .pw3 => security.pw3

/-- A condition becomes satisfied. -/
def grant (condition : Condition) (security : Security) : Security :=
  match condition with
  | .pw1Signing => { security with pw1Signing := true }
  | .pw1Other => { security with pw1Other := true }
  | .pw3 => { security with pw3 := true }

/-- A condition is no longer satisfied. -/
def revoke (condition : Condition) (security : Security) : Security :=
  match condition with
  | .pw1Signing => { security with pw1Signing := false }
  | .pw1Other => { security with pw1Other := false }
  | .pw3 => { security with pw3 := false }

/-- PW1 is verified for nothing. -/
def revokePw1 (security : Security) : Security :=
  { security with pw1Signing := false, pw1Other := false }

/-- A secret is no longer verified for anything. -/
def revokeSecret (secret : SecretId) (security : Security) : Security :=
  match secret with
  | .pw1 => security.revokePw1
  | .pw3 => security.revoke .pw3
  | .rc => security

/-- Nothing is verified. -/
def revokeAll (security : Security) : Security :=
  { security with pw1Signing := false, pw1Other := false, pw3 := false }

/-- What is left after a signature. -/
def afterSigning (security : Security) : Security :=
  if security.lasting then security else security.revoke .pw1Signing

/-- What is left after a decipherment or an authentication. -/
def afterOther (security : Security) : Security :=
  if security.lasting then security else security.revoke .pw1Other

/-- The PW1 status changes. -/
def setLasting (lasting : Bool) (security : Security) : Security :=
  { security with lasting }

/-- The PW1 status as a byte. -/
def statusByte (security : Security) : UInt8 :=
  if security.lasting then 1 else 0

end Security

end PgpCard
