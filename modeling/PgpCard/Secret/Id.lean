/-!
# The three secrets

PW1 is the password of the user, PW3 that of the administrator, and the resetting code RC gives
the user a new password.
-/

set_option autoImplicit false

namespace PgpCard

/-- A secret of the card. -/
inductive SecretId
  | pw1
  | pw3
  | rc
  deriving DecidableEq, Repr

namespace SecretId

/-- The secrets in the order in which they are stored. -/
def all : List SecretId := [pw1, pw3, rc]

/-- The name of a secret's record in the store. -/
def recordName : SecretId → String
  | pw1 => "pw1"
  | pw3 => "pw3"
  | rc => "rc"

/-- The least length of a value. -/
def minLength : SecretId → Nat
  | pw1 => 6
  | pw3 => 8
  | rc => 8

/-- The greatest length of a value. -/
def maxLength : Nat := 127

/-- A value of this length may be given to the secret. -/
def admits (secret : SecretId) (length : Nat) : Bool :=
  secret.minLength ≤ length && length ≤ maxLength

end SecretId

end PgpCard
