import PgpCard.CardError
import PgpCard.DataObject.Basic
import PgpCard.Secret.Id
import PgpCard.Security

/-!
# Who may read and write a data object, and what may be written

* `DataObject.readAccess?` and `DataObject.writeAccess?` give the condition for each object, none
  where an object cannot be read or written at all.
* `DataObject.check` holds a value against the limits of its object.
-/

set_option autoImplicit false

namespace PgpCard

/-- The condition for a read or a write. -/
inductive Access
  | always
  | when (condition : Condition)
  deriving DecidableEq, Repr

/-- The condition is met. -/
def Access.granted (security : Security) : Access → Bool
  | .always => true
  | .when condition => security.holds condition

namespace DataObject

/-- Who may read an object. -/
def readAccess? : DataObject → Option Access
  | fingerprint _ | caFingerprint _ | generationTime _ | resettingCode => none
  | private3 => some (.when .pw1Other)
  | private4 => some (.when .pw3)
  | _ => some .always

/-- Who may write an object. -/
def writeAccess? : DataObject → Option Access
  | private1 | private3 => some (.when .pw1Other)
  | name | login | language | sex | url | certificate | private2 | private4 | passwordStatus
  | fingerprint _ | caFingerprint _ | generationTime _ | resettingCode => some (.when .pw3)
  | _ => none

/-- The greatest length of the name. -/
def maxName : Nat := 39

/-- The greatest length of the language preference. -/
def maxLanguage : Nat := 8

/-- The greatest length of login data, URL and private objects. -/
def maxShort : Nat := 254

/-- The greatest length of the certificate. -/
def maxCertificate : Nat := 1216

/-- Fails unless a value fits. -/
def demand (fits : Bool) (otherwise : CardError) : Except CardError Unit :=
  if fits then .ok () else .error otherwise

/-- Holds a value that is to be written against the limits of its object. -/
def check (value : Bytes) : DataObject → Except CardError Unit
  | name => demand (value.length ≤ maxName) .wrongData
  | login | url => demand (value.length ≤ maxShort) .wrongData
  | language => demand (value.length ≤ maxLanguage) .wrongData
  | certificate => demand (value.length ≤ maxCertificate) .wrongData
  | sex => demand (value == [0x31] || value == [0x32] || value == [0x39]) .wrongData
  | passwordStatus => demand (value == [0] || value == [1]) .wrongData
  | fingerprint _ | caFingerprint _ => demand (value.length == 20) .wrongData
  | generationTime _ => demand (value.length == 4) .wrongData
  | resettingCode => demand (value.isEmpty || SecretId.rc.admits value.length) .wrongData
  | private1 | private2 | private3 | private4 =>
    demand (value.length ≤ maxShort) .wrongLength
  | _ => .error .recordNotFound

/-- Holds a value against the limits of the object that a tag names. -/
def checkTag (tag : Nat) (value : Bytes) : Except CardError Unit :=
  match ofTag? tag with
  | none => .error .recordNotFound
  | some object => object.check value

end DataObject

end PgpCard
