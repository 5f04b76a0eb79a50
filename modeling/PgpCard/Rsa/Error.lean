/-!
# What can go wrong with an RSA key
-/

set_option autoImplicit false

namespace PgpCard.Rsa

/-- The cause of a failed key operation. -/
inductive Fault
  /-- The message does not fit under the padding. -/
  | messageTooLong
  /-- The cryptogram is out of range or its padding is wrong. -/
  | undecipherable
  /-- The private operation is not undone by the public one. -/
  | inconsistent
  | exponentTooLarge
  | exponentTooSmall
  | invalidExponent
  | invalidModulus
  | invalidPrime
  /-- A factor of an imported key is zero or one. -/
  | factorOutOfRange
  /-- The public exponent has no inverse. -/
  | exponentNotInvertible
  /-- The second factor has no inverse modulo the first. -/
  | coefficientMissing
  /-- The search for a prime gave up. -/
  | primeNotFound
  /-- A cause given in words. -/
  | described (text : String)
  deriving DecidableEq, Repr

/-- The cause in words. -/
def Fault.message : Fault → String
  | .messageTooLong => "message too long"
  | .undecipherable => "decryption error"
  | .inconsistent => "internal error"
  | .exponentTooLarge => "public exponent too large"
  | .exponentTooSmall => "public exponent too small"
  | .invalidExponent => "invalid exponent"
  | .invalidModulus => "invalid modulus"
  | .invalidPrime => "invalid prime value"
  | .factorOutOfRange => "prime factor out of range"
  | .exponentNotInvertible => "public exponent not invertible"
  | .coefficientMissing => "q not invertible mod p"
  | .primeNotFound => "no prime found"
  | .described text => text

/-- A failed key operation. -/
inductive Error
  | keyGenerationFailed (fault : Fault)
  | signingFailed (fault : Fault)
  | decryptionFailed (fault : Fault)
  | invalidKey (fault : Fault)
  /-- The modulus has a size that the card does not support. -/
  | unsupportedModulus (bits : Nat)
  deriving DecidableEq, Repr

/-- The failure in words. -/
def Error.message : Error → String
  | .keyGenerationFailed fault => s!"key generation failed: {fault.message}"
  | .signingFailed fault => s!"signing failed: {fault.message}"
  | .decryptionFailed fault => s!"decryption failed: {fault.message}"
  | .invalidKey fault => s!"invalid key: {fault.message}"
  | .unsupportedModulus bits => s!"unsupported modulus size: {bits} bits"

end PgpCard.Rsa
