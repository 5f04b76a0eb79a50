import PgpCard.Card.Memory

/-!
# Commands about keys

* COMPUTE DIGITAL SIGNATURE needs PW1 verified for signing; DECIPHER and INTERNAL AUTHENTICATE
  need it verified for other uses.  Unless PW1 is lasting, a use of a key takes the verification
  away.
* GENERATE ASYMMETRIC KEY PAIR makes a key with PW3 verified, or reads a public key.
* PUT DATA in its odd form imports a key with PW3 verified.
-/

set_option autoImplicit false

namespace PgpCard.Card

variable {σ : Type} [Backend σ]

/-- COMPUTE DIGITAL SIGNATURE. -/
def computeSignature (cmd : Command) : Attempt CardError (Card σ) Bytes := do
  require .pw1Signing .securityStatusNotSatisfied
  let signature ← onKeys (KeySlots.sign cmd.data)
  adjustSecurity Security.afterSigning
  return signature

/-- DECIPHER. -/
def decipher (cmd : Command) : Attempt CardError (Card σ) Bytes := do
  require .pw1Other .securityStatusNotSatisfied
  let message ← onKeys (KeySlots.decipher cmd.data)
  adjustSecurity Security.afterOther
  return message

/-- P1 and P2 of COMPUTE DIGITAL SIGNATURE. -/
def signatureMode : Nat := 0x9E9A

/-- P1 and P2 of DECIPHER. -/
def decipherMode : Nat := 0x8086

/-- PERFORM SECURITY OPERATION. -/
def performSecurityOperation (cmd : Command) : Attempt CardError (Card σ) Bytes :=
  if cmd.p1p2 = signatureMode then computeSignature cmd
  else if cmd.p1p2 = decipherMode then decipher cmd
  else throw .wrongP1P2

/-- INTERNAL AUTHENTICATE. -/
def internalAuthenticate (cmd : Command) : Attempt CardError (Card σ) Bytes := do
  require .pw1Other .securityStatusNotSatisfied
  let signature ← onKeys (KeySlots.authenticate cmd.data)
  adjustSecurity Security.afterOther
  return signature

/-- The slot that the data of GENERATE ASYMMETRIC KEY PAIR names with its first byte. -/
def templateSlot? (data : Bytes) : Option SlotId :=
  data.head?.bind fun tag => SlotId.ofTag? tag.toNat

/-- GENERATE ASYMMETRIC KEY PAIR: P1 is `80` for a new key and `81` for the public part of the
present one. -/
def generateKeyPair (env : Environment) (cmd : Command) : Attempt CardError (Card σ) Bytes := do
  if cmd.p1 ≠ 0x80 ∧ cmd.p1 ≠ 0x81 then
    throw .wrongP1P2
  match templateSlot? cmd.data with
  | none => throw .wrongData
  | some slot =>
    if cmd.p1 = 0x81 then
      Attempt.ofExcept ((← Kept.held).keys.publicKey slot)
    else
      require .pw3 .securityStatusNotSatisfied
      onKeys (KeySlots.generate env slot)

/-- P1 and P2 of a key import. -/
def importMode : Nat := 0x3FFF

/-- PUT DATA in its odd form: a key import. -/
def importKey (cmd : Command) : Attempt CardError (Card σ) Bytes := do
  if cmd.p1p2 ≠ importMode then
    throw .recordNotFound
  require .pw3 .securityStatusNotSatisfied
  let _ ← onKeys (KeySlots.importKey cmd.data)
  return []

end PgpCard.Card
