import PgpCard.Rsa.Key

/-!
# Signing and decrypting with padded blocks

* `PrivateKey.sign?` puts `00 01 FF … FF 00` in front of a message and applies the private
  operation to the block.
* `PrivateKey.decrypt?` applies the private operation to a cryptogram and removes
  `00 02 PS 00`, where `PS` is at least eight bytes other than zero.
-/

set_option autoImplicit false

namespace PgpCard.Rsa

/-- The block that is signed for a message, on `size` bytes. -/
def signatureBlock (size : Nat) (message : Bytes) : Bytes :=
  [0x00, 0x01] ++ List.replicate (size - message.length - 3) 0xFF ++ 0x00 :: message

/-- The message that an encryption block holds. -/
def unpad? (block : Bytes) : Option Bytes :=
  match block with
  | 0x00 :: 0x02 :: rest =>
    let filler := rest.takeWhile (· != 0)
    if 8 ≤ filler.length ∧ filler.length < rest.length then some (rest.drop (filler.length + 1))
    else none
  | _ => none

namespace PrivateKey

/-- The signature of a message, on as many bytes as the modulus. -/
def sign? (key : PrivateKey) (message : Bytes) : Except Error Bytes :=
  if key.size < message.length + paddingBytes then .error (.signingFailed .messageTooLong)
  else match key.operate? (Bytes.toNat (signatureBlock key.size message)) with
    | .error fault => .error (.signingFailed fault)
    | .ok m => .ok (Bytes.ofNat key.size m)

/-- The message of a cryptogram. -/
def decrypt? (key : PrivateKey) (cryptogram : Bytes) : Except Error Bytes :=
  match key.operate? (Bytes.toNatOfLong cryptogram) with
  | .error fault => .error (.decryptionFailed fault)
  | .ok m =>
    if key.size < paddingBytes then .error (.decryptionFailed .undecipherable)
    else match unpad? (Bytes.ofNat key.size m) with
      | none => .error (.decryptionFailed .undecipherable)
      | some message => .ok message

end PrivateKey

end PgpCard.Rsa
