import PgpCard.Key.Slots
import PgpCard.Proofs.Guarded.Import
import PgpCard.Proofs.Guarded.Rsa

/-!
# Key slots within range

* `Guarded.sign_eq` : a signature is counted within range, since the counter is held against its
  greatest value first;
* `Guarded.generate_eq` : a key of the card is generated, and its fingerprint computed, within
  range;
* `Guarded.importKey_eq` : a key is imported within range, whatever the host sends.

Each of them is equal to what `KeySlots` does.  What is kept for a slot is a field of its own, so no
position selects it.
-/

set_option autoImplicit false

namespace PgpCard.Guarded

open KeySlots (counterName counterLength counterMax commit requireKey importFailure)

variable {ε σ : Type} [Backend σ]

/-! ## The signature counter -/

/-- The counter as it is kept: a number of four bytes without the first of them. -/
def counterBytes (value : Nat) : Except (Halt ε) Bytes := sliceFrom (Bytes.ofNat 4 value) 1

/-- Writes a value of the counter to the store. -/
def saveCounter (value : Nat) : Attempt (Halt StoreError) σ Unit := do
  let bytes ← Attempt.ofExcept (counterBytes value)
  (Backend.writeBlob counterName bytes).guarded

/-- Gives the counter a value, at most the greatest one. -/
def setCounter (value : Nat) : Attempt (Halt StoreError) (Kept KeySlots σ) Unit := do
  let value := min value counterMax
  Kept.onStore (saveCounter value)
  Kept.adjust fun keys => { keys with counter := value }

theorem counterBytes_eq (value : Nat) :
    (counterBytes value : Except (Halt ε) Bytes) = .ok (Bytes.ofNat counterLength value) := by
  -- the first of four digits is the only one that three digits lack
  have low : Numeral.digits 256 3 value = Numeral.digits 256 3 (value % Nat.pow 256 3) :=
    Numeral.digits_add 256 0 3 value
  have split := Numeral.digits_add 256 1 3 value
  have dropped : (Bytes.ofNat 4 value).drop 1 = Bytes.ofNat 3 value := by
    rw [Bytes.ofNat, split, Bytes.ofNat, low]
    rfl
  rw [counterBytes, sliceFrom_of_le (by rw [Bytes.length_ofNat]; decide), dropped]
  rfl

theorem saveCounter_eq (value : Nat) :
    (saveCounter value : Attempt (Halt StoreError) σ Unit) =
      (KeySlots.saveCounter value).guarded := by
  simp [saveCounter, KeySlots.saveCounter, counterBytes_eq]

theorem setCounter_eq (value : Nat) :
    (setCounter value : Attempt (Halt StoreError) (Kept KeySlots σ) Unit) =
      (KeySlots.setCounter value).guarded := by
  simp [setCounter, KeySlots.setCounter, saveCounter_eq]

/-! ## Filling slots -/

/-- Empties all slots and sets the counter to zero. -/
def makeFactory : Attempt (Halt StoreError) (Kept KeySlots σ) Unit := do
  Kept.adjust fun _ => KeySlots.factory
  Kept.onStore (Store.saveRecord SlotId.signature.recordName KeyRecord.empty).guarded
  Kept.onStore (Store.saveRecord SlotId.decryption.recordName KeyRecord.empty).guarded
  Kept.onStore (Store.saveRecord SlotId.authentication.recordName KeyRecord.empty).guarded
  Kept.onStore (saveCounter 0)

/-- Makes a new key in a slot and returns its public part. -/
def generate (env : Environment) (id : SlotId) :
    Attempt (Halt CardError) (Kept KeySlots σ) Bytes := do
  let key ← ((Attempt.ofExcept (env.newKey ())).mapError CardError.crypto).guarded
  let components ← (Attempt.ofExcept (components? key)).mapError (Halt.map .crypto)
  let old := (← Kept.held).record id
  let print ← Attempt.ofExcept (fingerprint components.n components.e env.now)
  let record := { old with
    fingerprint := print
    generationTime := env.now
    components := some components }
  ((commit id ⟨record, some key⟩).mapError CardError.storage).guarded
  if id = .signature then
    (setCounter 0).mapError (Halt.map .storage)
  return publicKeyTemplate components.n components.e

/-- Puts an imported key into the slot that it names. -/
def importKey (data : Bytes) : Attempt (Halt CardError) (Kept KeySlots σ) SlotId := do
  let template ← Attempt.ofExcept (parse data)
  let key ← (Attempt.ofExcept (ofFactors? (Bytes.toNatOfLong template.exponent)
    (Bytes.toNatOfLong template.p) (Bytes.toNatOfLong template.q))).mapError
      (Halt.map importFailure)
  let components ← (Attempt.ofExcept (components? key)).mapError (Halt.map .crypto)
  let old := (← Kept.held).record template.slot
  let record := { old with
    fingerprint := KeyRecord.blankFingerprint
    generationTime := 0
    components := some components }
  ((commit template.slot ⟨record, some key⟩).mapError CardError.storage).guarded
  return template.slot

theorem makeFactory_eq :
    (makeFactory : Attempt (Halt StoreError) (Kept KeySlots σ) Unit) =
      KeySlots.makeFactory.guarded := by
  simp [makeFactory, KeySlots.makeFactory, saveCounter_eq]

/-- The byte strings of a key of the card that a fingerprint is computed from are short. -/
theorem short_components {key : Rsa.PrivateKey} {components : Rsa.Components} (valid : key.Valid)
    (split : key.components? = .ok components) :
    8 * components.n.length < wordSize ∧ 8 * components.e.length < wordSize := by
  obtain ⟨modulus, exponent⟩ := Rsa.PrivateKey.public_of_components? valid.size split
  have atMost := Rsa.PrivateKey.length_minimal_exponent
    (Rsa.PrivateKey.exponent_le_of_checked valid.checked)
  rw [modulus, exponent, Bytes.length_ofNat]
  refine ⟨by decide, ?_⟩
  show _ < 18446744073709551616
  omega

theorem generate_eq {env : Environment} (makes : env.MakesKeys) (id : SlotId) :
    (generate env id : Attempt (Halt CardError) (Kept KeySlots σ) Bytes) =
      (KeySlots.generate env id).guarded := by
  unfold generate KeySlots.generate
  cases made : env.newKey () with
  | error e => rfl
  | ok key =>
    have valid := makes key made
    obtain ⟨-, p, q, -⟩ := Rsa.PrivateKey.faultless_of_checked valid.checked
    simp only [Attempt.ofExcept_ok, Attempt.mapError_pure, Attempt.guarded_pure, pure_bind,
      components?_eq p q]
    cases split : key.components? with
    | error e => rfl
    | ok components =>
      obtain ⟨shortModulus, shortExponent⟩ := short_components valid split
      simp [mapError_ok, fingerprint_eq shortModulus shortExponent, setCounter_eq]

/-- A key is imported within range, whatever the host sends. -/
theorem importKey_eq {data : Bytes} (short : data.length < UInt32.size) :
    (importKey data : Attempt (Halt CardError) (Kept KeySlots σ) SlotId) =
      (KeySlots.importKey data).guarded := by
  unfold importKey KeySlots.importKey
  rw [parse_eq short]
  cases ImportTemplate.parse? data with
  | none => rfl
  | some template =>
    simp only [orInvalid_some, Attempt.ofExcept_ok, pure_bind, ofFactors?_eq]
    cases made : Rsa.PrivateKey.ofFactors? (Bytes.toNatOfLong template.exponent)
        (Bytes.toNatOfLong template.p) (Bytes.toNatOfLong template.q) with
    | error e => rfl
    | ok key =>
      have valid := Rsa.PrivateKey.valid_of_ofFactors? made
      obtain ⟨-, p, q, -⟩ := Rsa.PrivateKey.faultless_of_checked valid.checked
      simp only [mapError_ok, Attempt.ofExcept_ok, Attempt.mapError_pure, pure_bind,
        components?_eq p q]
      cases key.components? <;> simp [mapError_ok, mapError_error]

/-! ## Signatures -/

/-- Signs a message with the signature key, after the counter has been raised. -/
def sign (message : Bytes) : Attempt (Halt CardError) (Kept KeySlots σ) Bytes := do
  let key ← (requireKey .signature).guarded
  if Rsa.maxMessageLength < message.length then
    throw (.failed .wrongLength)
  let counter := (← Kept.held).counter
  if counterMax ≤ counter then
    throw (.failed .stateUnchanged)
  let next ← Attempt.ofExcept (add UInt32.size counter 1)
  (setCounter next).mapError (Halt.map .storage)
  Kept.note (.keyUsed .signature)
  ((Attempt.ofExcept (key.sign? message)).mapError CardError.crypto).guarded

/-- A signature is counted within range. -/
theorem sign_eq (message : Bytes) :
    (sign message : Attempt (Halt CardError) (Kept KeySlots σ) Bytes) =
      (KeySlots.sign message).guarded := by
  unfold sign KeySlots.sign
  simp only [Attempt.guarded_bind]
  refine bind_congr fun key => ?_
  rw [Attempt.guarded_ite]
  split
  · rfl
  · simp only [Attempt.guarded_bind, Kept.guarded_held]
    refine bind_congr fun keys => ?_
    rw [Attempt.guarded_ite]
    split
    · rfl
    · rename_i room
      have fits : keys.counter + 1 < UInt32.size :=
        Nat.lt_of_le_of_lt (Nat.succ_le_of_lt (Nat.not_le.mp room)) (by decide)
      simp [add_of_lt fits, setCounter_eq]

end PgpCard.Guarded
