import PgpCard.Proofs.Key.Import
import PgpCard.Proofs.Key.Outcomes
import PgpCard.Proofs.Key.Public
import PgpCard.Proofs.Rsa.Factors
import PgpCard.Proofs.Rsa.Padding
import PgpCard.Proofs.Store.Sturdy

/-!
# Imported keys work

* `KeySlots.Serves` : what a slot does whose key has a given modulus and public exponent: it shows
  them, makes signatures that they verify, and deciphers what was encrypted with them;
* `serves_of_lawful` : a slot with a lawful key of the card's size does so;
* `importKey_sturdily` : on a store that takes every write, an import whose parts make a key puts it
  into its slot;
* `imported_key_works` : an import of two primes and an exponent succeeds, and from then on the slot
  does so for as long as its content is not changed.
-/

set_option autoImplicit false

namespace PgpCard

open Rsa

/-- The public power of a signature is the block of its message. -/
def Rsa.IsSignature (modulus exponent : Nat) (message signature : Bytes) : Prop :=
  signature.length = keyBytes ∧
    Bytes.toNat signature ^ exponent % modulus = Bytes.toNat (signatureBlock keyBytes message)

/-- What is encrypted with a public key: the public power of a block, on the size of a key. -/
def Rsa.encrypted (modulus exponent : Nat) (block : Bytes) : Bytes :=
  Bytes.ofNat keyBytes (Bytes.toNat block ^ exponent % modulus)

namespace KeySlots

variable {σ : Type} [Backend σ] {good : σ → Prop} {keys : KeySlots} {id : SlotId}

/-- What a slot does whose key has a given modulus and public exponent, above a good store.  It shows
them.  The key for signatures, while the counter can be raised, and the one for authentication sign
every message that fits; the key for decryption finds every message behind its filler. -/
structure Serves (good : σ → Prop) (keys : KeySlots) (id : SlotId) (n e : Nat) : Prop where
  publicKey : ∃ template value modulus exponent, keys.publicKey id = .ok template ∧
    Tlv.readSingle true template =
      .ok (.mk 0x7F49 value [.leaf 0x81 modulus, .leaf 0x82 exponent], []) ∧
    modulus.length = keyBytes ∧ Bytes.toNat modulus = n ∧ Bytes.toNat exponent = e
  sign : id = .signature → keys.counter < counterMax → ∀ message : Bytes,
    message.length ≤ maxMessageLength →
      Sturdily good (sign message) keys fun r _ => ∃ s, r = .ok s ∧ IsSignature n e message s
  authenticate : id = .authentication → ∀ message : Bytes, message.length ≤ maxMessageLength →
    Sturdily good (authenticate message) keys fun r keys' =>
      (∃ s, r = .ok s ∧ IsSignature n e message s) ∧ keys' = keys
  decipher : id = .decryption → ∀ (indicator : UInt8) (filler message : Bytes),
    (∀ b ∈ filler, b ≠ 0) → 8 ≤ filler.length →
    (encryptionBlock filler message).length = keyBytes →
      Sturdily good (decipher (indicator :: encrypted n e (encryptionBlock filler message))) keys
        fun r keys' => r = .ok message ∧ keys' = keys

/-! ## Operations above a store that takes every write -/

theorem setCounter_sturdily (sturdy : Sturdy good) (value : Nat) :
    Sturdily good (setCounter value) keys fun r keys' =>
      r = .ok () ∧ keys' = { keys with counter := min value counterMax } := by
  unfold setCounter
  refine Sturdily.bind (Sturdily.writeBlob sturdy ?_)
  exact Sturdily.adjust ⟨rfl, rfl⟩

theorem commit_sturdily (sturdy : Sturdy good) (id : SlotId) (content : KeySlot) :
    Sturdily good (commit id content) keys fun r keys' =>
      r = .ok () ∧ keys' = keys.putSlot id content := by
  unfold commit
  refine Sturdily.bind (Sturdily.writeBlob sturdy ?_)
  exact Sturdily.adjust ⟨rfl, rfl⟩

omit [Backend σ] in
theorem requireKey_sturdily {key : PrivateKey} (present : (keys.slot id).key = some key) :
    Sturdily good (requireKey id : Attempt CardError (Kept KeySlots σ) PrivateKey) keys
      fun r keys' => r = .ok key ∧ keys' = keys := by
  unfold requireKey
  refine Sturdily.held_bind ?_
  rw [present]
  exact Sturdily.pure ⟨rfl, rfl⟩

/-- An import whose parts make a key puts it into its slot. -/
theorem importKey_sturdily (sturdy : Sturdy good) {data : Bytes} {template : ImportTemplate}
    {key : PrivateKey} {components : Components}
    (parsed : ImportTemplate.parse? data = some template)
    (made : PrivateKey.ofFactors? (Bytes.toNat template.exponent) (Bytes.toNat template.p)
      (Bytes.toNat template.q) = .ok key)
    (split : key.components? = .ok components) :
    Sturdily good (importKey data) keys fun r keys' =>
      r = .ok template.slot ∧
        keys' = keys.putSlot template.slot (imported (keys.record template.slot) key components) := by
  unfold importKey
  rw [parsed]
  dsimp only
  rw [Bytes.toNatOfLong_eq, Bytes.toNatOfLong_eq, Bytes.toNatOfLong_eq, made]
  refine Sturdily.bind (Sturdily.mapError (Sturdily.ofExcept ?_))
  refine Sturdily.bind (Sturdily.mapError (Sturdily.ofExcept ?_))
  rw [split]
  refine Sturdily.held_bind ?_
  refine Sturdily.bind (Sturdily.mapError ((commit_sturdily sturdy _ _).mono ?_))
  rintro _ _ ⟨rfl, rfl⟩
  exact Sturdily.pure ⟨rfl, rfl⟩

/-! ## Slots with a lawful key -/

section Lawful

variable {key : PrivateKey} (sturdy : Sturdy good) (present : (keys.slot id).key = some key)
  (lawful : key.Lawful) (size : bitLength key.modulus = keyBits)

include sturdy present lawful size

theorem sign_of_lawful (signing : id = .signature) (room : keys.counter < counterMax)
    {message : Bytes} (short : message.length ≤ maxMessageLength) :
    Sturdily good (sign message) keys fun r _ =>
      ∃ s, r = .ok s ∧ IsSignature key.modulus key.publicExponent message s := by
  subst signing
  obtain ⟨s, signed, width, verifies⟩ := lawful.sign?_eq size short
  unfold sign
  refine Sturdily.bind ((requireKey_sturdily present).mono ?_)
  rintro _ _ ⟨rfl, rfl⟩
  dsimp only
  rw [if_neg (Nat.not_lt.mpr short)]
  refine Sturdily.held_bind ?_
  rw [if_neg (Nat.not_le.mpr room)]
  refine Sturdily.bind (Sturdily.mapError ((setCounter_sturdily sturdy _).mono ?_))
  rintro _ _ ⟨rfl, rfl⟩
  refine Sturdily.bind (Sturdily.note sturdy ?_)
  refine Sturdily.mapError (Sturdily.ofExcept ?_)
  rw [signed]
  exact ⟨s, rfl, width, verifies⟩

theorem authenticate_of_lawful (authenticating : id = .authentication) {message : Bytes}
    (short : message.length ≤ maxMessageLength) :
    Sturdily good (authenticate message) keys fun r keys' =>
      (∃ s, r = .ok s ∧ IsSignature key.modulus key.publicExponent message s) ∧ keys' = keys := by
  subst authenticating
  obtain ⟨s, signed, width, verifies⟩ := lawful.sign?_eq size short
  unfold authenticate
  refine Sturdily.bind ((requireKey_sturdily present).mono ?_)
  rintro _ _ ⟨rfl, rfl⟩
  dsimp only
  rw [if_neg (Nat.not_lt.mpr short)]
  refine Sturdily.bind (Sturdily.note sturdy ?_)
  refine Sturdily.mapError (Sturdily.ofExcept ?_)
  rw [signed]
  exact ⟨⟨s, rfl, width, verifies⟩, rfl⟩

theorem decipher_of_lawful (deciphering : id = .decryption) (indicator : UInt8)
    {filler message : Bytes} (nonzero : ∀ b ∈ filler, b ≠ 0) (enough : 8 ≤ filler.length)
    (length : (encryptionBlock filler message).length = keyBytes) :
    Sturdily good (decipher (indicator ::
        encrypted key.modulus key.publicExponent (encryptionBlock filler message))) keys
      fun r keys' => r = .ok message ∧ keys' = keys := by
  subst deciphering
  have decrypted := lawful.decrypt?_eq size nonzero enough length
  have width : (indicator :: encrypted key.modulus key.publicExponent
      (encryptionBlock filler message)).length = keyBytes + 1 := by
    rw [List.length_cons, encrypted, Bytes.length_ofNat]
  unfold decipher
  refine Sturdily.bind ((requireKey_sturdily present).mono ?_)
  rintro _ _ ⟨rfl, rfl⟩
  dsimp only
  rw [if_neg (fun differs => differs width)]
  refine Sturdily.bind (Sturdily.note sturdy ?_)
  refine Sturdily.mapError (Sturdily.ofExcept ?_)
  rw [List.drop_one, List.tail_cons, encrypted, decrypted]
  exact ⟨rfl, rfl⟩

end Lawful

/-- A slot with a lawful key of the card's size serves with it. -/
theorem serves_of_lawful (sturdy : Sturdy good) {key : PrivateKey} {components : Components}
    (present : (keys.slot id).key = some key)
    (kept : (keys.slot id).record.components = some components)
    (split : key.components? = .ok components) (lawful : key.Lawful)
    (size : bitLength key.modulus = keyBits)
    (exponent : key.publicExponent ≤ PrivateKey.maxExponent) :
    keys.Serves good id key.modulus key.publicExponent where
  publicKey := by
    obtain ⟨modulus, publicExponent⟩ := PrivateKey.public_of_components? size split
    have width : components.n.length = 256 := by
      rw [modulus]
      exact Bytes.length_ofNat _ _
    have narrow : components.e.length ≤ 5 := by
      rw [publicExponent]
      exact PrivateKey.length_minimal_exponent exponent
    have read := readSingle_publicKeyTemplate components.n components.e (by omega) []
    rw [List.append_nil] at read
    refine ⟨_, _, components.n, components.e, ?_, read, width, ?_, ?_⟩
    · unfold KeySlots.publicKey KeySlots.record
      rw [kept]
    · rw [modulus, Bytes.toNat_ofNat_of_lt (modulus_lt_pow size)]
    · rw [publicExponent, Bytes.toNat_minimal]
  sign signing room _ short := sign_of_lawful sturdy present lawful size signing room short
  authenticate authenticating _ short :=
    authenticate_of_lawful sturdy present lawful size authenticating short
  decipher deciphering indicator _ _ nonzero enough length :=
    decipher_of_lawful sturdy present lawful size deciphering indicator nonzero enough length

/-- Importing a header list with two primes and a public exponent succeeds.  For as long as the slot
keeps its content, it shows the product of the primes and the exponent, makes signatures that these
verify, and finds the messages that were encrypted with them. -/
theorem imported_key_works (sturdy : Sturdy good) {slotTag : Nat} (exponent p q : Bytes)
    (named : SlotId.ofTag? slotTag = some id)
    (admits : PrivateKey.Admits (Bytes.toNat exponent) (Bytes.toNat p) (Bytes.toNat q))
    (short : (ImportTemplate.headerList slotTag (ImportTemplate.rsaParts exponent p q)).length <
      65536) (keys : KeySlots) :
    Sturdily good
      (importKey (ImportTemplate.headerList slotTag (ImportTemplate.rsaParts exponent p q))) keys
      fun r keys' => r = .ok id ∧ ∀ later : KeySlots, later.slot id = keys'.slot id →
        later.Serves good id (Bytes.toNat p * Bytes.toNat q) (Bytes.toNat exponent) := by
  obtain ⟨d, made, lawful⟩ := admits.ofFactors?_eq
  obtain ⟨components, split⟩ := lawful.exists_components
  have positive : 0 < Bytes.toNat exponent := Nat.lt_of_lt_of_le (by decide) admits.atLeast
  have parsed := ImportTemplate.parse?_rsaParts named short (Bytes.ne_nil_of_toNat positive)
    (Bytes.ne_nil_of_toNat admits.pPrime.pos) (Bytes.ne_nil_of_toNat admits.qPrime.pos)
  refine (importKey_sturdily sturdy parsed made split).mono ?_
  rintro _ keys' ⟨rfl, rfl⟩
  refine ⟨rfl, fun later same => ?_⟩
  rw [slot_putSlot, if_pos rfl] at same
  refine serves_of_lawful sturdy ?_ ?_ split lawful admits.size ?_
  · rw [same]
    rfl
  · rw [same]
    rfl
  · exact admits.atMost

/-! ## An import -/

/-- The first prime behind a zero byte, and the second one. -/
@[irreducible] def samplePBytes : Bytes := 0 :: Bytes.ofNat 128 sampleP
@[irreducible] def sampleQBytes : Bytes := Bytes.ofNat 128 sampleQ

theorem imported_key_works_sample :
    let parts := ImportTemplate.rsaParts [3] samplePBytes sampleQBytes
    Sturdily (fun _ : MemoryStore => True)
      (importKey (ImportTemplate.headerList 0xB6 parts)) factory fun r keys =>
        r = .ok .signature ∧ keys.Serves (fun _ : MemoryStore => True) .signature
          (sampleP * sampleQ) 3 := by
  have p : Bytes.toNat samplePBytes = sampleP := by
    have small : sampleP < 256 ^ 128 := by decide +kernel
    unfold samplePBytes
    rw [Bytes.toNat_zero_cons]
    exact Bytes.toNat_ofNat_of_lt small
  have q : Bytes.toNat sampleQBytes = sampleQ := by
    have small : sampleQ < 256 ^ 128 := by decide +kernel
    unfold sampleQBytes
    exact Bytes.toNat_ofNat_of_lt small
  have three : Bytes.toNat [3] = 3 := by decide
  have named : SlotId.ofTag? 0xB6 = some .signature := rfl
  have admits : PrivateKey.Admits (Bytes.toNat [3]) (Bytes.toNat samplePBytes)
      (Bytes.toNat sampleQBytes) := by
    rw [p, q, three]
    exact sample_admits
  have works := imported_key_works memoryStore_sturdy [3] samplePBytes sampleQBytes named admits
    (by decide +kernel) factory
  rw [p, q, three] at works
  exact works.mono fun _ _ imported => ⟨imported.1, imported.2 _ rfl⟩

end KeySlots

end PgpCard
