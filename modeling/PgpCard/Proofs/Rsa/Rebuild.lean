import PgpCard.Environment
import PgpCard.Proofs.Bytes

/-!
# A key is rebuilt from its byte strings

* `PrivateKey.checked_of_ofFactors?` : a key that was made from its factors has no fault;
* `PrivateKey.ofComponents?_of_components?` : the byte strings of a key stand for that key, as far
  as it has no fault;
* `PrivateKey.Valid` : a key of the card, which has no fault and the full size;
* `Environment.SoundKeys`, `Environment.MakesKeys` : every key that the outside makes has no fault,
  or is a key of the card; both are so for keys made from random bytes (`makesKeys_ofRandom`).
-/

set_option autoImplicit false

namespace PgpCard

namespace Rsa.PrivateKey

theorem checked_eq_ok {key key' : PrivateKey} (h : key.checked = .ok key') : key' = key := by
  unfold checked at h
  split at h
  · cases h
  · cases h
    rfl

/-- A key that was checked passes the check again. -/
theorem checked_of_checked {key key' : PrivateKey} (h : key.checked = .ok key') :
    key'.checked = .ok key' := by
  rwa [← checked_eq_ok h] at h

theorem checked_of_ofFactors? {exponent p q : Nat} {key : PrivateKey}
    (h : ofFactors? exponent p q = .ok key) : key.checked = .ok key := by
  unfold ofFactors? at h
  split at h
  · cases h
  · split at h
    · cases h
    · split at h
      · cases h
      · exact checked_of_checked h

/-- A key of the card: it has no fault, and its modulus has the full size. -/
structure Valid (key : PrivateKey) : Prop where
  checked : key.checked = .ok key
  size : bitLength key.modulus = keyBits

/-- So is a key that was made from its factors. -/
theorem valid_of_ofFactors? {exponent p q : Nat} {key : PrivateKey}
    (h : ofFactors? exponent p q = .ok key) : key.Valid := by
  refine ⟨checked_of_ofFactors? h, ?_⟩
  unfold ofFactors? at h
  split at h
  · cases h
  · split at h
    · cases h
    · rename_i size
      split at h
      · cases h
      · rw [checked_eq_ok h]
        exact Classical.not_not.mp size

/-- The byte strings of a key stand for that key, as far as it has no fault. -/
theorem ofComponents?_of_components? {key : PrivateKey} {components : Components}
    (h : key.components? = .ok components) : ofComponents? components = key.checked := by
  unfold components? at h
  split at h
  · cases h
  · cases h
    simp [ofComponents?, ofParts?]

theorem valid_of_generate {random : Nat → UInt8} {key : PrivateKey}
    (h : generate random = .ok key) : key.Valid := by
  unfold generate at h
  split at h
  · cases h
  · split at h
    · cases h
    · exact valid_of_ofFactors? h

end Rsa.PrivateKey

namespace Environment

/-- Every key that the outside makes has no fault. -/
def SoundKeys (env : Environment) : Prop :=
  ∀ key, env.newKey () = .ok key → key.checked = .ok key

/-- Every key that the outside makes is a key of the card. -/
def MakesKeys (env : Environment) : Prop :=
  ∀ key, env.newKey () = .ok key → key.Valid

theorem MakesKeys.soundKeys {env : Environment} (makes : env.MakesKeys) : env.SoundKeys :=
  fun key made => (makes key made).checked

theorem makesKeys_ofRandom (random : Nat → UInt8) (now : UInt32) :
    (ofRandom random now).MakesKeys := fun _ made =>
  Rsa.PrivateKey.valid_of_generate made

theorem soundKeys_ofRandom (random : Nat → UInt8) (now : UInt32) :
    (ofRandom random now).SoundKeys := (makesKeys_ofRandom random now).soundKeys

end Environment

end PgpCard
