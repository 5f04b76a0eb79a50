import PgpCard.Proofs.Rsa.Factors
import PgpCard.Proofs.Rsa.Rebuild

/-!
# What the byte strings of a key say of each other

* `Components.Consistent` : the numbers that the byte strings denote fit together as those of a key
  do;
* `Valid.consistent` : the byte strings of a key of the card are consistent, and
  `Valid.ofComponents?_eq` that the key is rebuilt from them;
* `Components.Publish` : modulus and public exponent among them are those of a key.
-/

set_option autoImplicit false

namespace PgpCard.Rsa

open Bytes

/-- The numbers that the byte strings of a key denote: the modulus is the product of the factors and
stands on its full size, the exponents are inverse to each other by each factor, and what is kept
for each factor belongs to it. -/
structure Components.Consistent (c : Components) : Prop where
  product : toNat c.n = toNat c.p * toNat c.q
  size : bitLength (toNat c.n) = keyBits
  width : c.n.length = keyBytes
  agreeP : toNat c.e * toNat c.d % (toNat c.p - 1) = 1
  agreeQ : toNat c.e * toNat c.d % (toNat c.q - 1) = 1
  dp : toNat c.dp = toNat c.d % (toNat c.p - 1)
  dq : toNat c.dq = toNat c.d % (toNat c.q - 1)
  qinv : toNat c.q * toNat c.qinv % toNat c.p = 1

/-- Modulus and public exponent are those of a key. -/
def Components.Publish (c : Components) (key : PrivateKey) : Prop :=
  toNat c.n = key.modulus ∧ toNat c.e = key.publicExponent

namespace PrivateKey

variable {key : PrivateKey} {components : Components}

/-- What a key without fault has been checked for. -/
theorem faultless_of_checked (checked : key.checked = .ok key) :
    publicFault? key.modulus key.publicExponent = none ∧ 1 < key.p ∧ 1 < key.q ∧
      key.p * key.q = key.modulus ∧ key.exponentsAgree key.p = true ∧
      key.exponentsAgree key.q = true := by
  have faultless : key.fault? = none := by
    unfold PrivateKey.checked at checked
    split at checked
    · cases checked
    · assumption
  unfold fault? at faultless
  split at faultless
  · cases faultless
  · rename_i public_part
    split at faultless
    · cases faultless
    · rename_i factors
      split at faultless
      · cases faultless
      · rename_i product
        split at faultless
        · rename_i agree
          rw [Bool.and_eq_true] at agree
          rw [not_or, Nat.not_le, Nat.not_le] at factors
          exact ⟨public_part, factors.1, factors.2, Classical.not_not.mp product, agree⟩
        · cases faultless

/-- The public exponent of a key without fault is not too large. -/
theorem exponent_le_of_checked (checked : key.checked = .ok key) :
    key.publicExponent ≤ maxExponent := by
  have faultless := (faultless_of_checked checked).1
  unfold publicFault? at faultless
  by_contra large
  rw [Nat.not_le] at large
  rw [if_pos large] at faultless
  split at faultless
  · cases faultless
  · split at faultless
    · cases faultless
    · split at faultless
      · cases faultless
      · split at faultless <;> cases faultless

/-- The byte strings of a key denote its numbers. -/
theorem publish_of_components? (split : key.components? = .ok components) :
    components.Publish key := by
  unfold components? at split
  split at split
  · cases split
  · cases split
    exact ⟨by rw [toNat_padLeft, toNat_minimal], toNat_minimal _⟩

namespace Valid

/-- The byte strings of a key of the card are consistent. -/
theorem consistent (valid : key.Valid) (split : key.components? = .ok components) :
    components.Consistent := by
  obtain ⟨-, pLarge, qLarge, product, agreeP, agreeQ⟩ := faultless_of_checked valid.checked
  have width : components.n.length = keyBytes := by
    rw [(public_of_components? valid.size split).1, length_ofNat]
  unfold components? at split
  split at split
  · cases split
  · rename_i qinv found
    cases split
    obtain ⟨-, inverse⟩ := inverse?_spec (by omega) found
    constructor
    case width => exact width
    all_goals simp only [toNat_padLeft, toNat_minimal]
    case product => exact product.symm
    case size => exact valid.size
    case agreeP => exact eq_of_beq agreeP
    case agreeQ => exact eq_of_beq agreeQ
    case qinv => exact Eq.trans inverse (Nat.mod_eq_of_lt pLarge)

/-- A key of the card is rebuilt from its byte strings. -/
theorem ofComponents?_eq (valid : key.Valid) (split : key.components? = .ok components) :
    ofComponents? components = .ok key :=
  (ofComponents?_of_components? split).trans valid.checked

end Valid

end PrivateKey

end PgpCard.Rsa
