import Mathlib.NumberTheory.LucasPrimality
import Mathlib.Tactic.NormNum.Prime
import PgpCard.Proofs.Bytes
import PgpCard.Proofs.Rsa.Operation

/-!
# A key from two primes

* `PrivateKey.Admits` : what is asked of a public exponent and two factors so that they make a key
  of the card;
* `Admits.ofFactors?_eq` : they make one, and it is lawful;
* `Lawful.exists_components`, `public_of_components?` : a lawful key has byte strings, and what the
  public ones among them are;
* `prime_of_powers`, `sample_admits` : a test for primes of a certain shape, and two that it finds.
-/

set_option autoImplicit false

namespace PgpCard.Rsa

namespace PrivateKey

/-- Two distinct odd primes whose product has the size of a key, and an odd exponent of at most
thirty-three bits that shares no factor with one less than each of them. -/
structure Admits (exponent p q : Nat) : Prop where
  pPrime : p.Prime
  qPrime : q.Prime
  distinct : p ≠ q
  pOdd : p % 2 = 1
  qOdd : q % 2 = 1
  size : bitLength (p * q) = keyBits
  exponentOdd : exponent % 2 = 1
  atLeast : 3 ≤ exponent
  atMost : exponent ≤ 2 ^ 33 - 1
  coprime : Nat.Coprime exponent ((p - 1) * (q - 1))

namespace Admits

variable {exponent p q : Nat} (admits : Admits exponent p q)

include admits

/-- The public part of the key has no fault. -/
theorem publicFault?_eq : publicFault? (p * q) exponent = none := by
  have large : 2 ^ 2047 ≤ p * q := two_pow_le_of_bitLength admits.size
  have atLeast := admits.atLeast
  have atMost : exponent ≤ 8589934591 := admits.atMost
  have exponentOdd := admits.exponentOdd
  have odd : p * q % 2 = 1 := by rw [Nat.mul_mod, admits.pOdd, admits.qOdd]
  have small : exponent < p * q := by
    have room : 8589934591 < 2 ^ 2047 := by decide +kernel
    exact Nat.lt_of_le_of_lt atMost (Nat.lt_of_lt_of_le room large)
  unfold publicFault?
  rw [if_neg (by rw [UInt64.size]; omega), if_neg (by omega), if_neg (by omega),
    if_neg (by omega), if_neg (by rw [maxExponent]; omega)]

/-- An inverse modulo the product of two numbers is one modulo each of them. -/
theorem agree {d : Nat} (inverse : exponent * d ≡ 1 [MOD (p - 1) * (q - 1)]) :
    exponent * d % (p - 1) = 1 ∧ exponent * d % (q - 1) = 1 := by
  have pLarge : 1 < p - 1 := by
    have := admits.pPrime.two_le
    have := admits.pOdd
    omega
  have qLarge : 1 < q - 1 := by
    have := admits.qPrime.two_le
    have := admits.qOdd
    omega
  constructor
  · exact Eq.trans (inverse.of_mul_right (q - 1)) (Nat.mod_eq_of_lt pLarge)
  · exact Eq.trans (inverse.of_mul_left (p - 1)) (Nat.mod_eq_of_lt qLarge)

/-- Such numbers make a lawful key. -/
theorem ofFactors?_eq : ∃ d, ofFactors? exponent p q = .ok ⟨p * q, exponent, d, p, q⟩ ∧
    Lawful ⟨p * q, exponent, d, p, q⟩ := by
  have pLarge := admits.pPrime.one_lt
  have qLarge := admits.qPrime.one_lt
  have positive : 0 < (p - 1) * (q - 1) := Nat.mul_pos (by omega) (by omega)
  obtain ⟨d, found⟩ := exists_inverse? admits.coprime
  obtain ⟨-, inverse⟩ := inverse?_spec positive found
  obtain ⟨agreeP, agreeQ⟩ := admits.agree inverse
  refine ⟨d, ?_, admits.pPrime, admits.qPrime, admits.distinct, rfl, agreeP, agreeQ⟩
  have faultless : fault? ⟨p * q, exponent, d, p, q⟩ = none := by
    simp only [fault?, admits.publicFault?_eq]
    rw [if_neg (by omega), if_neg (fun differs => differs rfl)]
    simp only [exponentsAgree, agreeP, agreeQ]
    rfl
  unfold ofFactors?
  rw [if_neg (by omega), if_neg (fun differs => differs admits.size), found]
  simp only [ofParts?, checked, faultless]

end Admits

/-! ## Byte strings -/

section Components

variable {key : PrivateKey} {components : Components}

/-- A lawful key has byte strings. -/
theorem Lawful.exists_components (lawful : key.Lawful) :
    ∃ components, key.components? = .ok components := by
  obtain ⟨qinv, found⟩ := lawful.exists_coefficient
  unfold components?
  rw [found]
  exact ⟨_, rfl⟩

/-- The byte strings of a key of the card's size: the modulus fills that size, the public exponent
is as short as it can be. -/
theorem public_of_components? (size : bitLength key.modulus = keyBits)
    (split : key.components? = .ok components) :
    components.n = Bytes.ofNat keyBytes key.modulus ∧
      components.e = Bytes.minimal key.publicExponent := by
  unfold components? at split
  split at split
  · cases split
  · cases split
    exact ⟨Bytes.padLeft_minimal (by decide) size, rfl⟩

/-- The public exponent of a key stands on five bytes at most. -/
theorem length_minimal_exponent {exponent : Nat} (atMost : exponent ≤ maxExponent) :
    (Bytes.minimal exponent).length ≤ 5 := by
  have small : exponent < 2 ^ 33 := by
    have limit : exponent ≤ 0x1FFFFFFFF := atMost
    omega
  have bits := bitLength_le small
  rw [Bytes.length_minimal, byteLength]
  omega

end Components

end PrivateKey

/-! ## Two primes that are easy to check -/

/-- Where one less than a number has no prime divisors but two and another one, a base shows that the
number is prime if its power is one for the whole of that exponent, and for none of its quotients by
these divisors. -/
theorem prime_of_powers {n k a : Nat} (base : Nat) (large : 1 < n) (prime : k.Prime)
    (shape : n - 1 = k * 2 ^ a) (whole : powMod base (n - 1) n = 1)
    (parts : ∀ q ∈ [k, 2], powMod base ((n - 1) / q) n ≠ 1) : n.Prime := by
  have one_iff : ∀ exponent, (base : ZMod n) ^ exponent = 1 ↔ powMod base exponent n = 1 := by
    intro exponent
    rw [powMod_eq, Nat.pow_eq, ← Nat.cast_pow, ← Nat.cast_one (R := ZMod n),
      ZMod.natCast_eq_natCast_iff', Nat.mod_eq_of_lt large]
  refine lucas_primality n (base : ZMod n) ((one_iff _).mpr whole) ?_
  intro q qPrime divides
  rw [Ne, one_iff]
  apply parts
  rw [shape] at divides
  rcases (Nat.Prime.dvd_mul qPrime).mp divides with divides | divides
  · rw [(Nat.prime_dvd_prime_iff_eq qPrime prime).mp divides]
    exact List.mem_cons_self
  · have divides := qPrime.dvd_of_dvd_pow divides
    rw [(Nat.prime_dvd_prime_iff_eq qPrime Nat.prime_two).mp divides]
    exact List.mem_cons_of_mem _ List.mem_cons_self

/-- Two primes of half the size of a key.  Only the kernel is to compute with them. -/
@[irreducible] def sampleP : Nat := 3931 * 2 ^ 1012 + 1
@[irreducible] def sampleQ : Nat := 7547 * 2 ^ 1011 + 1

theorem sample_admits : PrivateKey.Admits 3 sampleP sampleQ where
  pPrime := by
    have prime : Nat.Prime 3931 := by norm_num
    have shape : sampleP - 1 = 3931 * 2 ^ 1012 := by decide +kernel
    exact prime_of_powers 3 (by decide +kernel) prime shape (by decide +kernel) (by decide +kernel)
  qPrime := by
    have prime : Nat.Prime 7547 := by norm_num
    have shape : sampleQ - 1 = 7547 * 2 ^ 1011 := by decide +kernel
    exact prime_of_powers 3 (by decide +kernel) prime shape (by decide +kernel) (by decide +kernel)
  distinct := by decide +kernel
  pOdd := by decide +kernel
  qOdd := by decide +kernel
  size := by decide +kernel
  exponentOdd := by decide
  atLeast := by decide
  atMost := by decide
  coprime := by decide +kernel

end PgpCard.Rsa
