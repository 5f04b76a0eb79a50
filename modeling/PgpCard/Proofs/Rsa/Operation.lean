import Mathlib.Data.Int.ModEq
import Mathlib.Data.Nat.ModEq
import Mathlib.Data.Nat.Prime.Basic
import Mathlib.FieldTheory.Finite.Basic
import PgpCard.Rsa.Key

/-!
# The private operation undoes the public one

* `inverse?_spec`, `exists_inverse?` : what `inverse?` finds is an inverse, and it finds one where
  there is one;
* `pow_modEq_self` : modulo a prime, a power whose exponent leaves the remainder one is the number
  itself, also where the prime divides it;
* `PrivateKey.Lawful` : a key of two distinct primes whose exponents are inverse to each other;
* `Lawful.operate?_eq` : the private operation of such a key finds the one number below the modulus
  whose public power is given, and `Lawful.operate?_pow` that it finds the number again that the
  public operation was applied to.

Nothing is asked of the numbers they are applied to: they may share a factor with the modulus.
-/

set_option autoImplicit false

namespace PgpCard.Rsa

/-! ## Inverses -/

/-- Repeated division ends with the greatest common divisor and a coefficient that gives it, if
each of the two numbers has such a coefficient at the start. -/
theorem commonDivisor_spec (a modulus : Int) (r s : Nat) (u v : Int)
    (first : u * a ≡ r [ZMOD modulus]) (second : v * a ≡ s [ZMOD modulus]) :
    (commonDivisor r s u v).1 = Nat.gcd r s ∧
      (commonDivisor r s u v).2 * a ≡ Nat.gcd r s [ZMOD modulus] := by
  induction r, s, u, v using commonDivisor.induct with
  | case1 r u v =>
    rw [commonDivisor, dif_pos rfl, Nat.gcd_zero_right]
    exact ⟨rfl, first⟩
  | case2 r s u v nonzero ih =>
    have remainder : (u - (r / s : Nat) * v) * a ≡ (r % s : Nat) [ZMOD modulus] := by
      have division : (r : Int) - (r / s : Nat) * s = (r % s : Nat) := by
        have := Int.emod_add_mul_ediv r s
        push_cast
        linarith
      rw [← division, sub_mul, mul_assoc]
      exact first.sub (second.mul_left _)
    rw [commonDivisor, dif_neg nonzero, Nat.gcd_comm r s, Nat.gcd_rec s r, Nat.gcd_comm]
    exact ih second remainder

variable {a modulus x : Nat}

theorem commonDivisor_start (a modulus : Nat) :
    (commonDivisor a modulus 1 0).1 = Nat.gcd a modulus ∧
      (commonDivisor a modulus 1 0).2 * a ≡ Nat.gcd a modulus [ZMOD modulus] := by
  refine commonDivisor_spec a modulus a modulus 1 0 (by rw [one_mul]) ?_
  rw [zero_mul]
  exact (Int.modEq_zero_iff_dvd.mpr dvd_rfl).symm

/-- What is found is below the modulus, and its product with the number leaves the remainder
one. -/
theorem inverse?_spec (positive : 0 < modulus) (found : inverse? a modulus = some x) :
    x < modulus ∧ a * x ≡ 1 [MOD modulus] := by
  obtain ⟨divisor, coefficient⟩ := commonDivisor_start a modulus
  have nonzero : (modulus : Int) ≠ 0 := by omega
  unfold inverse? at found
  dsimp only at found
  split at found
  · rename_i one
    rw [← divisor, one] at coefficient
    have value : ((commonDivisor a modulus 1 0).2 % modulus).toNat = x := Option.some.inj found
    have same : (x : Int) = (commonDivisor a modulus 1 0).2 % modulus := by
      rw [← value]
      exact Int.toNat_of_nonneg (Int.emod_nonneg _ nonzero)
    refine ⟨?_, ?_⟩
    · have bound := Int.emod_lt_of_pos (commonDivisor a modulus 1 0).2 (by omega : (0 : Int) < modulus)
      omega
    · rw [← Int.natCast_modEq_iff]
      push_cast
      rw [same, mul_comm]
      exact ((Int.mod_modEq _ _).mul_right _).trans coefficient
  · cases found

/-- A number without a common divisor with the modulus has an inverse. -/
theorem exists_inverse? (coprime : Nat.Coprime a modulus) : ∃ x, inverse? a modulus = some x := by
  have one := (commonDivisor_start a modulus).1.trans coprime
  simp only [inverse?, one, if_true]
  exact ⟨_, rfl⟩

/-! ## Powers modulo a prime -/

/-- Modulo a prime, a power whose exponent leaves the remainder one by one less than the prime is
the number itself. -/
theorem pow_modEq_self {p k : Nat} (prime : p.Prime) (one : k % (p - 1) = 1) (m : Nat) :
    m ^ k ≡ m [MOD p] := by
  have exponent : k = (p - 1) * (k / (p - 1)) + 1 := by
    have := Nat.div_add_mod k (p - 1)
    omega
  have : Fact p.Prime := ⟨prime⟩
  rw [← ZMod.natCast_eq_natCast_iff, Nat.cast_pow]
  by_cases divides : (m : ZMod p) = 0
  · -- both sides vanish: the exponent is not zero
    rw [divides, zero_pow (by omega)]
  · rw [exponent, pow_succ, pow_mul, ZMod.pow_card_sub_one_eq_one divides, one_pow, one_mul]

/-! ## Remainders by two factors -/

section Recombine

variable {p q mq : Nat}

theorem recombine_lt (positive : 0 < p) (quotient : Int) (small : mq < q) :
    (quotient % p).toNat * q + mq < p * q := by
  have bound : quotient % p < p := Int.emod_lt_of_pos quotient (by omega)
  calc
    (quotient % p).toNat * q + mq < ((quotient % p).toNat + 1) * q := by rw [Nat.add_mul]; omega
    _ ≤ p * q := Nat.mul_le_mul_right q (by omega)

/-- The multiple of the second factor is chosen so that the sum has the given remainder by the
first. -/
theorem recombine_modEq {qinv : Nat} (positive : 0 < p) (inverse : q * qinv ≡ 1 [MOD p])
    (mp mq : Nat) : (((mp : Int) - mq) * qinv % p).toNat * q + mq ≡ mp [MOD p] := by
  have one : (q : Int) * qinv ≡ 1 [ZMOD p] := by exact_mod_cast Int.natCast_modEq_iff.mpr inverse
  have natural : 0 ≤ ((mp : Int) - mq) * qinv % p := Int.emod_nonneg _ (by omega)
  rw [← Int.natCast_modEq_iff, Nat.cast_add, Nat.cast_mul, Int.toNat_of_nonneg natural]
  calc
    ((mp : Int) - mq) * qinv % p * q + mq ≡ ((mp : Int) - mq) * qinv * q + mq [ZMOD p] :=
      ((Int.mod_modEq _ _).mul_right _).add_right _
    _ = ((mp : Int) - mq) * (q * qinv) + mq := by ring
    _ ≡ ((mp : Int) - mq) * 1 + mq [ZMOD p] := (one.mul_left _).add_right _
    _ = mp := by ring

end Recombine

/-! ## Lawful keys -/

/-- A key of two distinct primes, with exponents that are inverse to each other modulo one less than
each of them. -/
structure PrivateKey.Lawful (key : PrivateKey) : Prop where
  pPrime : key.p.Prime
  qPrime : key.q.Prime
  distinct : key.p ≠ key.q
  product : key.p * key.q = key.modulus
  agreeP : key.publicExponent * key.privateExponent % (key.p - 1) = 1
  agreeQ : key.publicExponent * key.privateExponent % (key.q - 1) = 1

namespace PrivateKey.Lawful

variable {key : PrivateKey} (lawful : key.Lawful)

include lawful

theorem coprime : Nat.Coprime key.p key.q :=
  (Nat.coprime_primes lawful.pPrime lawful.qPrime).mpr lawful.distinct

/-- The second factor has an inverse modulo the first. -/
theorem exists_coefficient : ∃ qinv, inverse? key.q key.p = some qinv :=
  exists_inverse? lawful.coprime.symm

theorem modEq_of_modEq {x y : Nat} (underP : x ≡ y [MOD key.p]) (underQ : x ≡ y [MOD key.q]) :
    x ≡ y [MOD key.modulus] := by
  rw [← lawful.product]
  exact (Nat.modEq_and_modEq_iff_modEq_mul lawful.coprime).mp ⟨underP, underQ⟩

/-- The private operation gives a number below the modulus with the right remainder by each
factor. -/
theorem power_spec (c : Nat) :
    key.power c < key.modulus ∧
      key.power c ≡ c ^ (key.privateExponent % (key.p - 1)) [MOD key.p] ∧
      key.power c ≡ c ^ (key.privateExponent % (key.q - 1)) [MOD key.q] := by
  obtain ⟨qinv, found⟩ := lawful.exists_coefficient
  obtain ⟨-, inverse⟩ := inverse?_spec lawful.pPrime.pos found
  unfold power
  rw [found]
  simp only [powMod_eq, Nat.pow_eq]
  generalize c ^ (key.privateExponent % (key.p - 1)) = cp
  generalize c ^ (key.privateExponent % (key.q - 1)) = cq
  refine ⟨?_, ?_, ?_⟩
  · rw [← lawful.product]
    exact recombine_lt lawful.pPrime.pos _ (Nat.mod_lt _ lawful.qPrime.pos)
  · exact (recombine_modEq lawful.pPrime.pos inverse _ _).trans (Nat.mod_modEq _ _)
  · rw [Nat.ModEq, Nat.mul_add_mod_self_right, Nat.mod_mod]

omit lawful in
/-- The public exponent and the private one for one factor cancel out. -/
theorem pow_exponents {factor : Nat} (prime : factor.Prime)
    (agree : key.publicExponent * key.privateExponent % (factor - 1) = 1) (m : Nat) :
    (m ^ (key.privateExponent % (factor - 1))) ^ key.publicExponent ≡ m [MOD factor] := by
  rw [← pow_mul]
  refine pow_modEq_self prime ?_ m
  rw [Nat.mul_comm, Nat.mul_mod_mod]
  exact agree

/-- The public operation undoes the private one. -/
theorem power_pow (c : Nat) : key.power c ^ key.publicExponent ≡ c [MOD key.modulus] := by
  obtain ⟨-, underP, underQ⟩ := lawful.power_spec c
  exact lawful.modEq_of_modEq
    ((underP.pow _).trans (pow_exponents lawful.pPrime lawful.agreeP c))
    ((underQ.pow _).trans (pow_exponents lawful.qPrime lawful.agreeQ c))

/-- The private operation undoes the public one. -/
theorem power_of_pow {m : Nat} (small : m < key.modulus) :
    key.power (m ^ key.publicExponent % key.modulus) = m := by
  obtain ⟨bound, underP, underQ⟩ := lawful.power_spec (m ^ key.publicExponent % key.modulus)
  have dividesP : key.p ∣ key.modulus := ⟨key.q, lawful.product.symm⟩
  have dividesQ : key.q ∣ key.modulus := ⟨key.p, by rw [Nat.mul_comm]; exact lawful.product.symm⟩
  -- modulo each factor the exponents cancel out, in the other order
  have under : ∀ factor, factor.Prime → factor ∣ key.modulus →
      key.publicExponent * key.privateExponent % (factor - 1) = 1 →
      (m ^ key.publicExponent % key.modulus) ^ (key.privateExponent % (factor - 1)) ≡ m
        [MOD factor] := by
    intro factor prime divides agree
    have reduced : m ^ key.publicExponent % key.modulus ≡ m ^ key.publicExponent [MOD factor] :=
      (Nat.mod_modEq _ _).of_dvd divides
    refine (reduced.pow _).trans ?_
    rw [← pow_mul, Nat.mul_comm, pow_mul]
    exact pow_exponents prime agree m
  have same : key.power (m ^ key.publicExponent % key.modulus) ≡ m [MOD key.modulus] :=
    lawful.modEq_of_modEq (underP.trans (under key.p lawful.pPrime dividesP lawful.agreeP))
      (underQ.trans (under key.q lawful.qPrime dividesQ lawful.agreeQ))
  exact Nat.ModEq.eq_of_lt_of_lt same bound small

/-- Below the modulus, the private operation finds the number whose public power is given. -/
theorem operate?_eq {c : Nat} (small : c < key.modulus) :
    ∃ m, key.operate? c = .ok m ∧ m < key.modulus ∧ m ^ key.publicExponent % key.modulus = c := by
  have undone : key.power c ^ key.publicExponent % key.modulus = c :=
    Eq.trans (lawful.power_pow c) (Nat.mod_eq_of_lt small)
  refine ⟨key.power c, ?_, (lawful.power_spec c).1, undone⟩
  unfold operate?
  rw [if_neg (Nat.not_le.mpr small)]
  dsimp only
  rw [powMod_eq, Nat.pow_eq, if_pos undone]

/-- The private operation finds the number again that the public one was applied to. -/
theorem operate?_pow {m : Nat} (small : m < key.modulus) :
    key.operate? (m ^ key.publicExponent % key.modulus) = .ok m := by
  have positive : 0 < key.modulus := Nat.lt_of_le_of_lt (Nat.zero_le m) small
  unfold operate?
  rw [if_neg (Nat.not_le.mpr (Nat.mod_lt _ positive))]
  dsimp only
  rw [lawful.power_of_pow small, powMod_eq, Nat.pow_eq, if_pos rfl]

end PrivateKey.Lawful

end PgpCard.Rsa
