import PgpCard.Bytes

/-!
# Modular arithmetic

* `powMod base exponent modulus` is the power's remainder, by repeated squaring; `powMod_eq` says
  so.
* `inverse? a modulus` is the inverse of `a`, below the modulus, where there is one.
-/

set_option autoImplicit false

namespace PgpCard.Rsa

/-- The power after one more binary digit of the exponent: the power so far is squared, and
multiplied by the base if the digit is one. -/
def powStep (base modulus power digit : Nat) : Nat :=
  let square := power * power % modulus
  if digit = 0 then square else square * base % modulus

/-- `base ^ exponent` modulo `modulus`, digit by binary digit of the exponent. -/
def powMod (base exponent modulus : Nat) : Nat :=
  (Numeral.digitsOfLong 2 (bitLength exponent) exponent).foldl (powStep base modulus) (1 % modulus)

/-- The greatest common divisor of `r` and `s` by repeated division, where `u` and `v` are kept as
the coefficients of the number whose inverse is sought: the result is the divisor with its
coefficient. -/
def commonDivisor (r s : Nat) (u v : Int) : Nat × Int :=
  if _h : s = 0 then (r, u)
  else commonDivisor s (r % s) v (u - (r / s : Nat) * v)
termination_by s
decreasing_by exact Nat.mod_lt _ (Nat.pos_of_ne_zero _h)

/-- The number below `modulus` whose product with `a` leaves the remainder one. -/
def inverse? (a modulus : Nat) : Option Nat :=
  let (divisor, coefficient) := commonDivisor a modulus 1 0
  if divisor = 1 then some (coefficient % modulus).toNat else none

/-! ## The power -/

theorem powStep_eq (base modulus n digit : Nat) (h : digit < 2) :
    powStep base modulus (Nat.pow base n % modulus) digit =
      Nat.pow base (n * 2 + digit) % modulus := by
  have add : ∀ i j, Nat.pow base (i + j) = Nat.pow base i * Nat.pow base j := Nat.pow_add base
  have one : Nat.pow base 1 = base := Nat.one_mul base
  have square : Nat.pow base n % modulus * (Nat.pow base n % modulus) % modulus =
      Nat.pow base (n * 2) % modulus := by
    rw [← Nat.mul_mod, Nat.mul_two, add]
  rw [powStep, square]
  split
  · rename_i zero
    rw [zero, Nat.add_zero]
  · rename_i nonzero
    rw [show digit = 1 by omega, add, one, Nat.mod_mul_mod]

theorem foldl_powStep (base modulus n : Nat) (digits : List Nat) (h : ∀ digit ∈ digits, digit < 2) :
    digits.foldl (powStep base modulus) (Nat.pow base n % modulus) =
      Nat.pow base (digits.foldl (fun acc digit => acc * 2 + digit) n) % modulus := by
  induction digits generalizing n with
  | nil => rfl
  | cons digit rest ih =>
    rw [List.foldl_cons, List.foldl_cons,
      powStep_eq base modulus n digit (h digit List.mem_cons_self),
      ih _ fun digit member => h digit (List.mem_cons_of_mem _ member)]

theorem lt_pow_bitLength (n : Nat) : n < Nat.pow 2 (bitLength n) := by
  rw [bitLength]
  split
  · rename_i zero
    rw [zero]
    exact Nat.one_pos
  · exact Nat.lt_log2_self

/-- Repeated squaring finds the remainder of the power. -/
theorem powMod_eq (base exponent modulus : Nat) :
    powMod base exponent modulus = Nat.pow base exponent % modulus := by
  have start : 1 % modulus = Nat.pow base 0 % modulus := rfl
  have digits := foldl_powStep base modulus 0 (Numeral.digits 2 (bitLength exponent) exponent)
    (Numeral.digits_lt (by omega))
  have exponent_kept := Numeral.value_digits 2 (bitLength exponent) exponent
  rw [Nat.mod_eq_of_lt (lt_pow_bitLength exponent), Numeral.value] at exponent_kept
  rw [powMod, Numeral.digitsOfLong_eq, start, digits, exponent_kept]

end PgpCard.Rsa
