/-!
# Positional numerals

A numeral is a list of digits, the digit of greatest weight first.

* `Numeral.value radix digits` is the number that a numeral denotes, and
  `Numeral.digits radix width n` is the numeral of a number on exactly `width` digits.
* `Numeral.value_append` and `Numeral.digits_add` split a numeral in two.
* `Numeral.valueOfLong_eq` and `Numeral.digitsOfLong_eq` say that a long numeral may be read and
  written by its two halves, these again by halves, and so on.  This takes fewer operations on
  large numbers than handling one digit after another.
* `Numeral.value_digits` says that reading a numeral gives back what was written, as far as the
  digits reach.
-/

set_option autoImplicit false

namespace PgpCard.Numeral

/-- The number of digits that are handled one after another. -/
def shortLength : Nat := 32

/-- How often a length is halved until it is short. -/
def halvings (length : Nat) : Nat := (length / shortLength).log2

/-! ## Reading -/

/-- The number that a numeral denotes. -/
def value (radix : Nat) (digits : List Nat) : Nat :=
  digits.foldl (fun acc digit => acc * radix + digit) 0

/-- The number that a numeral denotes, read from halves that are halved a given number of
times. -/
def valueByHalves (radix : Nat) : Nat → List Nat → Nat
  | 0, digits => value radix digits
  | depth + 1, digits =>
    let half := digits.length / 2
    valueByHalves radix depth (digits.take half) * Nat.pow radix (digits.length - half) +
      valueByHalves radix depth (digits.drop half)

/-- The number that a numeral denotes, read from halves until they are short. -/
def valueOfLong (radix : Nat) (digits : List Nat) : Nat :=
  valueByHalves radix (halvings digits.length) digits

theorem foldl_eq (radix acc : Nat) (digits : List Nat) :
    digits.foldl (fun acc digit => acc * radix + digit) acc =
      acc * Nat.pow radix digits.length + value radix digits := by
  induction digits generalizing acc with
  | nil => simp [value]
  | cons digit rest ih =>
    have weight : value radix (digit :: rest) =
        digit * Nat.pow radix rest.length + value radix rest := by
      rw [value, List.foldl_cons, ih, Nat.zero_mul, Nat.zero_add]
    have place : Nat.pow radix (rest.length + 1) = radix * Nat.pow radix rest.length :=
      Nat.mul_comm _ _
    rw [List.foldl_cons, ih, weight, List.length_cons, place, Nat.add_mul, Nat.add_assoc,
      Nat.mul_assoc]

/-- The digits in front weigh more by as many places as there are behind them. -/
theorem value_append (radix : Nat) (front back : List Nat) :
    value radix (front ++ back) =
      value radix front * Nat.pow radix back.length + value radix back := by
  rw [value, List.foldl_append, foldl_eq, value, value]

theorem valueByHalves_eq (radix depth : Nat) (digits : List Nat) :
    valueByHalves radix depth digits = value radix digits := by
  induction depth generalizing digits with
  | zero => rfl
  | succ depth ih =>
    rw [valueByHalves, ih, ih, ← List.length_drop, ← value_append, List.take_append_drop]

@[simp] theorem valueOfLong_eq (radix : Nat) (digits : List Nat) :
    valueOfLong radix digits = value radix digits :=
  valueByHalves_eq radix _ digits

/-! ## Writing -/

/-- The numeral of a number on exactly `width` digits; higher digits are dropped. -/
def digits (radix : Nat) : Nat → Nat → List Nat
  | 0, _ => []
  | width + 1, n => digits radix width (n / radix) ++ [n % radix]

/-- The numeral of a number in front of other digits. -/
def digitsOnto (radix : Nat) : Nat → Nat → List Nat → List Nat
  | 0, _, rest => rest
  | width + 1, n, rest => digitsOnto radix width (n / radix) (n % radix :: rest)

/-- The numeral of a number in front of other digits, written by halves that are halved a given
number of times. -/
def digitsByHalves (radix : Nat) : Nat → Nat → Nat → List Nat → List Nat
  | 0, width, n, rest => digitsOnto radix width n rest
  | depth + 1, width, n, rest =>
    let back := width / 2
    let weight := Nat.pow radix back
    digitsByHalves radix depth (width - back) (n / weight)
      (digitsByHalves radix depth back (n % weight) rest)

/-- The numeral of a number on exactly `width` digits, written by halves until they are short. -/
def digitsOfLong (radix width n : Nat) : List Nat :=
  digitsByHalves radix (halvings width) width n []

@[simp] theorem length_digits (radix width n : Nat) : (digits radix width n).length = width := by
  induction width generalizing n with
  | zero => rfl
  | succ width ih => rw [digits, List.length_append, ih, List.length_singleton]

theorem digits_lt {radix width n : Nat} (h : 0 < radix) :
    ∀ digit ∈ digits radix width n, digit < radix := by
  induction width generalizing n with
  | zero =>
    intro digit member
    cases member
  | succ width ih =>
    intro digit member
    rw [digits, List.mem_append, List.mem_singleton] at member
    rcases member with member | rfl
    · exact ih digit member
    · exact Nat.mod_lt n h

/-- The digits in front are those of the quotient by the weight of the ones behind them. -/
theorem digits_add (radix front back n : Nat) :
    digits radix (front + back) n =
      digits radix front (n / Nat.pow radix back) ++
        digits radix back (n % Nat.pow radix back) := by
  induction back generalizing n with
  | zero =>
    rw [digits, List.append_nil, show Nat.pow radix 0 = 1 from rfl, Nat.div_one, Nat.add_zero]
  | succ back ih =>
    have weight : Nat.pow radix (back + 1) = radix * Nat.pow radix back := Nat.mul_comm _ _
    rw [← Nat.add_assoc, digits, ih, digits, weight, Nat.div_div_eq_div_mul,
      Nat.mod_mul_right_div_self, Nat.mod_mul_right_mod, List.append_assoc]

theorem digitsOnto_eq (radix width n : Nat) (rest : List Nat) :
    digitsOnto radix width n rest = digits radix width n ++ rest := by
  induction width generalizing n rest with
  | zero => rfl
  | succ width ih => rw [digitsOnto, ih, digits, List.append_assoc, List.singleton_append]

theorem digitsByHalves_eq (radix depth width n : Nat) (rest : List Nat) :
    digitsByHalves radix depth width n rest = digits radix width n ++ rest := by
  induction depth generalizing width n rest with
  | zero => exact digitsOnto_eq radix width n rest
  | succ depth ih =>
    have split : width - width / 2 + width / 2 = width := by omega
    rw [digitsByHalves, ih, ih, ← List.append_assoc, ← digits_add, split]

@[simp] theorem digitsOfLong_eq (radix width n : Nat) :
    digitsOfLong radix width n = digits radix width n := by
  rw [digitsOfLong, digitsByHalves_eq, List.append_nil]

/-- Reading what was written gives the number without the digits that were dropped. -/
theorem value_digits (radix width n : Nat) :
    value radix (digits radix width n) = n % Nat.pow radix width := by
  induction width generalizing n with
  | zero => exact (Nat.mod_one n).symm
  | succ width ih =>
    have weight : Nat.pow radix (width + 1) = radix * Nat.pow radix width := Nat.mul_comm _ _
    have last : value radix [n % radix] = n % radix := by
      rw [value, List.foldl_cons, List.foldl_nil, Nat.zero_mul, Nat.zero_add]
    rw [digits, value_append, ih, last, weight, Nat.mod_mul, Nat.add_comm, Nat.mul_comm radix]
    rw [List.length_singleton, show Nat.pow radix 1 = radix from Nat.one_mul radix]

end PgpCard.Numeral
