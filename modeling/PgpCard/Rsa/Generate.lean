import PgpCard.Rsa.Key

/-!
# Generating keys

A key is generated from an endless supply of random bytes.  Candidates for a factor are odd
numbers of half the key size with their two highest bits set, so that the product of two has
the full size.

* `isProbablePrime` tests whether a number is a strong probable prime to fixed bases.
* `PrivateKey.generate` searches two factors and makes their key.
-/

set_option autoImplicit false

namespace PgpCard.Rsa

/-- The public exponent of generated keys. -/
def generatedExponent : Nat := 65537

/-- The bases of the primality test. -/
def bases : List Nat :=
  [2, 3, 5, 7, 11, 13, 17, 19, 23, 29, 31, 37, 41, 43, 47, 53, 59, 61, 67, 71]

/-- A number with many small factors; a candidate that shares one is not tried further. -/
def sieve : Nat :=
  (List.range 1024).foldl (fun acc i => acc * (2 * i + 3)) 1

/-- One of the next `count` squarings of `x` gives `n - 1`. -/
def reachesMinusOne (n : Nat) : Nat → Nat → Bool
  | 0, _ => false
  | count + 1, x => x == n - 1 || reachesMinusOne n count (x * x % n)

/-- The number of times that two divides a number, at most `fuel`, and the odd rest. -/
def splitTwos : Nat → Nat → Nat × Nat
  | 0, n => (0, n)
  | fuel + 1, n =>
    if n % 2 = 0 then
      let (twos, rest) := splitTwos fuel (n / 2)
      (twos + 1, rest)
    else (0, n)

/-- No base shows that the odd number is composite. -/
def isProbablePrime (n : Nat) : Bool :=
  let (twos, rest) := splitTwos (bitLength n) (n - 1)
  bases.all fun base =>
    let x := powMod base rest n
    x == 1 || reachesMinusOne n twos x

/-- The candidate that the random bytes from `position` on give. -/
def candidate (random : Nat → UInt8) (position : Nat) : Nat :=
  let width := keyBytes / 2
  let drawn := Bytes.toNat ((List.range width).map fun i => random (position + i))
  drawn ||| (3 <<< (8 * width - 2)) ||| 1

/-- The candidate can be a factor of a generated key. -/
def isFactor (n : Nat) : Bool :=
  Nat.gcd n sieve == 1 && Nat.gcd (n - 1) generatedExponent == 1 && isProbablePrime n

/-- The first factor among the next `fuel` candidates, and the position after it. -/
def findFactor (random : Nat → UInt8) : Nat → Nat → Option (Nat × Nat)
  | 0, _ => none
  | fuel + 1, position =>
    let n := candidate random position
    let after := position + keyBytes / 2
    if isFactor n then some (n, after) else findFactor random fuel after

/-- How many candidates are tried for one factor. -/
def maxCandidates : Nat := 100000

/-- A new key from random bytes. -/
def PrivateKey.generate (random : Nat → UInt8) : Except Error PrivateKey :=
  match findFactor random maxCandidates 0 with
  | none => .error (.keyGenerationFailed .primeNotFound)
  | some (p, position) =>
    match findFactor random maxCandidates position with
    | none => .error (.keyGenerationFailed .primeNotFound)
    | some (q, _) => ofFactors? generatedExponent p q

end PgpCard.Rsa
