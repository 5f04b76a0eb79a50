import PgpCard.Bytes

/-!
# Base64

Three bytes are written as four symbols of the standard alphabet; a last group of one or two
bytes is filled up with `=`.

* `Base64.encode` writes bytes as symbols.
* `Base64.decode?` reads exactly what `encode` writes: groups must be whole, `=` stands only in
  the last one, and bits that belong to no byte are zero.
-/

set_option autoImplicit false

namespace PgpCard.Base64

/-- The byte `=`. -/
def filler : UInt8 := 61

/-- The symbol of a number below sixty-four. -/
def symbol (n : Nat) : UInt8 :=
  if n < 26 then UInt8.ofNat (65 + n)
  else if n < 52 then UInt8.ofNat (71 + n)
  else if n < 62 then UInt8.ofNat (n - 4)
  else if n = 62 then 43
  else 47

/-- The number that a symbol stands for. -/
def value? (s : UInt8) : Option Nat :=
  let n := s.toNat
  if 65 ≤ n ∧ n ≤ 90 then some (n - 65)
  else if 97 ≤ n ∧ n ≤ 122 then some (n - 71)
  else if 48 ≤ n ∧ n ≤ 57 then some (n + 4)
  else if n = 43 then some 62
  else if n = 47 then some 63
  else none

/-- Bytes as symbols. -/
def encode : Bytes → Bytes
  | [] => []
  | [a] =>
    let n := 16 * a.toNat
    [symbol (n / 64), symbol (n % 64), filler, filler]
  | [a, b] =>
    let n := 4 * (256 * a.toNat + b.toNat)
    [symbol (n / 4096), symbol (n / 64 % 64), symbol (n % 64), filler]
  | a :: b :: c :: rest =>
    let n := 65536 * a.toNat + 256 * b.toNat + c.toNat
    symbol (n / 262144) :: symbol (n / 4096 % 64) :: symbol (n / 64 % 64) :: symbol (n % 64)
      :: encode rest

/-- The byte of a last group of two symbols. -/
def lastOne? (s t : UInt8) : Option Bytes :=
  match value? s, value? t with
  | some x, some y => if y % 16 = 0 then some [UInt8.ofNat (4 * x + y / 16)] else none
  | _, _ => none

/-- The bytes of a last group of three symbols. -/
def lastTwo? (s t u : UInt8) : Option Bytes :=
  match value? s, value? t, value? u with
  | some x, some y, some z =>
    if z % 4 = 0 then
      some [UInt8.ofNat (4 * x + y / 16), UInt8.ofNat (16 * (y % 16) + z / 4)]
    else none
  | _, _, _ => none

/-- The bytes of a group of four symbols. -/
def three? (s t u v : UInt8) : Option Bytes :=
  match value? s, value? t, value? u, value? v with
  | some x, some y, some z, some w =>
    some [UInt8.ofNat (4 * x + y / 16), UInt8.ofNat (16 * (y % 16) + z / 4),
      UInt8.ofNat (64 * (z % 4) + w)]
  | _, _, _, _ => none

/-- The bytes that symbols stand for. -/
def decode? : Bytes → Option Bytes
  | [] => some []
  | [s, t, u, v] =>
    if v = filler then
      if u = filler then lastOne? s t else lastTwo? s t u
    else three? s t u v
  | s :: t :: u :: v :: rest =>
    match three? s t u v, decode? rest with
    | some group, some bytes => some (group ++ bytes)
    | _, _ => none
  | _ => none

end PgpCard.Base64
