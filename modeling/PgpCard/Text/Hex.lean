import PgpCard.Bytes

/-!
# Hexadecimal text

* `Hex.encode` writes two lower-case digits for each byte.
* `Hex.decode?` reads digits of either case, an even number of them.
* `Hex.spaced` writes two upper-case digits for each byte with one blank between bytes.
-/

set_option autoImplicit false

namespace PgpCard.Hex

/-- The lower-case digit of a number below sixteen. -/
def digit (n : Nat) : Char :=
  if n < 10 then Char.ofNat (48 + n) else Char.ofNat (87 + n)

/-- The upper-case digit of a number below sixteen. -/
def upperDigit (n : Nat) : Char :=
  if n < 10 then Char.ofNat (48 + n) else Char.ofNat (55 + n)

/-- The value of a digit of either case. -/
def digit? (c : Char) : Option Nat :=
  let n := c.toNat
  if 48 ≤ n ∧ n ≤ 57 then some (n - 48)
  else if 65 ≤ n ∧ n ≤ 70 then some (n - 55)
  else if 97 ≤ n ∧ n ≤ 102 then some (n - 87)
  else none

/-- Two lower-case digits for each byte. -/
def encodeChars : Bytes → List Char
  | [] => []
  | b :: rest => digit (b.toNat / 16) :: digit (b.toNat % 16) :: encodeChars rest

/-- A byte string as lower-case hexadecimal text. -/
def encode (bytes : Bytes) : String :=
  String.ofList (encodeChars bytes)

/-- The bytes that a list of digits stands for, two digits a byte. -/
def decodeChars? : List Char → Option Bytes
  | [] => some []
  | [_] => none
  | high :: low :: rest =>
    match digit? high, digit? low, decodeChars? rest with
    | some h, some l, some bytes => some (UInt8.ofNat (16 * h + l) :: bytes)
    | _, _, _ => none

/-- The bytes that a hexadecimal text stands for. -/
def decode? (text : String) : Option Bytes :=
  decodeChars? text.toList

/-- The two upper-case digits of a byte. -/
def upperByte (b : UInt8) : String :=
  String.ofList [upperDigit (b.toNat / 16), upperDigit (b.toNat % 16)]

/-- Upper-case digits with one blank between bytes. -/
def spaced (bytes : Bytes) : String :=
  " ".intercalate (bytes.map upperByte)

end PgpCard.Hex
