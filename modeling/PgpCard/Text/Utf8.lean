import PgpCard.Bytes

/-!
# UTF-8

* `Utf8.encodeChar` and `Utf8.encode` write characters as bytes.
* `Utf8.decode?` reads bytes as characters.  It refuses overlong forms, surrogates, numbers above
  the last code point, and sequences that are cut short.
-/

set_option autoImplicit false

namespace PgpCard.Utf8

/-- A byte that continues a sequence, with the six bits that it carries. -/
def continuation (n : Nat) : UInt8 := UInt8.ofNat (128 + n % 64)

/-- The bytes of a code point. -/
def encodePoint (n : Nat) : Bytes :=
  if n < 0x80 then [UInt8.ofNat n]
  else if n < 0x800 then [UInt8.ofNat (192 + n / 64), continuation n]
  else if n < 0x10000 then
    [UInt8.ofNat (224 + n / 4096), continuation (n / 64), continuation n]
  else
    [UInt8.ofNat (240 + n / 262144), continuation (n / 4096), continuation (n / 64),
      continuation n]

/-- The bytes of a character. -/
def encodeChar (c : Char) : Bytes := encodePoint c.toNat

/-- The bytes of some characters. -/
def encode (chars : List Char) : Bytes := chars.flatMap encodeChar

/-- The bytes of a text. -/
def ofString (text : String) : Bytes := encode text.toList

/-- The six bits that a continuation byte carries. -/
def bits? (b : UInt8) : Option Nat :=
  if 128 ≤ b.toNat ∧ b.toNat < 192 then some (b.toNat - 128) else none

/-- The character of a code point that is no surrogate and not below `least`. -/
def char? (least n : Nat) : Option Char :=
  if h : n.isValidChar then
    if least ≤ n then some (Char.ofNatAux n h) else none
  else none

/-- The characters that bytes stand for. -/
def decode? : Bytes → Option (List Char)
  | [] => some []
  | a :: rest =>
    let n := a.toNat
    if n < 0x80 then
      match char? 0 n, decode? rest with
      | some c, some cs => some (c :: cs)
      | _, _ => none
    else if n < 0xC0 then none
    else match rest with
      | [] => none
      | b :: rest =>
        match bits? b with
        | none => none
        | some x =>
          if n < 0xE0 then
            match char? 0x80 (64 * (n - 0xC0) + x), decode? rest with
            | some c, some cs => some (c :: cs)
            | _, _ => none
          else match rest with
            | [] => none
            | d :: rest =>
              match bits? d with
              | none => none
              | some y =>
                if n < 0xF0 then
                  match char? 0x800 (4096 * (n - 0xE0) + 64 * x + y), decode? rest with
                  | some c, some cs => some (c :: cs)
                  | _, _ => none
                else match rest with
                  | [] => none
                  | e :: rest =>
                    match bits? e with
                    | none => none
                    | some z =>
                      match char? 0x10000
                          (262144 * (n - 0xF0) + 4096 * x + 64 * y + z), decode? rest with
                      | some c, some cs => some (c :: cs)
                      | _, _ => none

/-- The text that bytes stand for. -/
def toString? (bytes : Bytes) : Option String :=
  (decode? bytes).map String.ofList

end PgpCard.Utf8
