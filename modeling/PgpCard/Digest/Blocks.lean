import PgpCard.Bytes

/-!
# Messages cut into blocks of words

SHA-1 and SHA-256 read a message as blocks of sixteen 32-bit words.  The message is first
padded with one bit, zero bits and its own length in bits, so that whole blocks result.

* `Digest.blocks` are the padded blocks of a message.
* `Digest.ofWords` writes words as bytes.
-/

set_option autoImplicit false

namespace PgpCard.Digest

/-- How many zero bytes stand between the padding's first byte and the length. -/
def zeroCount (length : Nat) : Nat :=
  (119 - length % 64) % 64

/-- The message with its padding: a set bit, zero bits, and the length in bits on eight bytes. -/
def padded (message : Bytes) : Bytes :=
  message ++ 0x80 :: List.replicate (zeroCount message.length) 0
    ++ Bytes.ofNat 8 (8 * message.length)

/-- The word that four bytes denote. -/
def word (a b c d : UInt8) : UInt32 :=
  (a.toUInt32 <<< 24) ||| (b.toUInt32 <<< 16) ||| (c.toUInt32 <<< 8) ||| d.toUInt32

/-- Bytes read as words; bytes that fill no word are dropped. -/
def toWords : Bytes → List UInt32
  | a :: b :: c :: d :: rest => word a b c d :: toWords rest
  | _ => []

/-- The four bytes of a word. -/
def wordBytes (w : UInt32) : Bytes :=
  [(w >>> 24).toUInt8, (w >>> 16).toUInt8, (w >>> 8).toUInt8, w.toUInt8]

/-- Words written as bytes. -/
def ofWords (words : List UInt32) : Bytes :=
  words.flatMap wordBytes

/-- At most `fuel` blocks of sixteen words. -/
def chop : Nat → List UInt32 → List (List UInt32)
  | 0, _ => []
  | fuel + 1, words => words.take 16 :: chop fuel (words.drop 16)

/-- The blocks of a message. -/
def blocks (message : Bytes) : List (List UInt32) :=
  let words := toWords (padded message)
  chop (words.length / 16) words

/-- The word turned left by `count` bits. -/
def rotateLeft (w : UInt32) (count : UInt32) : UInt32 :=
  (w <<< count) ||| (w >>> (32 - count))

/-- The word turned right by `count` bits. -/
def rotateRight (w : UInt32) (count : UInt32) : UInt32 :=
  (w >>> count) ||| (w <<< (32 - count))

/-! ## Lengths -/

/-- The padded message fills whole blocks of sixty-four bytes. -/
theorem length_padded_mod (message : Bytes) : (padded message).length % 64 = 0 := by
  simp only [padded, zeroCount, List.length_append, List.length_cons, List.length_replicate,
    Bytes.length_ofNat]
  omega

@[simp] theorem length_ofWords (words : List UInt32) :
    (ofWords words).length = 4 * words.length := by
  induction words with
  | nil => rfl
  | cons w words ih =>
    simp only [ofWords, List.flatMap_cons, List.length_append, List.length_cons] at ih ⊢
    simp only [wordBytes, List.length_cons, List.length_nil]
    omega

end PgpCard.Digest
