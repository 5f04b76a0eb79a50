import PgpCard.Digest.Blocks

/-!
# SHA-1

`Digest.sha1` is the 20-byte digest of a message.
-/

set_option autoImplicit false

namespace PgpCard.Digest.Sha1

/-- The five words of the chaining state. -/
structure State where
  a : UInt32
  b : UInt32
  c : UInt32
  d : UInt32
  e : UInt32
  deriving DecidableEq, Repr

/-- The state before the first block. -/
def initial : State where
  a := 0x67452301
  b := 0xefcdab89
  c := 0x98badcfe
  d := 0x10325476
  e := 0xc3d2e1f0

/-- The next `count` words of the schedule, given the sixteen words before them. -/
def schedule : Nat → List UInt32 → List UInt32
  | 0, _ => []
  | count + 1, window =>
    match window with
    | w0 :: w1 :: w2 :: w3 :: w4 :: w5 :: w6 :: w7 :: w8 :: w9 :: w10 :: w11 :: w12 :: w13 :: w14
        :: w15 :: _ =>
      let next := rotateLeft (w13 ^^^ w8 ^^^ w2 ^^^ w0) 1
      w0 :: schedule count
        [w1, w2, w3, w4, w5, w6, w7, w8, w9, w10, w11, w12, w13, w14, w15, next]
    | _ => []

/-- The mixing function and the constant of a round. -/
def mix (index : Nat) (s : State) : UInt32 × UInt32 :=
  if index < 20 then ((s.b &&& s.c) ||| (~~~ s.b &&& s.d), 0x5a827999)
  else if index < 40 then (s.b ^^^ s.c ^^^ s.d, 0x6ed9eba1)
  else if index < 60 then
    ((s.b &&& s.c) ||| (s.b &&& s.d) ||| (s.c &&& s.d), 0x8f1bbcdc)
  else (s.b ^^^ s.c ^^^ s.d, 0xca62c1d6)

/-- One round with its schedule word and its index. -/
def round (s : State) (input : UInt32 × Nat) : State :=
  let (f, constant) := mix input.2 s
  { a := rotateLeft s.a 5 + f + s.e + constant + input.1
    b := s.a, c := rotateLeft s.b 30, d := s.c, e := s.d }

/-- The state after one more block. -/
def compress (s : State) (block : List UInt32) : State :=
  let t := (schedule 80 block).zipIdx.foldl round s
  { a := s.a + t.a, b := s.b + t.b, c := s.c + t.c, d := s.d + t.d, e := s.e + t.e }

/-- The words of a state. -/
def State.words (s : State) : List UInt32 := [s.a, s.b, s.c, s.d, s.e]

end Sha1

/-- The 20-byte digest of a message. -/
def sha1 (message : Bytes) : Bytes :=
  ofWords ((blocks message).foldl Sha1.compress Sha1.initial).words

@[simp] theorem length_sha1 (message : Bytes) : (sha1 message).length = 20 := by
  simp [sha1, Sha1.State.words]

end PgpCard.Digest
