import PgpCard.Digest.Sha256
import PgpCard.Rsa.Generate

/-!
# What a command draws from the world

Random bytes, a new key and the time do not depend on the card.  A command is given them as
values, so that the same values give the same answer.
-/

set_option autoImplicit false

namespace PgpCard

/-- The outside of the card during one command. -/
structure Environment where
  /-- An endless supply of random bytes. -/
  random : Nat → UInt8
  /-- The key that the generator returns if it is asked. -/
  newKey : Unit → Except Rsa.Error Rsa.PrivateKey
  /-- Seconds since the beginning of 1970. -/
  now : UInt32

namespace Environment

/-- Some random bytes. -/
def draw (env : Environment) (count : Nat) : Bytes :=
  (List.range count).map env.random

/-- The environment in which keys come from the supply of random bytes. -/
def ofRandom (random : Nat → UInt8) (now : UInt32) : Environment where
  random := random
  newKey := fun _ => Rsa.PrivateKey.generate random
  now := now

/-- The byte at a position of the endless supply that a seed stands for: the digests of the seed
behind running numbers, one after another. -/
def expand (seed : Bytes) (position : Nat) : UInt8 :=
  (Digest.sha256 (Bytes.ofNat 8 (position / 32) ++ seed)).getD (position % 32) 0

/-- The environment whose random bytes a seed stands for. -/
def ofSeed (seed : Bytes) (now : UInt32) : Environment := ofRandom (expand seed) now

end Environment

end PgpCard
