import PgpCard.Apdu.Response

/-!
# Responses longer than one frame

A response that does not fit in one frame is handed out frame by frame.  Each frame but the
last tells how many bytes the next one brings.
-/

set_option autoImplicit false

namespace PgpCard

/-- The part of a response that has not been sent. -/
structure Outgoing where
  unsent : Bytes := []
  deriving DecidableEq, Repr

namespace Outgoing

/-- Nothing to send. -/
def empty : Outgoing := {}

/-- How many bytes wait for GET RESPONSE. -/
def pending (outgoing : Outgoing) : Nat := outgoing.unsent.length

/-- The next frame, and what is left after it. -/
def next (outgoing : Outgoing) : Response × Outgoing :=
  let frame := outgoing.unsent.take Response.capacity
  let rest := outgoing.unsent.drop Response.capacity
  if rest.isEmpty then (.success frame, empty)
  else (.moreData frame (UInt8.ofNat (min rest.length Response.capacity)), ⟨rest⟩)

/-- The first frame of a whole response, and what is left after it. -/
def send (data : Bytes) : Response × Outgoing := next ⟨data⟩

end Outgoing

end PgpCard
