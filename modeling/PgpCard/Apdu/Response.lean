import PgpCard.Bytes
import PgpCard.Apdu.StatusWord

/-!
# Response frames

A response is data followed by a status word.  One frame carries at most `Response.capacity`
data bytes.
-/

set_option autoImplicit false

namespace PgpCard

/-- Data and the status word that ends it. -/
structure Response where
  data : Bytes
  status : StatusWord
  deriving DecidableEq, Repr

namespace Response

/-- The most data bytes that one frame carries. -/
def capacity : Nat := 255

/-- Data reported as complete. -/
def success (data : Bytes) : Response := ⟨data, .success⟩

/-- Success without data. -/
def ok : Response := success []

/-- A status word without data. -/
def error (status : StatusWord) : Response := ⟨[], status⟩

/-- Data of which more follows; `next` bytes come with the next frame. -/
def moreData (data : Bytes) (next : UInt8) : Response := ⟨data, .moreData next⟩

/-- The response reports success. -/
def isOkay (response : Response) : Bool := response.status.isSuccess

/-- How many bytes the next frame brings, if the response announces one. -/
def available? (response : Response) : Option UInt8 :=
  if response.status.high = 0x61 then some response.status.low else none

/-- The frame sent: at most `capacity` data bytes, then the status word. -/
def toFrame (response : Response) : Bytes :=
  response.data.take capacity ++ [response.status.high, response.status.low]

end Response

end PgpCard
