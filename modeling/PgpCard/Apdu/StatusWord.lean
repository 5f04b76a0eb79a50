/-!
# Status words

Every response ends in a two-byte status word.  `9000` and the words `61XX` report success;
in `61XX` the low byte tells how many bytes the next GET RESPONSE delivers.
-/

set_option autoImplicit false

namespace PgpCard

/-- The two bytes that end every response. -/
abbrev StatusWord := UInt16

namespace StatusWord

def success : StatusWord := 0x9000
def stateUnchanged : StatusWord := 0x6200
def wrongLength : StatusWord := 0x6700
def securityStatusNotSatisfied : StatusWord := 0x6982
def authenticationBlocked : StatusWord := 0x6983
def dataInvalid : StatusWord := 0x6984
def conditionsNotSatisfied : StatusWord := 0x6985
def wrongData : StatusWord := 0x6A80
def recordNotFound : StatusWord := 0x6A83
def incorrectP1P2 : StatusWord := 0x6A86
def referencedDataNotFound : StatusWord := 0x6A88
def wrongP1P2 : StatusWord := 0x6B00
def instructionNotSupported : StatusWord := 0x6D00
def unknown : StatusWord := 0x6F00

/-- The word saying that `next` more bytes can be fetched. -/
def moreData (next : UInt8) : StatusWord :=
  0x6100 ||| next.toUInt16

/-- The word announces more bytes. -/
def isMoreData (sw : StatusWord) : Bool :=
  sw &&& 0xFF00 == 0x6100

/-- The word reports success, with or without more bytes to fetch. -/
def isSuccess (sw : StatusWord) : Bool :=
  sw == success || isMoreData sw

/-- The first byte sent. -/
def high (sw : StatusWord) : UInt8 :=
  (sw >>> 8).toUInt8

/-- The second byte sent. -/
def low (sw : StatusWord) : UInt8 :=
  sw.toUInt8

end StatusWord

end PgpCard
