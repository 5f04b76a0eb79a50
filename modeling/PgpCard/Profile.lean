import PgpCard.Bytes

/-!
# The identity of the card

What a card tells about itself is fixed, apart from its serial number.
-/

set_option autoImplicit false

namespace PgpCard

/-- The identity of a card. -/
structure Profile where
  versionMajor : UInt8 := 2
  versionMinor : UInt8 := 0
  manufacturer : UInt16 := 0xFFFF
  serial : UInt32
  deriving DecidableEq, Repr

namespace Profile

/-- The serial number of a card that is given none. -/
def defaultSerial : UInt32 := 0x434D656C

/-- The identity with a serial number. -/
def withSerial (serial : UInt32) : Profile := { serial }

/-- The identity of a card that is given no serial number. -/
def default : Profile := withSerial defaultSerial

/-- The application identifier: registered provider, application, version, manufacturer, serial
number, and two bytes for future use. -/
def applicationId (profile : Profile) : Bytes :=
  [0xD2, 0x76, 0x00, 0x01, 0x24, 0x01, profile.versionMajor, profile.versionMinor]
    ++ Bytes.ofNat 2 profile.manufacturer.toNat ++ Bytes.ofNat 4 profile.serial.toNat
    ++ [0x00, 0x00]

/-- The historical bytes: category indicator, card service data, and capabilities, of which
command chaining is one. -/
def historicalBytes : Bytes :=
  [0x00, 0x73, 0x00, 0x00, 0x80] ++ List.replicate 10 0x00

/-- The extended capabilities: secure messaging, GET CHALLENGE, key import, changeable PW1 status
and private objects; then the greatest lengths of a challenge, of a certificate, of command data
and of response data. -/
def capabilities : Bytes :=
  [0xF8, 0x00, 0x00, 0xFF, 0x04, 0xC0, 0x00, 0xFF, 0x00, 0xFF]

end Profile

end PgpCard
