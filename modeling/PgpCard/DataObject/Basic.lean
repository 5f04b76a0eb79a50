import PgpCard.Key.SlotId

/-!
# Data objects and their tags

A data object is named in a command by a tag of one or two bytes.

* `DataObject.tag` is the tag of an object, `DataObject.ofTag?` the object of a tag.
-/

set_option autoImplicit false

namespace PgpCard

/-- A data object that a host may ask for or write. -/
inductive DataObject
  | applicationId
  | historicalBytes
  /-- Name, language and sex of the cardholder together. -/
  | cardholder
  | name
  | language
  | sex
  | login
  | url
  /-- All that describes the application. -/
  | applicationData
  | capabilities
  | attributes (slot : SlotId)
  | passwordStatus
  /-- The fingerprints of all slots. -/
  | fingerprints
  /-- The fingerprints of all certifying keys. -/
  | caFingerprints
  /-- The generation times of all slots. -/
  | generationTimes
  | fingerprint (slot : SlotId)
  | caFingerprint (slot : SlotId)
  | generationTime (slot : SlotId)
  /-- The signature counter as an element. -/
  | securitySupport
  | signatureCounter
  | private1
  | private2
  | private3
  | private4
  | resettingCode
  | certificate
  deriving DecidableEq, Repr

namespace DataObject

/-- The tag of an object. -/
def tag : DataObject → Nat
  | applicationId => 0x4F
  | historicalBytes => 0x5F52
  | cardholder => 0x65
  | name => 0x5B
  | language => 0x5F2D
  | sex => 0x5F35
  | login => 0x5E
  | url => 0x5F50
  | applicationData => 0x6E
  | capabilities => 0xC0
  | attributes .signature => 0xC1
  | attributes .decryption => 0xC2
  | attributes .authentication => 0xC3
  | passwordStatus => 0xC4
  | fingerprints => 0xC5
  | caFingerprints => 0xC6
  | generationTimes => 0xCD
  | fingerprint .signature => 0xC7
  | fingerprint .decryption => 0xC8
  | fingerprint .authentication => 0xC9
  | caFingerprint .signature => 0xCA
  | caFingerprint .decryption => 0xCB
  | caFingerprint .authentication => 0xCC
  | generationTime .signature => 0xCE
  | generationTime .decryption => 0xCF
  | generationTime .authentication => 0xD0
  | securitySupport => 0x7A
  | signatureCounter => 0x93
  | private1 => 0x0101
  | private2 => 0x0102
  | private3 => 0x0103
  | private4 => 0x0104
  | resettingCode => 0xD3
  | certificate => 0x7F21

/-- The tag of the element that holds the discretionary objects of the application. -/
def discretionaryTag : Nat := 0x73

/-- Every object. -/
def all : List DataObject :=
  [applicationId, historicalBytes, cardholder, name, language, sex, login, url, applicationData,
    capabilities, passwordStatus, fingerprints, caFingerprints, generationTimes, securitySupport,
    signatureCounter, private1, private2, private3, private4, resettingCode, certificate]
  ++ SlotId.all.map attributes ++ SlotId.all.map fingerprint ++ SlotId.all.map caFingerprint
  ++ SlotId.all.map generationTime

/-- The object of a tag. -/
def ofTag? (tag : Nat) : Option DataObject :=
  all.find? (·.tag == tag)

theorem mem_all (object : DataObject) : object ∈ all := by
  cases object with
  | attributes slot | fingerprint slot | caFingerprint slot | generationTime slot =>
    cases slot <;> decide
  | _ => decide

/-- The tag of an object names that object and no other. -/
theorem ofTag?_tag (object : DataObject) : ofTag? object.tag = some object := by
  cases object with
  | attributes slot | fingerprint slot | caFingerprint slot | generationTime slot =>
    cases slot <;> decide
  | _ => decide

/-- An object found by a tag has that tag. -/
theorem tag_of_ofTag? {tag : Nat} {object : DataObject} (h : ofTag? tag = some object) :
    object.tag = tag := by
  have := List.find?_some h
  simpa using this

end DataObject

end PgpCard
