import PgpCard.CardError
import PgpCard.DataObject.Basic
import PgpCard.Record.DataObjects
import PgpCard.Store.Records
import PgpCard.Tlv.Encode

/-!
# Stored data objects

Some data objects are kept as they were written, all of them in one record.

* `DataObjects.value?` is the value of a stored object, `DataObjects.withValue?` the record with
  a new one.
* `DataObjects.put` writes an object, to the store first and then in memory.
-/

set_option autoImplicit false

namespace PgpCard.DataObjects

/-- The value of an object that is kept as it was written. -/
def value? (objects : DataObjects) : DataObject → Option Bytes
  | .name => some objects.name
  | .language => some objects.language
  | .sex => some [objects.sex]
  | .login => some objects.login
  | .url => some objects.url
  | .certificate => some objects.certificate
  | .private1 => some objects.private1
  | .private2 => some objects.private2
  | .private3 => some objects.private3
  | .private4 => some objects.private4
  | _ => none

/-- The objects with a new value for one of them; the sex takes one byte. -/
def withValue? (objects : DataObjects) (object : DataObject) (value : Bytes) :
    Option DataObjects :=
  match object with
  | .name => some { objects with name := value }
  | .language => some { objects with language := value }
  | .sex =>
    match value with
    | [sex] => some { objects with sex }
    | _ => none
  | .login => some { objects with login := value }
  | .url => some { objects with url := value }
  | .certificate => some { objects with certificate := value }
  | .private1 => some { objects with private1 := value }
  | .private2 => some { objects with private2 := value }
  | .private3 => some { objects with private3 := value }
  | .private4 => some { objects with private4 := value }
  | _ => none

/-- The object is kept as it was written. -/
def isStored (object : DataObject) : Bool := (value? {} object).isSome

/-- The object that a tag names is kept as it was written. -/
def holdsTag (tag : Nat) : Bool := (DataObject.ofTag? tag).any isStored

/-- The value of the object that a tag names. -/
def valueOfTag? (objects : DataObjects) (tag : Nat) : Option Bytes :=
  (DataObject.ofTag? tag).bind objects.value?

/-- Name, language and sex of the cardholder as elements one after another. -/
def cardholderData (objects : DataObjects) : Bytes :=
  (((TlvBuilder.empty.add DataObject.name.tag objects.name).add
    DataObject.language.tag objects.language).add DataObject.sex.tag [objects.sex]).bytes

/-- The name of the record in the store. -/
def recordName : String := "data_objects"

variable {σ : Type} [Backend σ]

/-- Clears every object. -/
def makeFactory : Attempt StoreError (Kept DataObjects σ) Unit := do
  Kept.adjust fun _ => {}
  Kept.onStore (Store.saveRecord recordName ({} : DataObjects))

/-- The objects as the store has them. -/
def load : Attempt StoreError σ DataObjects := Store.requireRecord recordName

/-- Writes a stored object. -/
def put (object : DataObject) (value : Bytes) :
    Attempt CardError (Kept DataObjects σ) Unit := do
  match (← Kept.held).withValue? object value with
  | none => throw .recordNotFound
  | some objects =>
    (Kept.onStore (Store.saveRecord recordName objects)).mapError .storage
    Kept.adjust fun _ => objects

/-- Writes the stored object that a tag names. -/
def putTag (tag : Nat) (value : Bytes) : Attempt CardError (Kept DataObjects σ) Unit := do
  match DataObject.ofTag? tag with
  | none => throw .recordNotFound
  | some object => put object value

end PgpCard.DataObjects
