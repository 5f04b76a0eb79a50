import PgpCard.Record.Codec
import PgpCard.Store.Table
import PgpCard.Store.Volume

/-!
# A store in a directory

All numbers are kept in one JSON file, and each byte string in a file of its own.  The numbers
are read once, when the store is opened, and kept in memory from then on.

A file is replaced in steps: a sibling is created, filled and flushed, and then moved over the
file.  Whichever step fails, the file has its old content or its new one.  The directory is
flushed last, so that the move itself lasts.

* `DirectoryStore.mount` prepares a directory and reads its numbers.
* `DirectoryStore.replaceFile` replaces a file.
-/

set_option autoImplicit false

namespace PgpCard

/-- A store in a directory of a volume. -/
structure DirectoryStore where
  directory : Path
  /-- The numbers, as the file has them. -/
  scalars : Table Nat
  volume : Volume

namespace DirectoryStore

/-- The name of the file with the numbers. -/
def scalarsName : String := "scalars.json"

/-- The numbers as a document. -/
def scalarsJson (scalars : Table Nat) : Json :=
  .object (scalars.entries.map fun (key, value) =>
    (Json.quote (Utf8.ofString key), .natural value))

/-- The numbers that the members of an object give, later ones in place of earlier ones. -/
def scalarsOfMembers? : List (Bytes × Json) → Table Nat → Option (Table Nat)
  | [], scalars => some scalars
  | (raw, value) :: members, scalars =>
    match (Json.unquote? raw).bind Utf8.toString?, Json.below? UInt64.size (some value) with
    | some key, some value => scalarsOfMembers? members (scalars.insert key value)
    | _, _ => none

/-- The numbers that a text holds. -/
def scalarsOfText? (text : Bytes) : Option (Table Nat) :=
  match Json.parse? text with
  | some (.object members) => scalarsOfMembers? members .empty
  | _ => none

/-- The path of a file of the store. -/
def path (directory : Path) (name : String) : Path := Path.resolve directory name

/-- The failure at a path, as the store reports it. -/
def failureAt (directory path : Path) : StoreError :=
  .medium (if directory.isPrefixOf path then path.drop directory.length else path)

/-- Prepares a directory, which only its owner may use, and reads the numbers in it.  That the
permissions cannot be changed is no failure. -/
def mount (directory : Path) : Attempt StoreError Volume (Table Nat) := do
  (Volume.makeDirectory directory).mapError fun _ => failureAt directory directory
  (Volume.setMode directory Volume.privateMode).ignored
  let volume ← get
  let file := path directory scalarsName
  if volume.has file then
    match volume.read file with
    | .error _ => throw (failureAt directory file)
    | .ok text =>
      match scalarsOfText? text with
      | none => throw (.corrupt scalarsName .malformed)
      | some scalars => return scalars
  else
    return .empty

/-- Opens a store in a directory. -/
def openAt (directory : Path) (volume : Volume) : Except StoreError DirectoryStore × Volume :=
  match mount directory volume with
  | .ok scalars volume => (.ok { directory, scalars, volume }, volume)
  | .error e volume => (.error e, volume)

/-- Runs a volume operation; a failure is reported at a path. -/
def onVolume {α : Type} (place : Path) (act : Attempt VolumeError Volume α) :
    Attempt StoreError DirectoryStore α := fun store =>
  match act store.volume with
  | .ok a volume => .ok a { store with volume }
  | .error _ volume => .error (failureAt store.directory place) { store with volume }

/-- Fills a sibling of a file and moves it over the file. -/
def writeAndMove (sibling file : Path) (data : Bytes) : Attempt StoreError DirectoryStore Unit := do
  onVolume sibling (Volume.create sibling)
  onVolume sibling (Volume.fill sibling data)
  onVolume sibling Volume.flush
  onVolume file (Volume.move sibling file)

/-- Replaces a file.  After a failure the sibling is removed if that is possible.  That the
directory cannot be flushed is no failure. -/
def replaceFile (file : Path) (data : Bytes) : Attempt StoreError DirectoryStore Unit := do
  let sibling := Path.withEnding "tmp" file
  match ← (writeAndMove sibling file data).outcome with
  | .ok () => (onVolume (← get).directory Volume.flush).ignored
  | .error e =>
    (onVolume sibling (Volume.remove sibling)).ignored
    throw e

/-- The name of the file with a byte string. -/
def blobFileName (name : String) : String := name ++ ".bin"

/-- The path of a byte string. -/
def blobPath (directory : Path) (name : String) : Path := path directory (blobFileName name)

/-- The number under a key, if it fits in some bits. -/
def scalar? (store : DirectoryStore) (key : String) (bits : Nat) :
    Except StoreError (Option Nat) :=
  match store.scalars.find? key with
  | none => .ok none
  | some value => if value >>> bits = 0 then .ok (some value) else .error (.width key value bits)

/-- Reads a number of some bits. -/
def readScalar (key : String) (bits : Nat) : Attempt StoreError DirectoryStore (Option Nat) :=
  fun store =>
    match store.scalar? key bits with
    | .ok value => .ok value store
    | .error e => .error e store

/-- Writes a number; if the file cannot be replaced, memory keeps what the file has. -/
def writeScalar (key : String) (value : Nat) : Attempt StoreError DirectoryStore Unit :=
  fun store =>
    let scalars := store.scalars.insert key value
    let text := Json.print (scalarsJson scalars)
    match replaceFile (path store.directory scalarsName) text { store with scalars } with
    | .ok () written => .ok () written
    | .error e failed => .error e { failed with scalars := store.scalars }

/-- Reads a byte string. -/
def readBlob (name : String) : Attempt StoreError DirectoryStore (Option Bytes) := fun store =>
  let file := blobPath store.directory name
  match store.volume.read file with
  | .ok data => .ok (some data) store
  | .error .notFound => .ok none store
  | .error _ => .error (failureAt store.directory file) store

/-- Writes a byte string. -/
def writeBlob (name : String) (data : Bytes) : Attempt StoreError DirectoryStore Unit :=
  fun store => replaceFile (blobPath store.directory name) data store

instance : Backend DirectoryStore where
  readByte key := return (← readScalar key 8).map UInt8.ofNat
  writeByte key value := writeScalar key value.toNat
  readWord key := return (← readScalar key 16).map UInt16.ofNat
  writeWord key value := writeScalar key value.toNat
  readBlob := readBlob
  writeBlob := writeBlob

end DirectoryStore

end PgpCard
