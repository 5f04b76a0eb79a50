import PgpCard.Proofs.Store.Filing
import PgpCard.Store.Memory

/-!
# Conversations with a store

A client asks a store for numbers and byte strings, and now and then the store is opened again.

* `Contents`    : the map that a client believes in;
* `Permits`     : the answers that such a map gives in one turn, with what failures may do to it;
* `Conforms`    : a whole conversation of such answers;
* `MemoryStore.keeps_turn` : a store in memory gives the answers of a map.
-/

set_option autoImplicit false

namespace PgpCard

open Attempt

/-! ## Conversations -/

/-- What a client asks of a store. -/
inductive Request
  | readByte (key : String)
  | writeByte (key : String) (value : UInt8)
  | readWord (key : String)
  | writeWord (key : String) (value : UInt16)
  | readBlob (name : String)
  | writeBlob (name : String) (data : Bytes)
  deriving DecidableEq, Repr

/-- What a store replies. -/
inductive Reply
  | byte (value : Option UInt8)
  | word (value : Option UInt16)
  | blob (data : Option Bytes)
  | written
  | opened
  deriving DecidableEq, Repr

/-- A reply or a failure. -/
abbrev Answer := Except StoreError Reply

instance : DecidableEq Answer
  | .ok a, .ok b => decidable_of_iff (a = b) (by rw [Except.ok.injEq])
  | .error a, .error b => decidable_of_iff (a = b) (by rw [Except.error.injEq])
  | .ok _, .error _ => isFalse nofun
  | .error _, .ok _ => isFalse nofun

/-- What happens next: the client asks, or the store is opened again. -/
inductive Turn
  | ask (request : Request)
  | reopen
  deriving DecidableEq, Repr

namespace Request

/-- The request changes what the store keeps. -/
def writes : Request → Bool
  | readByte _ | readWord _ | readBlob _ => false
  | writeByte .. | writeWord .. | writeBlob .. => true

/-- The key or name that the request is about. -/
def name : Request → String
  | readByte name | writeByte name _ | readWord name | writeWord name _ | readBlob name
  | writeBlob name _ => name

/-- Puts the request to a store. -/
def perform {σ : Type} [Backend σ] : Request → Attempt StoreError σ Reply
  | readByte key => return .byte (← Backend.readByte key)
  | writeByte key value => do Backend.writeByte key value; return .written
  | readWord key => return .word (← Backend.readWord key)
  | writeWord key value => do Backend.writeWord key value; return .written
  | readBlob name => return .blob (← Backend.readBlob name)
  | writeBlob name data => do Backend.writeBlob name data; return .written

end Request

/-- Keys and names are made of letters, digits and underscores. -/
def Turn.IsNamed : Turn → Prop
  | .ask request => IsWord request.name
  | .reopen => True

instance : (turn : Turn) → Decidable turn.IsNamed
  | .ask request => inferInstanceAs (Decidable (IsWord request.name))
  | .reopen => inferInstanceAs (Decidable True)

/-- The answers in a conversation, and where it ends. -/
def converse {σ α : Type} (turn : Turn → σ → α × σ) : List Turn → σ → List α × σ
  | [], store => ([], store)
  | next :: turns, store =>
    let (answer, after) := turn next store
    let (answers, last) := converse turn turns after
    (answer :: answers, last)

namespace DirectoryStore

/-- One turn.  There is no answer from a machine that has stopped; opening the store again starts
the machine. -/
def turn : Turn → DirectoryStore → Option Answer × DirectoryStore
  | .ask request, store =>
    if store.volume.running then
      let (answer, after) := request.perform.ending store
      (if after.volume.running then some answer else none, after)
    else (none, store)
  | .reopen, store =>
    match openAt store.directory store.volume.restart with
    | (.ok opened, _) => (if opened.volume.running then some (.ok .opened) else none, opened)
    | (.error e, volume) => (some (.error e), { store with volume })

end DirectoryStore

namespace MemoryStore

/-- One turn.  A store in memory stays open. -/
def turn : Turn → MemoryStore → Answer × MemoryStore
  | .ask request, store => request.perform.ending store
  | .reopen, store => (.ok .opened, store)

end MemoryStore

/-! ## Files that can be used -/

namespace DirectoryStore

open Volume

/-- A file that can be replaced: its name can be used and that of its sibling. -/
def HasRoom (directory : Path) (file : String) : Prop :=
  Takes (directory ++ [Path.rename "tmp" file]) ∧ Takes (directory ++ [file])

instance (directory : Path) (file : String) : Decidable (HasRoom directory file) :=
  inferInstanceAs (Decidable (_ ∧ _))

end DirectoryStore

section Room

open DirectoryStore

/-- The files of a request can be used. -/
def Request.HasRoom (directory : Path) : Request → Prop
  | .readByte _ | .readWord _ => True
  | .writeByte .. | .writeWord .. => DirectoryStore.HasRoom directory scalarsName
  | .readBlob name | .writeBlob name _ => DirectoryStore.HasRoom directory (blobFileName name)

instance (directory : Path) : (request : Request) → Decidable (request.HasRoom directory)
  | .readByte _ | .readWord _ => inferInstanceAs (Decidable True)
  | .writeByte .. | .writeWord .. =>
    inferInstanceAs (Decidable (DirectoryStore.HasRoom directory scalarsName))
  | .readBlob name | .writeBlob name _ =>
    inferInstanceAs (Decidable (DirectoryStore.HasRoom directory (blobFileName name)))

/-- The files of a turn can be used. -/
def Turn.HasRoom (directory : Path) : Turn → Prop
  | .ask request => request.HasRoom directory
  | .reopen => True

instance (directory : Path) : (turn : Turn) → Decidable (turn.HasRoom directory)
  | .ask request => inferInstanceAs (Decidable (request.HasRoom directory))
  | .reopen => inferInstanceAs (Decidable True)

end Room

/-! ## The map -/

/-- What was written under each key and name. -/
structure Contents where
  scalars : String → Option UInt16
  blobs : String → Option Bytes

namespace Contents

/-- Nothing was written. -/
def empty : Contents := ⟨fun _ => none, fun _ => none⟩

/-- The map after a request that was carried out. -/
def write (contents : Contents) : Request → Contents
  | .writeByte key value =>
    { contents with
      scalars := fun k => if k = key then some value.toUInt16 else contents.scalars k }
  | .writeWord key value =>
    { contents with scalars := fun k => if k = key then some value else contents.scalars k }
  | .writeBlob name data =>
    { contents with blobs := fun n => if n = name then some data else contents.blobs n }
  | .readByte _ | .readWord _ | .readBlob _ => contents

open Volume DirectoryStore in
/-- The answer to a request that is carried out.  A number above a byte cannot be read as one, and
to ask for a byte string whose file cannot be named on the volume is a failure. -/
def tell (contents : Contents) (directory : Path) : Request → Answer
  | .readByte key =>
    match contents.scalars key with
    | none => .ok (.byte none)
    | some value =>
      if value.toNat < 256 then .ok (.byte (some value.toUInt8))
      else .error (.width key value.toNat 8)
  | .readWord key => .ok (.word (contents.scalars key))
  | .readBlob name =>
    if Takes (directory ++ [blobFileName name]) then .ok (.blob (contents.blobs name))
    else .error (.medium [blobFileName name])
  | .writeByte .. | .writeWord .. | .writeBlob .. => .ok .written

end Contents

/-- A map and whether the machine that keeps it is running. -/
structure View where
  contents : Contents
  running : Bool

/-- The answers that a map gives, and what becomes of it. -/
inductive Permits (directory : Path) : View → Turn → Option Answer → View → Prop
  /-- A machine that has stopped does nothing. -/
  | silent {contents : Contents} {request : Request} :
    Permits directory ⟨contents, false⟩ (.ask request) none ⟨contents, false⟩
  /-- What is read is what was written last. -/
  | told {contents : Contents} {request : Request} (reads : request.writes = false) :
    Permits directory ⟨contents, true⟩ (.ask request) (some (contents.tell directory request))
      ⟨contents, true⟩
  /-- A write that ends well takes effect.  There is none to a file that cannot be used. -/
  | written {contents : Contents} {request : Request} (writes : request.writes = true)
    (room : request.HasRoom directory) :
    Permits directory ⟨contents, true⟩ (.ask request) (some (.ok .written))
      ⟨contents.write request, true⟩
  /-- A write that fails changes nothing. -/
  | failed {contents : Contents} {request : Request} {e : StoreError}
    (writes : request.writes = true) :
    Permits directory ⟨contents, true⟩ (.ask request) (some (.error e)) ⟨contents, true⟩
  /-- A write that is cut off changes nothing or takes effect, if its files can be used. -/
  | cutOff {contents after : Contents} {request : Request} (writes : request.writes = true)
    (either : after = contents ∨ request.HasRoom directory ∧ after = contents.write request) :
    Permits directory ⟨contents, true⟩ (.ask request) none ⟨after, false⟩
  /-- The store is opened again with what it had. -/
  | reopened {contents : Contents} {running : Bool} :
    Permits directory ⟨contents, running⟩ .reopen (some (.ok .opened)) ⟨contents, true⟩
  /-- The machine stops while the store is opened again. -/
  | interrupted {contents : Contents} {running : Bool} :
    Permits directory ⟨contents, running⟩ .reopen none ⟨contents, false⟩

/-- A conversation in which every answer is one that the map gives. -/
inductive Conforms (directory : Path) : View → List Turn → List (Option Answer) → Prop
  | nil {view : View} : Conforms directory view [] []
  | cons {view after : View} {turn : Turn} {answer : Option Answer} {turns : List Turn}
    {answers : List (Option Answer)} (here : Permits directory view turn answer after)
    (later : Conforms directory after turns answers) :
    Conforms directory view (turn :: turns) (answer :: answers)

/-! ## Where nothing fails -/

namespace Contents

theorem write_of_reads {request : Request} (reads : request.writes = false) (contents : Contents) :
    contents.write request = contents := by
  cases request <;> first | rfl | cases reads

theorem tell_of_writes {request : Request} (writes : request.writes = true) (contents : Contents)
    (directory : Path) : contents.tell directory request = .ok .written := by
  cases request <;> first | rfl | cases writes

/-- The answer in a turn that is carried out. -/
def answer (contents : Contents) (directory : Path) : Turn → Answer
  | .ask request => contents.tell directory request
  | .reopen => .ok .opened

/-- The map after a turn that was carried out. -/
def turn (contents : Contents) : Turn → Contents
  | .ask request => contents.write request
  | .reopen => contents

end Contents

namespace MemoryStore

/-- A store in memory keeps a map. -/
structure Keeps (contents : Contents) (store : MemoryStore) : Prop where
  scalars : ∀ key, store.scalars.find? key = contents.scalars key
  blobs : ∀ name, store.blobs.find? name = contents.blobs name

theorem keeps_empty : Keeps .empty .empty :=
  ⟨fun _ => rfl, fun _ => rfl⟩

variable {contents : Contents} {store : MemoryStore}

theorem Keeps.putScalar (keeps : Keeps contents store) (key : String) (value : UInt16) :
    Keeps (contents.write (.writeWord key value)) (store.putScalar key value) where
  scalars k := by
    simp only [MemoryStore.putScalar, Contents.write]
    by_cases here : k = key
    · rw [here, Table.find?_insert_self, if_pos rfl]
    · rw [Table.find?_insert_of_ne _ _ here, if_neg here, keeps.scalars]
  blobs := keeps.blobs

theorem Keeps.putBlob (keeps : Keeps contents store) (name : String) (data : Bytes) :
    Keeps (contents.write (.writeBlob name data)) (store.putBlob name data) where
  scalars := keeps.scalars
  blobs n := by
    simp only [MemoryStore.putBlob, Contents.write]
    by_cases here : n = name
    · rw [here, Table.find?_insert_self, if_pos rfl]
    · rw [Table.find?_insert_of_ne _ _ here, if_neg here, keeps.blobs]

/-- A store in memory carries every turn out. -/
theorem keeps_turn {directory : Path} (keeps : Keeps contents store) (turn : Turn)
    (room : turn.HasRoom directory) :
    ∃ after, MemoryStore.turn turn store = (contents.answer directory turn, after) ∧
      Keeps (contents.turn turn) after := by
  cases turn with
  | reopen => exact ⟨store, rfl, keeps⟩
  | ask request =>
    cases request with
    | readByte key =>
      refine ⟨store, ?_, keeps⟩
      simp only [MemoryStore.turn, Request.perform, Backend.readByte, byte?, bind, EStateM.bind,
        pure, EStateM.pure, ending, Contents.answer, Contents.tell, keeps.scalars key]
      cases contents.scalars key with
      | none => rfl
      | some value =>
        by_cases fits : value.toNat < 256
        · simp only [if_pos fits, if_neg (show ¬ 0xFF < value.toNat by omega)]
        · simp only [if_neg fits, if_pos (show 0xFF < value.toNat by omega)]
    | readWord key =>
      refine ⟨store, ?_, keeps⟩
      rw [Contents.answer, Contents.tell, ← keeps.scalars key]
      rfl
    | readBlob name =>
      refine ⟨store, ?_, keeps⟩
      rw [Contents.answer, Contents.tell, if_pos room.2, ← keeps.blobs name]
      rfl
    | writeByte key value => exact ⟨_, rfl, keeps.putScalar key value.toUInt16⟩
    | writeWord key value => exact ⟨_, rfl, keeps.putScalar key value⟩
    | writeBlob name data => exact ⟨_, rfl, keeps.putBlob name data⟩

end MemoryStore

end PgpCard
