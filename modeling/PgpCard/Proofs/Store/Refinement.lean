import PgpCard.Proofs.Store.Conversation
import PgpCard.Proofs.Store.Replacing

/-!
# A store in a directory is a map

Steps of the volume are refused or cut off as its schedule says, and the machine is started again
when the store is opened again.

* `Represents`           : what the files and the memory of a store have to do with a map;
* `represents_turn`      : whatever a client does, the answer is one that the map gives;
* `turn_of_reliable`     : where no step fails, what a client asks for is done;
* `directory_store_refines_map` : so it is along every conversation with a store that was opened on
  an empty directory, and where nothing fails the answers are those of a store in memory.
-/

set_option autoImplicit false

namespace PgpCard

open Attempt

/-! ## The files -/

namespace DirectoryStore

open Volume

/-- The files that keep a map, with the numbers as the file of the numbers has them. -/
structure Filed (directory : Path) (contents : Contents) (table : Table Nat) (volume : Volume) :
    Prop where
  walkable : Walkable volume [] directory
  clear : ∀ file, volume.isDirectory (placeOf directory file) = false
  sound : Sound table
  numbers : ∀ key, table.find? key = (contents.scalars key).map UInt16.toNat
  saved : table = .empty ∧ volume.node? (placeOf directory scalarsName) = none ∨
    Takes (directory ++ [scalarsName]) ∧ volume.node? (placeOf directory scalarsName) =
      some (.file (Json.print (scalarsJson table)))
  blobs : ∀ name, IsWord name →
    volume.node? (placeOf directory (blobFileName name)) = (contents.blobs name).map .file
  taken : ∀ name, contents.blobs name ≠ none → Takes (directory ++ [blobFileName name])

/-- The store keeps the map, and while the machine runs its memory has the numbers of the file. -/
structure Represents (directory : Path) (view : View) (store : DirectoryStore) : Prop where
  located : store.directory = directory
  running : store.volume.running = view.running
  filed : ∃ table, Filed directory view.contents table store.volume ∧
    (view.running = true → store.scalars = table)

variable {directory : Path} {contents : Contents} {table : Table Nat} {volume after : Volume}
  {file : String} {data : Bytes}

theorem placeOf_inj {other : String} :
    placeOf directory file = placeOf directory other ↔ file = other := by
  simp [placeOf]

namespace Filed

theorem stands (filed : Filed directory contents table volume) (name : IsName file) :
    Stands directory file volume :=
  ⟨name, filed.walkable, filed.clear file⟩

/-- Only the files of the store matter. -/
theorem agree (filed : Filed directory contents table volume)
    (directories : ∀ path, after.isDirectory path = volume.isDirectory path)
    (files : ∀ file, IsFile file →
      after.node? (placeOf directory file) = volume.node? (placeOf directory file)) :
    Filed directory contents table after where
  walkable := filed.walkable.mono fun path h => (directories path).trans h
  clear file := (directories _).trans (filed.clear file)
  sound := filed.sound
  numbers := filed.numbers
  saved := by rw [files _ .scalars]; exact filed.saved
  blobs name word := (files _ (.blob word)).trans (filed.blobs name word)
  taken := filed.taken

/-- The file of the numbers was replaced. -/
theorem replaceScalars (filed : Filed directory contents table volume) {key : String}
    {value : UInt16} (word : IsWord key)
    (ends : Ends directory (Path.rename "tmp" scalarsName) scalarsName
      (Json.print (scalarsJson (table.insert key value.toNat))) volume (.ok ()) after) :
    Filed directory (contents.write (.writeWord key value)) (table.insert key value.toNat)
      after where
  walkable := filed.walkable.mono fun path h => (ends.2.isDirectory path).trans h
  clear file := (ends.2.isDirectory _).trans (filed.clear file)
  sound := filed.sound.insert word (Nat.lt_trans value.toNat_lt (by decide))
  numbers k := by
    simp only [Contents.write]
    by_cases here : k = key
    · rw [here, Table.find?_insert_self, if_pos rfl, Option.map_some]
    · rw [Table.find?_insert_of_ne _ _ here, if_neg here, filed.numbers]
  saved := by
    refine .inr ⟨ends.1.2, ?_⟩
    rw [ends.2.node? _ fun same => IsFile.scalars.ne_sibling .scalars (placeOf_inj.mp same),
      if_pos rfl]
  blobs name word := by
    rw [ends.2.node? _ fun same => (IsFile.blob word).ne_sibling .scalars (placeOf_inj.mp same),
      if_neg fun same => blobFileName_ne_scalarsName name (placeOf_inj.mp same)]
    exact filed.blobs name word
  taken := filed.taken

/-- The file of a byte string was replaced. -/
theorem replaceBlob (filed : Filed directory contents table volume) {name : String}
    (word : IsWord name)
    (ends : Ends directory (Path.rename "tmp" (blobFileName name)) (blobFileName name) data volume
      (.ok ()) after) :
    Filed directory (contents.write (.writeBlob name data)) table after where
  walkable := filed.walkable.mono fun path h => (ends.2.isDirectory path).trans h
  clear file := (ends.2.isDirectory _).trans (filed.clear file)
  sound := filed.sound
  numbers := filed.numbers
  saved := by
    rw [ends.2.node? _ fun same => IsFile.scalars.ne_sibling (.blob word) (placeOf_inj.mp same),
      if_neg fun same => blobFileName_ne_scalarsName name (placeOf_inj.mp same).symm]
    exact filed.saved
  blobs other word' := by
    rw [ends.2.node? _ fun same => (IsFile.blob word').ne_sibling (.blob word)
      (placeOf_inj.mp same)]
    simp only [Contents.write]
    by_cases here : other = name
    · rw [here, if_pos rfl, if_pos rfl, Option.map_some]
    · rw [if_neg fun same => here (blobFileName_inj.mp (placeOf_inj.mp same)), if_neg here]
      exact filed.blobs other word'
  taken other present := by
    by_cases here : other = name
    · rw [here]
      exact ends.1.2
    · simp only [Contents.write, if_neg here] at present
      exact filed.taken other present

/-- The file could not be replaced. -/
theorem keep (filed : Filed directory contents table volume) (isFile : IsFile file)
    {e : StoreError}
    (ends : Ends directory (Path.rename "tmp" file) file data volume (.error e) after) :
    Filed directory contents table after := by
  refine filed.agree ends.isDirectory fun other isFile' => ?_
  rw [ends.node? _ fun same => isFile'.ne_sibling isFile (placeOf_inj.mp same)]
  split
  · rename_i same
    rw [same]
  · rfl

end Filed

/-! ## Opening again -/

theorem leads_setMode (mode : Nat) :
    (setMode directory mode).Leads volume fun _ after =>
      (∀ path, after.isDirectory path = volume.isDirectory path) ∧
        (∀ path, volume.isDirectory path = false → after.node? path = volume.node? path) ∧
        (volume.Reliable → after.Reliable) := by
  refine leads_step (fun counted after alike changed => ?_) fun _ after alike =>
    ⟨alike.isDirectory, fun path _ => alike.node? path, alike.reliable⟩
  split at changed
  · cases changed
  rename_i place located
  split at changed
  · rename_i here
    cases changed
    refine ⟨fun path => ?_, fun path clear => ?_, fun reliable => (alike.reliable reliable).put⟩
    · rw [isDirectory_put_directory]
      by_cases same : path = place
      · rw [same, here, ← alike.isDirectory, here, Bool.or_true]
      · rw [decide_eq_false same, Bool.false_or, alike.isDirectory]
    · rw [node?_put_of_ne, alike.node?]
      rintro rfl
      rw [← alike.isDirectory, here] at clear
      cases clear
  · cases changed

section Reading

variable (stands : Stands directory file volume)

include stands

theorem read_of_file (takes : Takes (directory ++ [file]))
    (there : volume.node? (placeOf directory file) = some (.file data)) :
    volume.read (directory ++ [file]) = .ok data :=
  read_eq_ok.mpr ⟨_, stands.locate_eq_ok.mpr ⟨takes, rfl⟩, there⟩

theorem read_of_missing (takes : Takes (directory ++ [file]))
    (missing : volume.node? (placeOf directory file) = none) :
    volume.read (directory ++ [file]) = .error .notFound := by
  simp only [Volume.read, stands.locate_eq_ok.mpr ⟨takes, rfl⟩, missing]

theorem read_of_not_takes (refused : ¬ Takes (directory ++ [file])) :
    ∃ e, e ≠ .notFound ∧ volume.read (directory ++ [file]) = .error e := by
  obtain ⟨e, other, located⟩ := locate_of_not_takes stands.isName stands.walkable refused
  exact ⟨e, other, by rw [Volume.read, located]⟩

theorem has_of_file (takes : Takes (directory ++ [file]))
    (there : volume.node? (placeOf directory file) = some (.file data)) :
    volume.has (directory ++ [file]) = true := by
  simp only [has, stands.locate_eq_ok.mpr ⟨takes, rfl⟩, there, Option.isSome_some]

theorem has_of_missing (missing : volume.node? (placeOf directory file) = none) :
    volume.has (directory ++ [file]) = false := by
  unfold has
  split
  · rfl
  · rename_i located
    rw [(stands.locate_eq_ok.mp located).2, missing, Option.isSome_none]

end Reading

/-- A store that is opened again reads the numbers that were saved. -/
theorem leads_mount (filed : Filed directory contents table volume) :
    (mount directory).Leads volume fun r after =>
      r = .ok table ∧ Filed directory contents table after ∧
        (volume.Reliable → after.Reliable) := by
  unfold mount
  have made : (makeDirectory directory).mapError (fun _ => failureAt directory directory) volume =
      .ok () volume := by
    rw [Attempt.mapError, makeDirectory_of_walkable filed.walkable]
  rw [leads_congr (bind_of_ok made)]
  refine leads_bind.mpr (leads_ignored.mpr ((leads_setMode privateMode).mono ?_))
  rintro _ after ⟨directories, files, reliable⟩
  have filed := filed.agree directories fun file _ => files _ (filed.clear file)
  have stands := filed.stands IsFile.scalars.isName
  refine leads_get_bind.mpr ?_
  simp only [IsFile.scalars.path_eq]
  obtain ⟨rfl, missing⟩ | ⟨takes, there⟩ := filed.saved
  · rw [if_neg (by rw [has_of_missing stands missing]; decide)]
    exact ⟨rfl, filed, reliable⟩
  · rw [if_pos (has_of_file stands takes there), read_of_file stands takes there]
    simp only [scalarsOfText?_print filed.sound]
    exact ⟨rfl, filed, reliable⟩

/-! ## One turn -/

section Turns

variable {store : DirectoryStore}

/-- A number is read at a width if it fits in it. -/
theorem scalar?_eq (filed : Filed directory contents store.scalars store.volume) (key : String)
    (bits : Nat) :
    store.scalar? key bits =
      match contents.scalars key with
      | none => .ok none
      | some value =>
        if value.toNat >>> bits = 0 then .ok (some value.toNat)
        else .error (.width key value.toNat bits) := by
  rw [scalar?, filed.numbers]
  cases contents.scalars key <;> rfl

theorem failureAt_append : failureAt directory (directory ++ [file]) = .medium [file] := by
  have inside : directory.isPrefixOf (directory ++ [file]) = true :=
    List.isPrefixOf_iff_prefix.mpr (List.prefix_append _ _)
  rw [failureAt, if_pos inside, List.drop_left]

/-- What is read is what the map has. -/
theorem ending_of_reads {request : Request} (located : store.directory = directory)
    (filed : Filed directory contents store.scalars store.volume) (word : IsWord request.name)
    (reads : request.writes = false) :
    request.perform.ending store = (contents.tell directory request, store) := by
  cases request with
  | writeByte | writeWord | writeBlob => cases reads
  | readByte key =>
    have told := scalar?_eq filed key 8
    simp only [Request.perform, Backend.readByte, readScalar, bind, EStateM.bind, pure,
      EStateM.pure, ending, Contents.tell, told]
    cases contents.scalars key with
    | none => rfl
    | some value =>
      have width : value.toNat >>> 8 = 0 ↔ value.toNat < 256 := by
        rw [Nat.shiftRight_eq_div_pow]
        omega
      by_cases fits : value.toNat < 256
      · simp only [if_pos (width.mpr fits), if_pos fits, Option.map_some]
        rfl
      · simp only [if_neg (mt width.mp fits), if_neg fits]
  | readWord key =>
    have told := scalar?_eq filed key 16
    simp only [Request.perform, Backend.readWord, readScalar, bind, EStateM.bind, pure,
      EStateM.pure, ending, Contents.tell, told]
    cases contents.scalars key with
    | none => rfl
    | some value =>
      have width : value.toNat >>> 16 = 0 := by
        have := value.toNat_lt
        rw [Nat.shiftRight_eq_div_pow]
        omega
      simp only [if_pos width, Option.map_some, UInt16.ofNat_toNat]
  | readBlob name =>
    have isFile : IsFile (blobFileName name) := .blob word
    have stands := filed.stands isFile.isName
    simp only [Request.perform, Backend.readBlob, readBlob, bind, EStateM.bind, pure,
      EStateM.pure, ending, Contents.tell, blobPath, located, isFile.path_eq]
    by_cases takes : Takes (directory ++ [blobFileName name])
    · rw [if_pos takes]
      have there := filed.blobs name word
      cases kept : contents.blobs name with
      | none =>
        rw [kept, Option.map_none] at there
        simp only [read_of_missing stands takes there]
      | some data =>
        rw [kept, Option.map_some] at there
        simp only [read_of_file stands takes there]
    · obtain ⟨e, other, failed⟩ := read_of_not_takes stands takes
      rw [if_neg takes, failed, ← failureAt_append]
      cases e with
      | notFound => exact absurd rfl other
      | _ => rfl

/-- What a write comes to. -/
def Writes (directory : Path) (contents : Contents) (request : Request) (r : Answer)
    (after : DirectoryStore) : Prop :=
  after.directory = directory ∧
    match r with
    | .ok reply => reply = .written ∧ request.HasRoom directory ∧
      Filed directory (contents.write request) after.scalars after.volume
    | .error _ => Filed directory contents after.scalars after.volume

/-- After a failure, memory has the numbers that it had before. -/
theorem leads_writeScalar_iff {key : String} {value : Nat}
    {post : Except StoreError Unit → DirectoryStore → Prop} :
    (writeScalar key value).Leads store post ↔
      (replaceFile (path store.directory scalarsName)
        (Json.print (scalarsJson (store.scalars.insert key value)))).Leads
          { store with scalars := store.scalars.insert key value } fun r after =>
            post r (match r with
              | .ok () => after
              | .error _ => { after with scalars := store.scalars }) := by
  simp only [Leads, writeScalar]
  cases replaceFile (path store.directory scalarsName)
    (Json.print (scalarsJson (store.scalars.insert key value)))
    { store with scalars := store.scalars.insert key value } <;> rfl

theorem leads_writeScalar (located : store.directory = directory)
    (filed : Filed directory contents store.scalars store.volume) {key : String} (word : IsWord key)
    (value : UInt16) :
    (writeScalar key value.toNat).Leads store fun r after =>
      Writes directory contents (.writeWord key value) (r.map fun _ => .written) after := by
  have stands := filed.stands IsFile.scalars.isName
  have beside := filed.stands IsFile.scalars.sibling_isName
  have replaced := @leads_replaceFile
    ⟨directory, store.scalars.insert key value.toNat, store.volume⟩ directory scalarsName
    (Json.print (scalarsJson (store.scalars.insert key value.toNat))) beside stands
  rw [leads_writeScalar_iff, located, IsFile.scalars.path_eq]
  refine replaced.mono ?_
  rintro (e | ⟨⟩) _ ⟨after, rfl, ends⟩
  · exact ⟨rfl, filed.keep .scalars ends⟩
  · exact ⟨rfl, rfl, ends.1, filed.replaceScalars word ends⟩

theorem leads_writeBlob (located : store.directory = directory)
    (filed : Filed directory contents store.scalars store.volume) {name : String}
    (word : IsWord name) (data : Bytes) :
    (writeBlob name data).Leads store fun r after =>
      Writes directory contents (.writeBlob name data) (r.map fun _ => .written) after := by
  have isFile : IsFile (blobFileName name) := .blob word
  have stands := filed.stands isFile.isName
  have beside := filed.stands isFile.sibling_isName
  have run : writeBlob name data store =
      replaceFile (path directory (blobFileName name)) data store := by
    rw [writeBlob, blobPath, located]
  rw [leads_congr run, isFile.path_eq]
  refine (leads_replaceFile beside stands).mono ?_
  rintro (e | ⟨⟩) _ ⟨after, rfl, ends⟩
  · exact ⟨located, filed.keep isFile ends⟩
  · exact ⟨located, rfl, ends.1, filed.replaceBlob word ends⟩

/-- A write that ends well takes effect, and one that fails changes nothing. -/
theorem leads_write {request : Request} (located : store.directory = directory)
    (filed : Filed directory contents store.scalars store.volume) (word : IsWord request.name)
    (writes : request.writes = true) :
    request.perform.Leads store (Writes directory contents request) := by
  have answered : ∀ {act : Attempt StoreError DirectoryStore Unit},
      (act.Leads store fun r after =>
        Writes directory contents request (r.map fun _ => .written) after) →
      (act >>= fun _ => pure .written).Leads store (Writes directory contents request) := by
    refine fun met => leads_bind.mpr (met.mono ?_)
    rintro (e | ⟨⟩) after met <;> exact met
  cases request with
  | readByte | readWord | readBlob => cases writes
  | writeByte key value =>
    refine answered ?_
    have met := leads_writeScalar located filed word value.toUInt16
    rw [UInt8.toNat_toUInt16] at met
    exact met
  | writeWord key value => exact answered (leads_writeScalar located filed word value)
  | writeBlob name data => exact answered (leads_writeBlob located filed word data)

theorem Filed.restart (filed : Filed directory contents table volume) :
    Filed directory contents table volume.restart :=
  filed.agree (fun _ => rfl) fun _ _ => rfl

/-- The store opens again, with what it had. -/
theorem openAt_restart (filed : Filed directory contents table volume) :
    ∃ after, openAt directory volume.restart = (.ok ⟨directory, table, after⟩, after) ∧
      Filed directory contents table after ∧ (volume.restart.Reliable → after.Reliable) := by
  obtain ⟨_, after, run, same, filed, reliable⟩ :=
    (leads_mount filed.restart).exists_ok fun e final met => nomatch met.1
  cases same
  exact ⟨after, by rw [openAt, run], filed, reliable⟩

/-- Whatever a client does, the answer is one that the map gives. -/
theorem represents_turn {view : View} (turn : Turn) (represents : Represents directory view store)
    (named : turn.IsNamed) :
    ∃ after, Permits directory view turn (DirectoryStore.turn turn store).1 after ∧
      Represents directory after (DirectoryStore.turn turn store).2 := by
  obtain ⟨located, running, table, filed, cached⟩ := represents
  obtain ⟨contents, up⟩ := view
  cases turn with
  | reopen =>
    obtain ⟨after, opened, filed', -⟩ := openAt_restart filed
    simp only [DirectoryStore.turn, located, opened]
    cases runs : after.running with
    | true => exact ⟨⟨contents, true⟩, .reopened, rfl, runs, table, filed', fun _ => rfl⟩
    | false => exact ⟨⟨contents, false⟩, .interrupted, rfl, runs, table, filed', fun _ => rfl⟩
  | ask request =>
    cases up with
    | false =>
      simp only [DirectoryStore.turn, running]
      exact ⟨⟨contents, false⟩, .silent, located, running, table, filed, nofun⟩
    | true =>
      obtain rfl := cached rfl
      simp only [DirectoryStore.turn, running, if_true]
      cases writes : request.writes with
      | false =>
        rw [ending_of_reads located filed named writes]
        simp only [running, if_true]
        exact ⟨⟨contents, true⟩, .told writes, located, running, _, filed, fun _ => rfl⟩
      | true =>
        obtain ⟨place, met⟩ := leads_iff.mp (leads_write located filed named writes)
        generalize request.perform.ending store = ended at place met
        obtain ⟨r, after⟩ := ended
        cases runs : after.volume.running with
        | true =>
          cases r with
          | ok reply =>
            obtain ⟨rfl, room, filed⟩ := met
            exact ⟨⟨_, true⟩, .written writes room, place, runs, _, filed, fun _ => rfl⟩
          | error e => exact ⟨⟨_, true⟩, .failed writes, place, runs, _, met, fun _ => rfl⟩
        | false =>
          cases r with
          | ok reply =>
            obtain ⟨-, room, filed⟩ := met
            exact ⟨⟨_, false⟩, .cutOff writes (.inr ⟨room, rfl⟩), place, runs, _, filed,
              fun _ => rfl⟩
          | error e =>
            exact ⟨⟨_, false⟩, .cutOff writes (.inl rfl), place, runs, _, met, fun _ => rfl⟩

/-- So it is along every conversation. -/
theorem conforms_converse {view : View} {turns : List Turn}
    (represents : Represents directory view store) (named : ∀ turn ∈ turns, turn.IsNamed) :
    Conforms directory view turns (converse DirectoryStore.turn turns store).1 := by
  induction turns generalizing view store with
  | nil => exact .nil
  | cons turn turns ih =>
    obtain ⟨after, permits, represents⟩ :=
      represents_turn turn represents (named turn List.mem_cons_self)
    exact .cons permits (ih represents fun next mem => named next (List.mem_cons_of_mem _ mem))

/-! ## Where nothing fails -/

/-- Where no step fails, a write ends well. -/
theorem perform_of_reliable {request : Request} (located : store.directory = directory)
    (filed : Filed directory contents store.scalars store.volume) (word : IsWord request.name)
    (writes : request.writes = true) (reliable : store.volume.Reliable)
    (room : request.HasRoom directory) :
    ∃ after, request.perform store = .ok .written after ∧ after.volume.Reliable := by
  subst located
  have scalar : ∀ key value, DirectoryStore.HasRoom store.directory scalarsName →
      ∃ after, writeScalar key value store = .ok () after ∧ after.volume.Reliable := by
    rintro key value ⟨takes, takes'⟩
    obtain ⟨volume, run, reliable⟩ := @replaceFile_of_reliable
      { store with scalars := store.scalars.insert key value } store.directory scalarsName
      (Json.print (scalarsJson (store.scalars.insert key value))) reliable
      (filed.stands IsFile.scalars.sibling_isName) (filed.stands IsFile.scalars.isName) takes takes'
    refine ⟨⟨store.directory, store.scalars.insert key value, volume⟩, ?_, reliable⟩
    simp only [writeScalar, IsFile.scalars.path_eq, run]
  cases request with
  | readByte | readWord | readBlob => cases writes
  | writeByte key value | writeWord key value =>
    obtain ⟨after, run, reliable⟩ := scalar key value.toNat room
    exact ⟨after, bind_of_ok run, reliable⟩
  | writeBlob name data =>
    have isFile : IsFile (blobFileName name) := .blob word
    obtain ⟨volume, run, reliable⟩ := @replaceFile_of_reliable store store.directory
      (blobFileName name) data reliable (filed.stands isFile.sibling_isName)
      (filed.stands isFile.isName) room.1 room.2
    have written : writeBlob name data store = .ok () { store with volume } := by
      rw [← run, ← isFile.path_eq]
      rfl
    exact ⟨{ store with volume }, bind_of_ok written, reliable⟩

/-- Where no step fails, a turn is carried out. -/
theorem turn_of_reliable (turn : Turn) (represents : Represents directory ⟨contents, true⟩ store)
    (named : turn.IsNamed) (reliable : store.volume.Reliable) (room : turn.HasRoom directory) :
    ∃ after, DirectoryStore.turn turn store = (some (contents.answer directory turn), after) ∧
      Represents directory ⟨contents.turn turn, true⟩ after ∧ after.volume.Reliable := by
  obtain ⟨located, running, table, filed, cached⟩ := represents
  obtain rfl := cached rfl
  cases turn with
  | reopen =>
    obtain ⟨after, opened, filed', reliable'⟩ := openAt_restart filed
    have reliable := reliable' ⟨rfl, reliable.fates⟩
    refine ⟨⟨directory, store.scalars, after⟩, ?_,
      ⟨rfl, reliable.running, _, filed', fun _ => rfl⟩, reliable⟩
    simp only [DirectoryStore.turn, located, opened, reliable.running, if_true]
    rfl
  | ask request =>
    cases writes : request.writes with
    | false =>
      refine ⟨store, ?_, ⟨located, running, _, ?_, fun _ => rfl⟩, reliable⟩
      · simp only [DirectoryStore.turn, reliable.running, if_true,
          ending_of_reads located filed named writes]
        rfl
      · rw [Contents.turn, Contents.write_of_reads writes]
        exact filed
    | true =>
      obtain ⟨after, run, reliable'⟩ :=
        perform_of_reliable located filed named writes reliable room
      obtain ⟨place, -, -, filed'⟩ := (leads_write located filed named writes).of_ok run
      refine ⟨after, ?_, ⟨place, reliable'.running, _, filed', fun _ => rfl⟩, reliable'⟩
      simp only [DirectoryStore.turn, reliable.running, if_true, ending, run, reliable'.running,
        Contents.answer, Contents.tell_of_writes writes]

/-- Where nothing fails, a store in a directory answers as one in memory does. -/
theorem converse_of_reliable {memory : MemoryStore} {turns : List Turn}
    (represents : Represents directory ⟨contents, true⟩ store)
    (keeps : MemoryStore.Keeps contents memory) (named : ∀ turn ∈ turns, turn.IsNamed)
    (reliable : store.volume.Reliable) (room : ∀ turn ∈ turns, turn.HasRoom directory) :
    (converse DirectoryStore.turn turns store).1 =
      (converse MemoryStore.turn turns memory).1.map some := by
  induction turns generalizing contents store memory with
  | nil => rfl
  | cons turn turns ih =>
    have here : turn ∈ turn :: turns := List.mem_cons_self
    obtain ⟨after, answered, represents, reliable⟩ :=
      turn_of_reliable turn represents (named turn here) reliable (room turn here)
    obtain ⟨memory', answered', keeps⟩ := MemoryStore.keeps_turn keeps turn (room turn here)
    simp only [converse, answered, answered', List.map_cons]
    rw [ih represents keeps (fun next mem => named next (List.mem_cons_of_mem _ mem)) reliable
      fun next mem => room next (List.mem_cons_of_mem _ mem)]

/-! ## Opening on an empty directory -/

theorem node?_of_vacant {volume : Volume} {place : Path} (vacant : volume.list place = [])
    (file : String) : volume.node? (place ++ [file]) = none := by
  rw [node?_of_ne_nil (by simp), Option.map_eq_none_iff, List.find?_eq_none]
  rintro ⟨path, node⟩ mem same
  obtain rfl := eq_of_beq same
  rw [Volume.list, List.filterMap_eq_nil_iff] at vacant
  have unlisted := vacant _ mem
  simp at unlisted

/-- A directory without a file of numbers has none. -/
theorem leads_mount_vacant {volume : Volume} :
    (mount directory).Leads volume fun r after =>
      ∀ table, r = .ok table → Walkable after [] directory ∧
        (after.node? (placeOf directory scalarsName) = none → table = .empty) := by
  unfold mount
  refine leads_bind.mpr (leads_mapError.mpr ((makeDirectory_walkable directory).mono ?_))
  rintro (e | ⟨⟩) made walkable
  · rintro _ ⟨⟩
  refine leads_bind.mpr (leads_ignored.mpr ((leads_setMode privateMode).mono ?_))
  rintro _ after ⟨directories, -, -⟩
  have walkable := (walkable rfl).mono fun path h => (directories path).trans h
  refine leads_get_bind.mpr ?_
  simp only [IsFile.scalars.path_eq]
  have unseen : after.node? (placeOf directory scalarsName) = none →
      after.has (directory ++ [scalarsName]) = false := fun missing =>
    has_of_missing ⟨IsFile.scalars.isName, walkable, by rw [Volume.isDirectory, missing]⟩ missing
  split
  · rename_i there
    split
    · rintro _ ⟨⟩
    split
    · rintro _ ⟨⟩
    · refine fun table _ => ⟨walkable, fun missing => ?_⟩
      exact absurd (there.symm.trans (unseen missing)) (by decide)
  · rintro _ ⟨⟩
    exact ⟨walkable, fun _ => rfl⟩

/-- A store that was opened on an empty directory keeps the empty map. -/
theorem represents_empty {volume opened : Volume}
    (opening : openAt directory volume = (.ok store, opened))
    (vacant : opened.list (settle [] directory) = []) :
    store.volume = opened ∧ Represents directory ⟨.empty, opened.running⟩ store := by
  rw [openAt] at opening
  split at opening
  · rename_i table after run
    cases opening
    obtain ⟨walkable, empty⟩ := leads_mount_vacant.of_ok run table rfl
    have missing := node?_of_vacant vacant
    obtain rfl := empty (missing scalarsName)
    refine ⟨rfl, rfl, rfl, .empty, ⟨walkable, fun file => ?_, .empty, fun _ => rfl,
      .inl ⟨rfl, missing _⟩, fun name _ => missing _, fun name present => absurd rfl present⟩,
      fun _ => rfl⟩
    rw [Volume.isDirectory, placeOf, missing]
  · cases opening

end Turns

end DirectoryStore

open DirectoryStore Volume

/-- A store in a directory that held nothing answers as a map does, whatever is refused and
wherever the machine stops, and as a store in memory does if nothing fails and the files can be
used.  Only a byte string whose file cannot be named on the volume is an exception: no write of it
ever takes effect, and to ask for it is a failure, where a map would tell that nothing is there. -/
theorem directory_store_refines_map {directory : Path} {volume opened : Volume}
    {store : DirectoryStore} (opening : openAt directory volume = (.ok store, opened))
    (vacant : opened.list (settle [] directory) = []) {turns : List Turn}
    (named : ∀ turn ∈ turns, turn.IsNamed) :
    Conforms directory ⟨.empty, opened.running⟩ turns (converse DirectoryStore.turn turns store).1 ∧
      (opened.Reliable → (∀ turn ∈ turns, turn.HasRoom directory) →
        (converse DirectoryStore.turn turns store).1 =
          (converse MemoryStore.turn turns .empty).1.map some) := by
  obtain ⟨rfl, represents⟩ := represents_empty opening vacant
  refine ⟨conforms_converse represents named, fun reliable room => ?_⟩
  rw [reliable.running] at represents
  exact converse_of_reliable represents MemoryStore.keeps_empty named reliable room

/-- A byte string may have the name of the file of the numbers. -/
theorem directory_store_refines_map_scalars :
    let turns : List Turn := [.ask (.writeByte "k" 3), .ask (.writeBlob "scalars" [1, 2]), .reopen,
      .ask (.readByte "k"), .ask (.readBlob "scalars")]
    let opened : Volume := { nodes := [(["d"], .directory privateMode)], steps := 2 }
    openAt ["d"] .empty = (.ok ⟨["d"], .empty, opened⟩, opened) ∧
      opened.list (settle [] ["d"]) = [] ∧ (∀ turn ∈ turns, turn.IsNamed) ∧ opened.Reliable ∧
      (∀ turn ∈ turns, turn.HasRoom ["d"]) ∧
      Conforms ["d"] ⟨.empty, true⟩ turns [some (.ok .written), some (.ok .written),
        some (.ok .opened), some (.ok (.byte (some 3))), some (.ok (.blob (some [1, 2])))] := by
  intro turns opened
  have opening : openAt ["d"] .empty = (.ok ⟨["d"], .empty, opened⟩, opened) := rfl
  have vacant : opened.list (settle [] ["d"]) = [] := by decide +kernel
  have named : ∀ turn ∈ turns, turn.IsNamed := by decide +kernel
  have reliable : opened.Reliable := ⟨rfl, fun _ => rfl⟩
  have room : ∀ turn ∈ turns, turn.HasRoom ["d"] := by decide +kernel
  obtain ⟨conforms, same⟩ := directory_store_refines_map opening vacant named
  rw [same reliable room] at conforms
  exact ⟨opening, vacant, named, reliable, room, conforms⟩

/-- The machine stops between moving a file and flushing its directory: the file is new. -/
example :
    let fates : Nat → Fate := fun n => if n = 6 then .stopped else .done
    (converse DirectoryStore.turn
      [.ask (.writeBlob "b" [7]), .ask (.readBlob "b"), .reopen, .ask (.readBlob "b")]
        ⟨["d"], .empty, { nodes := [(["d"], .directory privateMode)], fates, steps := 2 }⟩).1 =
      [none, none, some (.ok .opened), some (.ok (.blob (some [7])))] := by
  decide +kernel

/-- A name of so many letters. -/
def letters (n : Nat) : String := String.ofList (List.replicate n 'a')

theorem isWord_letters (n : Nat) : IsWord (letters n) := by
  intro c mem
  rw [letters, String.toList_ofList] at mem
  obtain rfl := List.eq_of_mem_replicate mem
  decide

theorem length_letters (n : Nat) : (Utf8.ofString (blobFileName (letters n))).length = n + 4 := by
  rw [Utf8.ofString, toList_blobFileName, letters, String.toList_ofList]
  induction n with
  | zero => rfl
  | succ n ih => exact congrArg (· + 1) ih

theorem not_takes_letters {n : Nat} (long : 251 < n) (directory : Path) :
    ¬ Takes (directory ++ [blobFileName (letters n)]) := by
  rintro ⟨-, -, short⟩
  have fits := short (blobFileName (letters n)) (by simp)
  rw [length_letters, maxName] at fits
  omega

/-- Nothing was written under a name of 252 letters and nothing fails, and yet a store in a
directory does not tell that nothing is there, as one in memory does. -/
theorem long_name_not_absent :
    let opened : Volume := { nodes := [(["d"], .directory privateMode)], steps := 2 }
    openAt ["d"] .empty = (.ok ⟨["d"], .empty, opened⟩, opened) ∧
      opened.list (settle [] ["d"]) = [] ∧ opened.Reliable ∧ IsWord (letters 252) ∧
      (DirectoryStore.turn (.ask (.readBlob (letters 252))) ⟨["d"], .empty, opened⟩).1 =
        some (.error (.medium [blobFileName (letters 252)])) ∧
      (MemoryStore.turn (.ask (.readBlob (letters 252))) .empty).1 = .ok (.blob none) := by
  intro opened
  have opening : openAt ["d"] .empty = (.ok ⟨["d"], .empty, opened⟩, opened) := rfl
  have vacant : opened.list (settle [] ["d"]) = [] := by decide +kernel
  obtain ⟨-, located, -, table, filed, cached⟩ := represents_empty opening vacant
  obtain rfl := cached rfl
  have told := @ending_of_reads ["d"] .empty ⟨["d"], .empty, opened⟩ (.readBlob (letters 252))
    located filed (isWord_letters 252) rfl
  refine ⟨opening, vacant, ⟨rfl, fun _ => rfl⟩, isWord_letters 252, ?_, rfl⟩
  rw [Contents.tell, if_neg (not_takes_letters (by decide) ["d"])] at told
  rw [DirectoryStore.turn, told]
  rfl

end PgpCard
