import PgpCard.Proofs.Record.RoundTrip
import PgpCard.Proofs.Store.Replacing
import PgpCard.Store.Memory
import PgpCard.Store.Records

/-!
# Records are loaded as they were saved

* `Backend.Retentive` : a store gives back every byte string that it has taken, as the store in
  memory and the one in a directory do;
* `Store.loadRecord_of_saved` : such a store gives back every record of a lawful type;
* `records_read_back` : so it is with the five kinds of records that a card keeps.
-/

set_option autoImplicit false

namespace PgpCard

open Attempt

/-- A store that gives a byte string back once it has taken it. -/
class Backend.Retentive (σ : Type) [Backend σ] : Prop where
  readBlob_of_written : ∀ {name : String} {data : Bytes} {store after : σ},
    Backend.writeBlob name data store = .ok () after →
      Backend.readBlob name after = .ok (some data) after

instance : Backend.Retentive MemoryStore where
  readBlob_of_written := by
    rintro name data store _ ⟨⟩
    exact congrArg (EStateM.Result.ok · _) (Table.find?_insert_self _ name data)

/-! ## Files -/

namespace Volume

variable {volume after : Volume} {path place source target : Path} {data : Bytes}

/-- What is put where a path leads is read there. -/
theorem read_put (located : volume.locate path = .ok place)
    (clear : volume.isDirectory place = false) :
    (volume.put place (.file data)).read path = .ok data := by
  have named : place ≠ [] := by
    rintro rfl
    cases clear
  have same : ∀ path, (volume.put place (.file data)).isDirectory path = volume.isDirectory path :=
    fun path => isDirectory_put_file path named clear
  exact read_eq_ok.mpr ⟨place, locate_congr same located, node?_put_self named⟩

theorem read_of_alike (alike : Alike volume after) (found : volume.read path = .ok data) :
    after.read path = .ok data := by
  obtain ⟨place, located, stands⟩ := read_eq_ok.mp found
  exact read_eq_ok.mpr
    ⟨place, locate_congr alike.isDirectory located, (alike.node? place).trans stands⟩

theorem isDirectory_of_file (stands : volume.node? place = some (.file data)) :
    volume.isDirectory place = false := by
  rw [isDirectory, stands]

/-! ## Steps -/

theorem read_of_created : (create path).Leads volume fun r after =>
    r = .ok () → after.read path = .ok [] := by
  refine leads_step (fun counted after _ changed _ => ?_) fun _ _ _ => nofun
  split at changed
  · cases changed
  rename_i place located
  split at changed
  · cases changed
  rename_i clear
  cases changed
  exact read_put located (eq_false_of_ne_true clear)

theorem read_of_filled {old : Bytes} (there : volume.read path = .ok old) :
    (fill path data).Leads volume fun r after => r = .ok () → after.read path = .ok data := by
  refine leads_step (fun counted after alike changed _ => ?_) fun _ _ _ => nofun
  obtain ⟨place, located, stands⟩ := read_eq_ok.mp (read_of_alike alike there)
  simp only [located] at changed
  cases changed
  exact read_put located (isDirectory_of_file stands)

theorem read_of_flushed (there : volume.read path = .ok data) :
    flush.Leads volume fun _ after => after.read path = .ok data := by
  refine leads_step (fun counted after alike changed => ?_) fun _ after alike =>
    read_of_alike alike there
  cases changed
  exact read_of_alike alike there

theorem read_of_moved (there : volume.read source = .ok data) :
    (move source target).Leads volume fun r after => r = .ok () → after.read target = .ok data := by
  refine leads_step (fun counted after alike changed _ => ?_) fun _ _ _ => nofun
  have there := read_of_alike alike there
  obtain ⟨old, located, stands⟩ := read_eq_ok.mp there
  simp only [there, located] at changed
  split at changed
  · rename_i moved old' new read_old located_old located_new
    cases read_old
    cases located_old
    split at changed
    · cases changed
    rename_i clear
    cases changed
    have named : old ≠ [] := by
      rintro rfl
      cases stands
    -- a file that is taken away takes no directory with it
    have same : ∀ path, (counted.drop old).isDirectory path = counted.isDirectory path :=
      fun path => isDirectory_drop path named (isDirectory_of_file stands)
    exact read_put (locate_congr same located_new)
      ((same new).trans (eq_false_of_ne_true clear))
  all_goals cases changed

end Volume

namespace DirectoryStore

open Volume

variable {store : DirectoryStore} {sibling file : Path} {data : Bytes}

/-- A file that was replaced has its new content. -/
theorem read_of_replaced :
    (replaceFile file data).Leads store fun r after =>
      r = .ok () → after.directory = store.directory ∧ after.volume.read file = .ok data := by
  have moved : ∀ sibling, (writeAndMove sibling file data).Leads store fun r after =>
      r = .ok () → after.directory = store.directory ∧ after.volume.read file = .ok data := by
    intro sibling
    refine leads_bind.mpr (leads_onVolume.mpr (read_of_created.mono ?_))
    rintro (e | ⟨⟩) created there
    · exact nofun
    refine leads_bind.mpr (leads_onVolume.mpr ((read_of_filled (there rfl)).mono ?_))
    rintro (e | ⟨⟩) filled there
    · exact nofun
    refine leads_bind.mpr (leads_onVolume.mpr ((read_of_flushed (there rfl)).mono ?_))
    rintro (e | ⟨⟩) flushed there
    · exact nofun
    refine leads_onVolume.mpr ((read_of_moved there).mono ?_)
    rintro (e | ⟨⟩) after there
    · exact nofun
    · exact fun _ => ⟨rfl, there rfl⟩
  refine leads_bind.mpr (leads_outcome.mpr ((moved _).mono ?_))
  rintro (e | ⟨⟩) after there
  · exact leads_bind.mpr (leads_ignored.mpr (leads_any fun _ _ => nofun))
  · obtain ⟨located, there⟩ := there rfl
    refine leads_get_bind.mpr (leads_ignored.mpr (leads_onVolume.mpr ?_))
    exact (read_of_flushed there).mono fun _ _ flushed _ => ⟨located, flushed⟩

end DirectoryStore

instance : Backend.Retentive DirectoryStore where
  readBlob_of_written := by
    intro name data store after written
    obtain ⟨located, there⟩ := DirectoryStore.read_of_replaced.of_ok written rfl
    show DirectoryStore.readBlob name after = _
    rw [DirectoryStore.readBlob, located, there]

/-! ## Records -/

namespace Store

variable {σ α : Type} [Backend σ] [Recorded α]

theorem loadRecord_of_readBlob {name : String} {record : α} {text : Bytes} {store after : σ}
    (read : Backend.readBlob name store = .ok (some text) after)
    (decoded : Record.decode? text = some record) :
    loadRecord name store = .ok (some record) after := by
  simp only [loadRecord, bind, EStateM.bind, read, decoded]
  rfl

/-- A record of a lawful type is loaded as it was saved. -/
theorem loadRecord_of_saved [Backend.Retentive σ] [Record.Lawful α] {name : String} {record : α}
    {store after : σ} (saved : saveRecord name record store = .ok () after) :
    loadRecord name after = .ok (some record) after :=
  loadRecord_of_readBlob (Backend.Retentive.readBlob_of_written saved)
    (Record.decode?_encode record)

/-- A kind of store gives back the records of a type. -/
structure GivesBack (σ α : Type) [Backend σ] [Recorded α] : Prop where
  /-- A record that was saved is loaded as it was, and loading leaves the store alone. -/
  saved : ∀ {name : String} {record : α} {store after : σ},
    saveRecord name record store = .ok () after →
      loadRecord name after = .ok (some record) after
  /-- A record that was loaded, from whatever text, is loaded again once it is saved again. -/
  resaved : ∀ {name other : String} {record : α} {store loaded after : σ},
    loadRecord name store = .ok (some record) loaded →
      saveRecord other record loaded = .ok () after →
        loadRecord other after = .ok (some record) after

theorem givesBack (σ α : Type) [Backend σ] [Backend.Retentive σ] [Recorded α] [Record.Lawful α] :
    GivesBack σ α :=
  ⟨loadRecord_of_saved, fun _ => loadRecord_of_saved⟩

/-- A kind of store gives back all that a card keeps in records. -/
structure KeepsRecords (σ : Type) [Backend σ] : Prop where
  secrets : GivesBack σ SecretRecord
  attributes : GivesBack σ AlgorithmAttributes
  components : GivesBack σ Rsa.Components
  keys : GivesBack σ KeyRecord
  objects : GivesBack σ DataObjects

/-- Records of every kind are loaded as they were saved, whatever their fields hold: in memory,
where saving never fails, and in a directory wherever it does not fail. -/
theorem records_read_back :
    KeepsRecords MemoryStore ∧ KeepsRecords DirectoryStore ∧
      ∀ (α : Type) [Recorded α] (name : String) (record : α) (store : MemoryStore),
        ∃ after, saveRecord name record store = .ok () after :=
  ⟨⟨givesBack _ _, givesBack _ _, givesBack _ _, givesBack _ _, givesBack _ _⟩,
    ⟨givesBack _ _, givesBack _ _, givesBack _ _, givesBack _ _, givesBack _ _⟩,
    fun _ _ _ _ _ => ⟨_, rfl⟩⟩

/-- Components whose byte strings have lengths of every remainder by three, none among them. -/
def sampleComponents : Rsa.Components where
  n := [0x00, 0xFF]
  e := [0x01, 0x00, 0x01]
  d := []
  p := [0x0B]
  q := [0xDE, 0xAD, 0xBE, 0xEF]
  dp := [0x22, 0x5C]
  dq := [0x80]
  qinv := [0xFB, 0xFF, 0xBF]

/-- A record with these components. -/
def sampleRecord : KeyRecord :=
  { KeyRecord.empty with
    fingerprint := []
    generationTime := 0xFFFFFFFF
    components := some sampleComponents }

/-- A store in an empty directory. -/
def sampleDirectory : DirectoryStore :=
  ⟨["d"], .empty, { nodes := [(["d"], .directory Volume.privateMode)] }⟩

theorem records_read_back_key :
    ∃ after, saveRecord "key_sig" sampleRecord sampleDirectory = .ok () after ∧
      (loadRecord "key_sig" after : EStateM.Result StoreError DirectoryStore (Option KeyRecord)) =
        .ok (some sampleRecord) after := by
  have succeeds : (match saveRecord "key_sig" sampleRecord sampleDirectory with
      | .ok _ _ => true
      | .error _ _ => false) = true := by decide +kernel
  split at succeeds
  · rename_i saved
    exact ⟨_, saved, records_read_back.2.1.keys.saved saved⟩
  · cases succeeds

end Store

end PgpCard
