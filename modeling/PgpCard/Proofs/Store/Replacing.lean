import PgpCard.Proofs.Store.Volume
import PgpCard.Store.Directory

/-!
# Replacing a file

A file is replaced by way of a sibling.  Wherever the steps of that are refused or cut off, the
file has its old content or the new one, and nothing but the sibling has changed besides.

* `Volume.Replaced`       : what has become of a volume, the sibling left out;
* `leads_replaceFile`     : the outcome tells which of the two contents the file has;
* `replaceFile_of_reliable` : a file whose names can be used is replaced where no step fails.
-/

set_option autoImplicit false

namespace PgpCard

open Attempt

/-! ## All but the sibling -/

namespace Volume

/-- The target has a content, and all else but the sibling is as it was. -/
structure Replaced (sibling target : Path) (content : Option Node) (before after : Volume) :
    Prop where
  node? : ∀ path, path ≠ sibling →
    after.node? path = if path = target then content else before.node? path
  isDirectory : ∀ path, after.isDirectory path = before.isDirectory path

variable {sibling target : Path} {content : Option Node} {data : Bytes}
  {before volume after : Volume}

theorem Replaced.refl : Replaced sibling target (before.node? target) before before where
  node? path _ := by
    split
    · rename_i same
      rw [same]
    · rfl
  isDirectory _ := rfl

theorem Replaced.alike (h : Replaced sibling target content before volume)
    (alike : Alike volume after) : Replaced sibling target content before after where
  node? path other := (alike.node? path).trans (h.node? path other)
  isDirectory path := (alike.isDirectory path).trans (h.isDirectory path)

theorem isDirectory_put_file (path : Path) {place : Path} (named : place ≠ [])
    (clear : volume.isDirectory place = false) :
    (volume.put place (.file data)).isDirectory path = volume.isDirectory path := by
  by_cases here : path = place
  · rw [here, clear, isDirectory, node?_put_self named]
  · exact isDirectory_congr (node?_put_of_ne here)

theorem isDirectory_drop (path : Path) {place : Path} (named : place ≠ [])
    (clear : volume.isDirectory place = false) :
    (volume.drop place).isDirectory path = volume.isDirectory path := by
  by_cases here : path = place
  · rw [here, clear, isDirectory, node?_drop_self named]
  · exact isDirectory_congr (node?_drop_of_ne here)

section Clear

variable (h : Replaced sibling target content before volume) (named : sibling ≠ [])
  (clear : before.isDirectory sibling = false)

include h named clear

theorem Replaced.put :
    Replaced sibling target content before (volume.put sibling (.file data)) where
  node? path other := (node?_put_of_ne other).trans (h.node? path other)
  isDirectory path :=
    (isDirectory_put_file path named ((h.isDirectory sibling).trans clear)).trans
      (h.isDirectory path)

theorem Replaced.drop : Replaced sibling target content before (volume.drop sibling) where
  node? path other := (node?_drop_of_ne other).trans (h.node? path other)
  isDirectory path :=
    (isDirectory_drop path named ((h.isDirectory sibling).trans clear)).trans (h.isDirectory path)

theorem Replaced.move (named' : target ≠ []) (clear' : before.isDirectory target = false) :
    Replaced sibling target (some (.file data)) before
      ((volume.drop sibling).put target (.file data)) where
  node? path other := by
    by_cases here : path = target
    · rw [here, node?_put_self named', if_pos rfl]
    · rw [node?_put_of_ne here, if_neg here, (h.drop named clear).node? path other, if_neg here]
  isDirectory path :=
    (isDirectory_put_file path named'
      (((h.drop named clear).isDirectory target).trans clear')).trans
      ((h.drop named clear).isDirectory path)

end Clear

/-! ## The steps of writing -/

/-- The place of a file in a directory. -/
def placeOf (directory : Path) (file : String) : Path := settle [] directory ++ [file]

/-- A file that may stand in a directory: its name is a name, the directory can be walked to, and
no directory is in its place. -/
structure Stands (directory : Path) (file : String) (volume : Volume) : Prop where
  isName : IsName file
  walkable : Walkable volume [] directory
  clear : volume.isDirectory (placeOf directory file) = false

section Steps

variable {directory : Path} {file temporary : String}

theorem placeOf_ne_nil : placeOf directory file ≠ [] := by
  simp [placeOf]

theorem Stands.congr (stands : Stands directory file before)
    (same : ∀ path, volume.isDirectory path = before.isDirectory path) :
    Stands directory file volume where
  isName := stands.isName
  walkable := stands.walkable.mono fun path h => (same path).trans h
  clear := (same _).trans stands.clear

theorem Stands.locate_eq_ok (stands : Stands directory file volume) {place : Path} :
    volume.locate (directory ++ [file]) = .ok place ↔
      Takes (directory ++ [file]) ∧ place = placeOf directory file :=
  locate_eq_ok_iff stands.isName stands.walkable

theorem read_eq_ok {path : Path} :
    volume.read path = .ok data ↔
      ∃ place, volume.locate path = .ok place ∧ volume.node? place = some (.file data) := by
  unfold read
  cases volume.locate path with
  | error e => exact ⟨nofun, fun ⟨_, located, _⟩ => nomatch located⟩
  | ok place =>
    cases stands : volume.node? place with
    | none => simp [stands]
    | some node => cases node <;> simp [stands]

variable (beside : Stands directory temporary before)
  (h : Replaced (placeOf directory temporary) target content before volume)

include beside h

theorem leads_create :
    (create (directory ++ [temporary])).Leads volume fun _ after =>
      Replaced (placeOf directory temporary) target content before after := by
  refine leads_step (fun counted after alike changed => ?_) fun _ after => h.alike
  have same := h.alike alike
  split at changed
  · cases changed
  rename_i place located
  obtain ⟨-, rfl⟩ := (beside.congr same.isDirectory).locate_eq_ok.mp located
  split at changed
  · cases changed
  · cases changed
    exact same.put placeOf_ne_nil beside.clear

theorem leads_fill (data : Bytes) :
    (fill (directory ++ [temporary]) data).Leads volume fun r after =>
      Replaced (placeOf directory temporary) target content before after ∧
        (r = .ok () → after.node? (placeOf directory temporary) = some (.file data)) := by
  refine leads_step (fun counted after alike changed => ?_) fun _ after alike =>
    ⟨h.alike alike, nofun⟩
  have same := h.alike alike
  split at changed
  · cases changed
  rename_i place located
  obtain ⟨-, rfl⟩ := (beside.congr same.isDirectory).locate_eq_ok.mp located
  cases changed
  exact ⟨same.put placeOf_ne_nil beside.clear, fun _ => node?_put_self placeOf_ne_nil⟩

omit beside in
theorem leads_flush :
    flush.Leads volume fun _ after =>
      Replaced (placeOf directory temporary) target content before after ∧
        Alike volume after := by
  refine leads_step (fun counted after alike changed => ?_) fun _ after alike =>
    ⟨h.alike alike, alike⟩
  cases changed
  exact ⟨h.alike alike, alike⟩

theorem leads_remove :
    (remove (directory ++ [temporary])).Leads volume fun _ after =>
      Replaced (placeOf directory temporary) target content before after := by
  refine leads_step (fun counted after alike changed => ?_) fun _ after => h.alike
  have same := h.alike alike
  split at changed
  · rename_i place _ located
    obtain ⟨-, rfl⟩ := (beside.congr same.isDirectory).locate_eq_ok.mp located
    cases changed
    exact same.drop placeOf_ne_nil beside.clear
  · cases changed
  · cases changed

end Steps

section Move

variable {directory : Path} {file temporary : String}
  (beside : Stands directory temporary before) (standing : Stands directory file before)

include beside standing

theorem leads_move
    (h : Replaced (placeOf directory temporary) (placeOf directory file) content before volume)
    (filled : volume.node? (placeOf directory temporary) = some (.file data)) :
    (move (directory ++ [temporary]) (directory ++ [file])).Leads volume fun r after =>
      match r with
      | .ok () => (Takes (directory ++ [temporary]) ∧ Takes (directory ++ [file])) ∧
        Replaced (placeOf directory temporary) (placeOf directory file) (some (.file data))
          before after
      | .error _ =>
        Replaced (placeOf directory temporary) (placeOf directory file) content before after := by
  refine leads_step (fun counted after alike changed => ?_) fun _ after => h.alike
  have same := h.alike alike
  split at changed
  · rename_i moved old new found located located'
    obtain ⟨takes, rfl⟩ := (beside.congr same.isDirectory).locate_eq_ok.mp located
    obtain ⟨takes', rfl⟩ := (standing.congr same.isDirectory).locate_eq_ok.mp located'
    obtain ⟨place, located'', found⟩ := read_eq_ok.mp found
    rw [located, Except.ok.injEq] at located''
    rw [← located'', alike.node?, filled] at found
    cases found
    split at changed
    · cases changed
    · cases changed
      exact ⟨⟨takes, takes'⟩,
        same.move placeOf_ne_nil beside.clear placeOf_ne_nil standing.clear⟩
  all_goals cases changed

end Move

section Reliable

variable {directory : Path} {file temporary : String} (reliable : volume.Reliable)

include reliable

theorem create_of_reliable (standing : Stands directory file volume)
    (takes : Takes (directory ++ [file])) :
    ∃ after, create (directory ++ [file]) volume = .ok () after ∧ after.Reliable := by
  refine step_of_reliable reliable fun counted alike =>
    ⟨counted.put (placeOf directory file) (.file []), ?_,
      (alike.reliable reliable).put⟩
  have here := standing.congr alike.isDirectory
  simp only [here.locate_eq_ok.mpr ⟨takes, rfl⟩]
  rw [if_neg (by simp [here.clear])]

theorem fill_of_reliable (standing : Stands directory file volume)
    (takes : Takes (directory ++ [file])) (data : Bytes) :
    ∃ after, fill (directory ++ [file]) data volume = .ok () after ∧ after.Reliable := by
  refine step_of_reliable reliable fun counted alike =>
    ⟨counted.put (placeOf directory file) (.file data), ?_,
      (alike.reliable reliable).put⟩
  have here := standing.congr alike.isDirectory
  simp only [here.locate_eq_ok.mpr ⟨takes, rfl⟩]

theorem flush_of_reliable : ∃ after, flush volume = .ok () after ∧ after.Reliable :=
  step_of_reliable reliable fun counted alike => ⟨counted, rfl, alike.reliable reliable⟩

theorem move_of_reliable (beside : Stands directory temporary volume)
    (standing : Stands directory file volume) (takes : Takes (directory ++ [temporary]))
    (takes' : Takes (directory ++ [file]))
    (filled : volume.node? (placeOf directory temporary) = some (.file data)) :
    ∃ after, move (directory ++ [temporary]) (directory ++ [file]) volume = .ok () after ∧
      after.Reliable := by
  refine step_of_reliable reliable fun counted alike =>
    ⟨(counted.drop (placeOf directory temporary)).put (placeOf directory file) (.file data), ?_,
      (alike.reliable reliable).drop.put⟩
  have source := (beside.congr alike.isDirectory).locate_eq_ok.mpr ⟨takes, rfl⟩
  have target := (standing.congr alike.isDirectory).locate_eq_ok.mpr ⟨takes', rfl⟩
  have found := read_eq_ok.mpr ⟨_, source, (alike.node? _).trans filled⟩
  simp only [found, source, target]
  rw [if_neg (by simp [(standing.congr alike.isDirectory).clear])]

end Reliable

end Volume

/-! ## Replacing a file of a store -/

namespace DirectoryStore

open Volume

variable {store : DirectoryStore} {directory : Path} {file temporary : String} {data : Bytes}

theorem leads_onVolume {α : Type} {place : Path} {act : Attempt VolumeError Volume α}
    {post : Except StoreError α → DirectoryStore → Prop} :
    (onVolume place act).Leads store post ↔
      act.Leads store.volume fun r volume =>
        post (r.mapError fun _ => failureAt store.directory place) { store with volume } := by
  simp only [Leads, onVolume]
  cases act store.volume <;> rfl

/-- What a replacement comes to: a success tells that the names could be used and that the file has
the new content, a failure that it has the old one. -/
def Ends (directory : Path) (temporary file : String) (data : Bytes) (before : Volume)
    (r : Except StoreError Unit) (after : Volume) : Prop :=
  match r with
  | .ok () => (Takes (directory ++ [temporary]) ∧ Takes (directory ++ [file])) ∧
    Replaced (placeOf directory temporary) (placeOf directory file) (some (.file data)) before after
  | .error _ =>
    Replaced (placeOf directory temporary) (placeOf directory file)
      (before.node? (placeOf directory file)) before after

section

variable (beside : Stands directory temporary store.volume)
  (standing : Stands directory file store.volume)

include beside standing

theorem leads_writeAndMove :
    (writeAndMove (directory ++ [temporary]) (directory ++ [file]) data).Leads store fun r after =>
      ∃ volume, after = { store with volume } ∧
        Ends directory temporary file data store.volume r volume := by
  have start : Replaced (placeOf directory temporary) (placeOf directory file)
    (store.volume.node? (placeOf directory file)) store.volume store.volume := .refl
  refine leads_bind.mpr (leads_onVolume.mpr ((leads_create beside start).mono ?_))
  rintro (e | ⟨⟩) created made
  · exact ⟨created, rfl, made⟩
  refine leads_bind.mpr (leads_onVolume.mpr ((leads_fill beside made data).mono ?_))
  rintro (e | ⟨⟩) written ⟨wrote, filled⟩
  · exact ⟨written, rfl, wrote⟩
  refine leads_bind.mpr (leads_onVolume.mpr ((leads_flush wrote).mono ?_))
  rintro (e | ⟨⟩) flushed ⟨kept, alike⟩
  · exact ⟨flushed, rfl, kept⟩
  -- only now is the old content given up, and in one step
  have filled := (alike.node? _).trans (filled rfl)
  refine leads_onVolume.mpr ((leads_move beside standing kept filled).mono ?_)
  rintro (e | ⟨⟩) moved met
  · exact ⟨moved, rfl, met⟩
  · exact ⟨moved, rfl, met⟩

end

theorem withEnding_append (ending : String) :
    Path.withEnding ending (directory ++ [file]) = directory ++ [Path.rename ending file] := by
  simp [Path.withEnding]

/-- The outcome of a replacement tells which of the two contents the file has. -/
theorem leads_replaceFile
    (beside : Stands directory (Path.rename "tmp" file) store.volume)
    (standing : Stands directory file store.volume) :
    (replaceFile (directory ++ [file]) data).Leads store fun r after =>
      ∃ volume, after = { store with volume } ∧
        Ends directory (Path.rename "tmp" file) file data store.volume r volume := by
  unfold replaceFile
  rw [withEnding_append]
  refine leads_bind.mpr (leads_outcome.mpr ((leads_writeAndMove beside standing).mono ?_))
  rintro (e | ⟨⟩) _ ⟨volume, rfl, met⟩
  · refine leads_bind.mpr (leads_ignored.mpr (leads_onVolume.mpr ?_))
    refine (leads_remove beside met).mono fun _ removed same => ?_
    exact ⟨removed, rfl, same⟩
  · refine leads_get_bind.mpr (leads_ignored.mpr (leads_onVolume.mpr ?_))
    refine (leads_flush met.2).mono ?_
    rintro _ flushed ⟨same, -⟩
    exact ⟨flushed, rfl, met.1, same⟩

theorem onVolume_of_ok {α : Type} {place : Path} {act : Attempt VolumeError Volume α} {a : α}
    {after : Volume} (run : act store.volume = .ok a after) :
    onVolume place act store = .ok a { store with volume := after } := by
  rw [onVolume, run]

/-- A file whose names can be used is replaced where no step fails. -/
theorem replaceFile_of_reliable (reliable : store.volume.Reliable)
    (beside : Stands directory (Path.rename "tmp" file) store.volume)
    (standing : Stands directory file store.volume)
    (takes : Takes (directory ++ [Path.rename "tmp" file])) (takes' : Takes (directory ++ [file])) :
    ∃ volume, replaceFile (directory ++ [file]) data store = .ok () { store with volume } ∧
      volume.Reliable := by
  have start : Replaced (placeOf directory (Path.rename "tmp" file)) (placeOf directory file)
    (store.volume.node? (placeOf directory file)) store.volume store.volume := .refl
  obtain ⟨created, create, reliable⟩ := create_of_reliable reliable beside takes
  have made := (leads_create beside start).of_ok create
  obtain ⟨written, fill, reliable⟩ :=
    fill_of_reliable reliable (beside.congr made.isDirectory) takes data
  obtain ⟨wrote, filled⟩ := (leads_fill beside made data).of_ok fill
  obtain ⟨flushed, flush, reliable⟩ := flush_of_reliable reliable
  obtain ⟨kept, alike⟩ := (leads_flush wrote).of_ok flush
  obtain ⟨moved, move, reliable⟩ := move_of_reliable reliable (beside.congr kept.isDirectory)
    (standing.congr kept.isDirectory) takes takes' ((alike.node? _).trans (filled rfl))
  obtain ⟨last, flush', reliable⟩ := flush_of_reliable reliable
  refine ⟨last, ?_, reliable⟩
  have run : writeAndMove (directory ++ [Path.rename "tmp" file]) (directory ++ [file]) data store =
      .ok () { store with volume := moved } := by
    unfold writeAndMove
    rw [bind_of_ok (onVolume_of_ok create), bind_of_ok (onVolume_of_ok fill),
      bind_of_ok (onVolume_of_ok flush)]
    exact onVolume_of_ok move
  have outcome : ((writeAndMove (directory ++ [Path.rename "tmp" file]) (directory ++ [file])
      data).outcome : Attempt StoreError DirectoryStore (Except StoreError Unit)) store =
        .ok (.ok ()) { store with volume := moved } := by
    rw [Attempt.outcome, run]
  have ignored : ((onVolume store.directory Volume.flush).ignored :
      Attempt StoreError DirectoryStore Unit) { store with volume := moved } =
        .ok () { store with volume := last } := by
    rw [Attempt.ignored, onVolume_of_ok flush']
  unfold replaceFile
  rw [withEnding_append, bind_of_ok outcome]
  exact ignored

end DirectoryStore

end PgpCard
