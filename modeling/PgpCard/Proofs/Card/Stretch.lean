import PgpCard.Proofs.Card.Trail

/-!
# Stretches of a card's life

What a card compares is in the journal of its store, so a stretch of its life, with losses of power
in between, has a journal as well: the entries of its events, one after another.

* `MemoryStore.secret?`, `comparisons` : what a store has of a secret, and how often some entries
  say that a candidate for it was compared;
* `Event`, `Occurrence`, `trace` : a stretch, with the situation that each event meets;
* `restart_trail`, `frame_trail` : what one event adds to the journal;
* `sound_of_mem_trace` : every situation of a stretch is sound if the first one is.
-/

set_option autoImplicit false

namespace PgpCard

open Card

/-! ## Records in a store -/

namespace MemoryStore

variable {store store' : MemoryStore} {id : SecretId}

/-- The record that a store has of a secret. -/
def secret? (store : MemoryStore) (id : SecretId) : Option SecretRecord :=
  (store.blobs.find? id.recordName).bind Record.decode?

theorem secret?_of_at? {text : Bytes}
    (found : store.at? (.blob id.recordName) = some (.inl text)) :
    store.secret? id = Record.decode? text := by
  rw [secret?, find?_blobs_of_at? found]
  rfl

theorem secret?_congr
    (same : store'.at? (.blob id.recordName) = store.at? (.blob id.recordName)) :
    store'.secret? id = store.secret? id := by
  rw [secret?, secret?, find?_blobs_congr same]

end MemoryStore

/-- What a situation keeps of a card when its power is lost. -/
def Situation.store : Situation → MemoryStore
  | .off store => store
  | .on card => card.store.inner

namespace Card

theorem Holds.secret? {store : MemoryStore} {kept : Persistent} (holds : Holds store kept)
    (id : SecretId) : store.secret? id = some (kept.secrets.record id) := by
  obtain ⟨content, found, denotes⟩ := holds (.secret id)
  cases content with
  | inl text => exact (MemoryStore.secret?_of_at? found).trans denotes
  | inr value => cases denotes

/-- A store that holds everything has the mark. -/
theorem Holds.not_unmarked {store : MemoryStore} {kept : Persistent} (holds : Holds store kept) :
    ¬ Unmarked store := by
  intro unmarked
  obtain ⟨content, found, -⟩ := holds .ready
  cases unmarked.symm.trans found

variable {trusted : Prop}

theorem SoundOn.not_unmarked {card : Card FlakyStore} (sound : SoundOn trusted card) :
    ¬ Unmarked card.store.inner := by
  obtain ⟨kept, durable, -⟩ := sound.durable
  exact durable.holds.not_unmarked

/-- A store that is set up holds everything. -/
theorem Sound.holds {situation : Situation} (sound : Sound trusted situation)
    (marked : ¬ Unmarked situation.store) : ∃ kept, Holds situation.store kept := by
  cases situation with
  | off store =>
    have sound : Unmarked store ∨ ∃ kept, Durable trusted store kept := sound
    obtain ⟨kept, durable⟩ := sound.resolve_left marked
    exact ⟨kept, durable.holds⟩
  | on card =>
    obtain ⟨kept, durable, -⟩ := SoundOn.durable sound
    exact ⟨kept, durable.holds⟩

end Card

/-! ## What the journal says of a record -/

/-- How often some entries say that a candidate for a secret was compared. -/
def comparisons (id : SecretId) (entries : List JournalEntry) : Nat :=
  entries.count (.audit (.compared id))

/-- The entries that a store has added to its journal since it was another one, in order of time. -/
def FaultyStore.since {σ : Type} (store before : FaultyStore σ) : List JournalEntry :=
  (store.journal.take (store.journal.length - before.journal.length)).reverse

section Journal

variable {id : SecretId} {store store' : FlakyStore} {entries earlier later : List JournalEntry}

theorem Grows.since (grows : Grows store entries store') : store'.since store = entries := by
  rw [FaultyStore.since, grows.journal]
  simp

theorem comparisons_of_writesOnly {allowed : SecretId → Prop}
    (only : ∀ entry ∈ entries, entry.WritesOnly allowed) : comparisons id entries = 0 := by
  apply List.count_eq_zero.mpr
  intro member
  exact only _ member

theorem Grows.secret?_of_not_written (grows : Grows store entries store')
    (unwritten : ∀ data, .blob id.recordName data ∉ entries) :
    store'.inner.secret? id = store.inner.secret? id :=
  MemoryStore.secret?_congr (grows.at?_of_not_written unwritten)

/-- A store has the record that was written last. -/
theorem Grows.secret?_of_written {record : SecretRecord}
    (grows : Grows store (.blob id.recordName (Record.encode record) :: later) store')
    (unwritten : ∀ data, .blob id.recordName data ∉ later) :
    store'.inner.secret? id = some record := by
  rw [MemoryStore.secret?_of_at? (grows.at?_of_written unwritten), Record.decode?_encode]

/-- An attempt that is paid for takes one away. -/
theorem SecretRecord.toNat_spent {record : SecretRecord} (some_left : record.isBlocked = false) :
    record.spent.remaining.toNat + 1 = record.remaining.toNat := by
  have some_left : record.remaining ≠ 0 := by simpa [isBlocked] using some_left
  have positive : 0 < record.remaining.toNat := by
    apply Nat.pos_of_ne_zero
    intro zero
    exact some_left (UInt8.toNat_inj.mp zero)
  have least : 1 ≤ record.remaining := by
    rw [UInt8.le_iff_toNat_le]
    exact positive
  show (record.remaining - 1).toNat + 1 = record.remaining.toNat
  rw [UInt8.toNat_sub_of_le _ _ least]
  show record.remaining.toNat - 1 + 1 = record.remaining.toNat
  omega

section Paid

variable {secrets : Secrets} {other : SecretId} {allowed : SecretId → Prop}

/-- An attempt that is paid for compares once, and with its own secret. -/
theorem comparisons_of_paid (paid : secrets.Paid other allowed entries) :
    comparisons id entries = if other = id then 1 else 0 := by
  obtain ⟨rest, rfl, only⟩ := paid.order
  have uncompared : List.count (.audit (.compared id)) rest = 0 := comparisons_of_writesOnly only
  simp [comparisons, List.count_cons, uncompared]

/-- A comparison comes right after the write that pays for it. -/
theorem eq_of_paid (paid : secrets.Paid other allowed entries)
    (order : entries = earlier ++ .audit (.compared id) :: later) :
    other = id ∧ earlier = [.blob id.recordName (Record.encode (secrets.record id).spent)] := by
  obtain ⟨rest, same, only⟩ := paid.order
  rw [same] at order
  match earlier with
  | [] => cases order
  | [_] =>
    cases order
    exact ⟨rfl, rfl⟩
  | _ :: _ :: more =>
    simp only [List.cons_append, List.cons.injEq] at order
    obtain ⟨-, -, rfl⟩ := order
    exact (only (.audit (.compared id)) (by simp)).elim

end Paid

end Journal

/-! ## Stretches -/

namespace Card

/-- What a card can meet. -/
inductive Event
  /-- A frame, with what the outside gives during it. -/
  | frame (env : Environment) (bytes : Bytes)
  /-- A loss of power, after which the card is opened again on its store; the store gets new
  schedules of failures. -/
  | restart (profile : Profile) (readFails writeFails : Nat → Bool)

namespace Event

/-- The entries that an event adds to the journal, and the situation afterwards. -/
def run : Event → Situation → List JournalEntry × Situation
  | .frame env bytes, .on card =>
    let after := (process env bytes card).2
    (after.store.since card.store, .on after)
  | .frame _ _, .off store => ([], .off store)
  | .restart profile readFails writeFails, situation =>
    let store : FlakyStore := { inner := situation.store, readFails, writeFails }
    match openOn profile store with
    | .ok memory opened => (opened.since store, .on ⟨memory, opened⟩)
    | .error _ failed => (failed.since store, .off failed.inner)

end Event

/-- An event with the situation that it meets. -/
structure Occurrence where
  event : Event
  situation : Situation

/-- A stretch of events, each with the situation that it meets. -/
def trace : List Event → Situation → List Occurrence
  | [], _ => []
  | event :: rest, situation => ⟨event, situation⟩ :: trace rest (event.run situation).2

namespace Occurrence

/-- The entries that the event adds to the journal. -/
def trail (o : Occurrence) : List JournalEntry := (o.event.run o.situation).1

/-- The situation afterwards. -/
def after (o : Occurrence) : Situation := (o.event.run o.situation).2

end Occurrence

section Events

variable {id : SecretId}

/-- What the card on which a command is answered has in memory is what the store holds. -/
theorem holds_ready {card ready : Card FlakyStore} (sound : SoundOn False card)
    (found : ready? card = some ready) :
    Holds ready.store.inner ready.memory.persistent ∧ ready.store.inner = card.store.inner := by
  obtain ⟨fresh, reads, same⟩ := store_ready found
  exact ⟨((sound_ready sound found).fresh fresh).holds, by rw [same]⟩

/-! ## One event -/

/-- An opening notes nothing, and writes what a card keeps. -/
theorem openOn_logs (profile : Profile) (store : FlakyStore) :
    (openOn profile).Leads store fun _ final =>
      ∃ entries, Grows store entries final ∧
        ∀ entry ∈ entries, entry.Within (· ∈ recordNames) fun _ => False := by
  rw [openOn_leads]
  refine (readByte_mirrors readyKey store).mono ?_
  rintro (e | mark) middle ⟨⟨reads, -, rfl⟩, -, -⟩
  · exact ⟨[], .read store reads, List.forall_mem_nil _⟩
  · dsimp only
    split
    · refine (reload_leads _).mono ?_
      rintro (e | ⟨⟩) final ⟨⟨reads', same⟩, -⟩
      · rw [same]
        exact ⟨[], .read store reads', List.forall_mem_nil _⟩
      · rw [same]
        exact ⟨[], .read store reads', List.forall_mem_nil _⟩
    · have emits : Emits (JournalEntry.Within (· ∈ recordNames) fun _ => False) makeFactory :=
        makeFactory_emits fun _ own => own
      refine (emits { profile } { store with reads }).mono ?_
      rintro (e | ⟨⟩) final ⟨entries, grows, only⟩
      · exact ⟨entries, (Grows.read store reads).trans grows, only⟩
      · exact ⟨entries, (Grows.read store reads).trans grows, only⟩

/-- What an opening comes to, a loss of power comes to. -/
theorem run_restart (property : List JournalEntry × Situation → Prop) {profile : Profile}
    {readFails writeFails : Nat → Bool} {situation : Situation}
    (opens : (openOn profile).Leads
      ({ inner := situation.store, readFails, writeFails } : FlakyStore) fun r final =>
        property (final.since { inner := situation.store, readFails, writeFails },
          match r with
          | .ok memory => .on ⟨memory, final⟩
          | .error _ => .off final.inner)) :
    property (Event.run (.restart profile readFails writeFails) situation) := by
  simp only [Event.run]
  split
  · rename_i ended
    exact opens.of_ok ended
  · rename_i ended
    exact opens.of_error ended

theorem restart_emits {profile : Profile} {readFails writeFails : Nat → Bool}
    {situation : Situation} :
    ∀ entry ∈ (Event.run (.restart profile readFails writeFails) situation).1,
      entry.Within (· ∈ recordNames) fun _ => False := by
  apply run_restart fun ran => ∀ entry ∈ ran.1, entry.Within (· ∈ recordNames) fun _ => False
  refine (openOn_logs profile _).mono ?_
  rintro r final ⟨entries, grows, only⟩
  rw [grows.since]
  exact only

theorem restart_trail {profile : Profile} {readFails writeFails : Nat → Bool}
    {situation : Situation} :
    comparisons id (Event.run (.restart profile readFails writeFails) situation).1 = 0 :=
  List.count_eq_zero.mpr fun member => restart_emits _ member

theorem sound_run (event : Event) {situation : Situation} (sound : Sound False situation) :
    Sound False (event.run situation).2 := by
  cases event with
  | frame env bytes =>
    cases situation with
    | off store => exact sound
    | on card => exact sound_process False.elim bytes sound
  | restart profile readFails writeFails =>
    have off : Sound False (.off situation.store) := by
      cases situation with
      | off store => exact sound
      | on card =>
        obtain ⟨kept, durable, -⟩ := SoundOn.durable sound
        exact .inr ⟨kept, durable⟩
    apply run_restart fun ran => Sound False ran.2
    refine (sound_openOn profile (by exact off)).mono ?_
    rintro (e | memory) final opened
    · exact opened
    · exact opened

/-- What a frame adds to the journal of a sound card: nothing, or what the command that it makes
whole may leave, with the secrets as the store has them. -/
theorem frame_trail {card : Card FlakyStore} (sound : SoundOn False card) (env : Environment)
    (frame : Bytes) :
    ∃ entries, Grows card.store entries (process env frame card).2.store ∧
      (⟨.frame env frame, .on card⟩ : Occurrence).trail = entries ∧
      (entries = [] ∨ ∃ ready whole, Step.Carries ⟨env, frame, card⟩ ready whole ∧
        Trails whole ready.memory.secrets entries ∧
        ∀ id, card.store.inner.secret? id = some (ready.memory.secrets.record id)) := by
  obtain ⟨entries, grows, trails⟩ := process_logs (dispatch_trails env)
    (fun _ _ => .inl (List.forall_mem_nil _)) frame card
  refine ⟨entries, grows, grows.since, ?_⟩
  rcases trails with none | ⟨ready, whole, found, completes, trails⟩
  · exact .inl none
  · obtain ⟨holds, same⟩ := holds_ready sound found
    refine .inr ⟨ready, whole, ⟨found, completes⟩, trails, fun id => ?_⟩
    rw [← same]
    exact holds.secret? id

theorem event_of_mem_trace {events : List Event} {o : Occurrence} :
    ∀ {situation : Situation}, o ∈ trace events situation → o.event ∈ events := by
  induction events with
  | nil => exact fun member => by cases member
  | cons event rest ih =>
    intro situation member
    rcases List.mem_cons.mp member with rfl | member
    · exact List.mem_cons_self
    · exact List.mem_cons_of_mem _ (ih member)

theorem sound_of_mem_trace {events : List Event} {o : Occurrence} :
    ∀ {situation : Situation}, Sound False situation → o ∈ trace events situation →
      Sound False o.situation := by
  induction events with
  | nil => exact fun _ member => by cases member
  | cons event rest ih =>
    intro situation sound member
    rcases List.mem_cons.mp member with rfl | member
    · exact sound
    · exact ih (sound_run event sound) member

end Events

end Card

end PgpCard
