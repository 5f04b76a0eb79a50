import PgpCard.Proofs.Card.Outcomes
import PgpCard.Proofs.Card.Reading
import PgpCard.Proofs.Store.Journal

/-!
# Setting a store up

A setup writes all that a new card keeps, cell after cell, in an order of its own; where the store
refuses a write, the cells before it have been written and the others are as they were.

* `Cell.fresh` : what a new card keeps in a cell, and `Cell.setup` the entry that writes it;
* `SetsUp act memory cells memory'` : the computation `act` writes some cells in order, or the
  cells before one that the store refuses;
* `makeFactory_setsUp` : the whole setup writes all cells, the mark of the store last;
* `makeFactory_leads_store` : what the store has in each cell afterwards.
-/

set_option autoImplicit false

namespace PgpCard

namespace Cell

/-- What a new card keeps in a cell. -/
def fresh : Cell → Bytes ⊕ UInt16
  | secret id => .inl (Record.encode (Secrets.factory.record id))
  | slot _ => .inl (Record.encode KeyRecord.empty)
  | counter => .inl (Bytes.ofNat KeySlots.counterLength 0)
  | objects => .inl (Record.encode ({} : DataObjects))
  | lasting | terminated => .inr 0
  | layout => .inr Card.layoutVersion
  | ready => .inr 1

/-- The entry of the journal that writes it. -/
def setup : Cell → JournalEntry
  | secret id => .blob id.recordName (Record.encode (Secrets.factory.record id))
  | slot id => .blob id.recordName (Record.encode KeyRecord.empty)
  | counter => .blob KeySlots.counterName (Bytes.ofNat KeySlots.counterLength 0)
  | objects => .blob DataObjects.recordName (Record.encode ({} : DataObjects))
  | lasting => .byte Card.pw1StatusKey 0
  | terminated => .byte Card.terminatedKey 0
  | layout => .word Card.layoutKey Card.layoutVersion
  | ready => .byte Card.readyKey 1

/-- The cells in the order in which a setup writes them. -/
def setupOrder : List Cell :=
  [.secret .pw1, .secret .pw3, .secret .rc, .slot .signature, .slot .decryption,
    .slot .authentication, .counter, .objects, .lasting, .terminated, .layout, .ready]

theorem mem_setupOrder (cell : Cell) : cell ∈ setupOrder := by
  cases cell with
  | secret id | slot id => cases id <;> decide
  | _ => decide

/-- A setup that has not come to its end has not written the mark. -/
theorem ready_not_mem {done rest : List Cell} (order : setupOrder = done ++ rest)
    (some : rest ≠ []) : ready ∉ done := by
  intro written
  have once : (done ++ rest).Nodup := order ▸ (by decide : setupOrder.Nodup)
  have last : ready ∈ rest := by
    have ends : (done ++ rest).getLast (by simp [some]) = ready := by simp [← order, setupOrder]
    rw [List.getLast_append_of_ne_nil _ some] at ends
    exact ends ▸ List.getLast_mem some
  exact (List.nodup_append.mp once).2.2 _ written _ last rfl

theorem content?_setup (cell : Cell) (place : Place) :
    cell.setup.content? place = if place = cell.place then some cell.fresh else none := by
  cases cell <;> rfl

/-- What is written is what a new card keeps. -/
theorem denotes_fresh (cell : Cell) : cell.Denotes .factory cell.fresh := by
  cases cell with
  | secret id => exact Record.decode?_encode _
  | slot id =>
    change Record.decode? _ = some (KeySlots.factory.slot id).record
    rw [KeySlots.slot_factory]
    exact Record.decode?_encode _
  | counter => exact ⟨Bytes.length_ofNat _ _, Card.toNat_counter (by decide)⟩
  | objects => exact Record.decode?_encode _
  | _ => rfl

/-- Setting cells up leaves the others as they were. -/
theorem replay_setup (cell : Cell) (cells : List Cell) (old : Option (Bytes ⊕ UInt16)) :
    replay cell.place (cells.map setup) old = if cell ∈ cells then some cell.fresh else old := by
  induction cells generalizing old with
  | nil => rfl
  | cons first rest ih =>
    rw [List.map_cons, replay, List.foldl_cons]
    change replay cell.place (rest.map setup) ((first.setup.content? cell.place).or old) = _
    rw [ih, content?_setup]
    by_cases same : cell = first
    · subst same
      simp
    · have apart : cell.place ≠ first.place := fun place => same (place_inj place)
      simp [apart, same]

end Cell

namespace Card

open Attempt

variable {β γ : Type}

/-- A store has in every cell what a new card keeps there. -/
def Pristine (store : MemoryStore) : Prop :=
  ∀ cell : Cell, store.at? cell.place = some cell.fresh

theorem Pristine.holds {store : MemoryStore} (h : Pristine store) : Holds store .factory :=
  fun cell => ⟨cell.fresh, h cell, cell.denotes_fresh⟩

/-! ## The parts of the setup -/

/-- A part of the setup writes some cells in order; where the store refuses a write, it has written
the cells before. -/
def SetsUp (act : Attempt StoreError (Kept β FlakyStore) Unit) (memory : β) (cells : List Cell)
    (memory' : β) : Prop :=
  Logs act memory fun r final entries =>
    match r with
    | .ok () => final = memory' ∧ entries = cells.map Cell.setup
    | .error _ => ∃ done rest refused, cells = done ++ rest ∧ rest ≠ [] ∧
      refused.isRefusal = true ∧ entries = done.map Cell.setup ++ [refused]

namespace SetsUp

variable {act : Attempt StoreError (Kept β FlakyStore) Unit}
  {next : Unit → Attempt StoreError (Kept β FlakyStore) Unit} {memory memory' memory'' : β}
  {cells later : List Cell}

theorem bind (first : SetsUp act memory cells memory')
    (second : SetsUp (next ()) memory' later memory'') :
    SetsUp (act >>= next) memory (cells ++ later) memory'' := by
  refine Logs.bind (first.mono ?_)
  rintro (e | ⟨⟩) middle entries ends
  · obtain ⟨done, rest, refused, rfl, some, kind, rfl⟩ := ends
    exact ⟨done, rest ++ later, refused, List.append_assoc _ _ _, by simp [some], kind, rfl⟩
  · obtain ⟨rfl, rfl⟩ := ends
    refine second.mono ?_
    rintro (e | ⟨⟩) final entries ends
    · obtain ⟨done, rest, refused, rfl, some, kind, rfl⟩ := ends
      exact ⟨cells ++ done, rest, refused, (List.append_assoc _ _ _).symm, some, kind, by simp⟩
    · obtain ⟨rfl, rfl⟩ := ends
      exact ⟨rfl, by simp⟩

theorem adjust (change : β → β) : SetsUp (Kept.adjust change) memory [] (change memory) :=
  Logs.adjust ⟨rfl, rfl⟩

theorem onPart {part : β → γ} {put : γ → β → β} {act : Attempt StoreError (Kept γ FlakyStore) Unit}
    {inner : γ} (h : SetsUp act (part memory) cells inner) :
    SetsUp (Kept.onPart part put act) memory cells (put inner memory) := by
  refine Logs.onPart (h.mono ?_)
  rintro (e | ⟨⟩) final entries ends
  · exact ends
  · exact ⟨congrArg (put · memory) ends.1, ends.2⟩

/-- The store refuses the only write of a part. -/
theorem refused {cell : Cell} {refused : JournalEntry} (kind : refused.isRefusal = true) :
    ∃ done rest refused', [cell] = done ++ rest ∧ rest ≠ [] ∧ refused'.isRefusal = true ∧
      [refused] = done.map Cell.setup ++ [refused'] :=
  ⟨[], [cell], refused, rfl, List.cons_ne_nil _ _, kind, rfl⟩

theorem writeBlob (cell : Cell) {name : String} {data : Bytes}
    (entry : cell.setup = .blob name data) :
    SetsUp (Kept.onStore (Backend.writeBlob name data)) memory [cell] memory :=
  Logs.writeBlob ⟨rfl, by simp [entry]⟩ fun _ => refused rfl

theorem writeByte (cell : Cell) {key : String} {value : UInt8}
    (entry : cell.setup = .byte key value) :
    SetsUp (Kept.onStore (Backend.writeByte key value)) memory [cell] memory :=
  Logs.writeByte ⟨rfl, by simp [entry]⟩ fun _ => refused rfl

theorem writeWord (cell : Cell) {key : String} {value : UInt16}
    (entry : cell.setup = .word key value) :
    SetsUp (Kept.onStore (Backend.writeWord key value)) memory [cell] memory :=
  Logs.writeWord ⟨rfl, by simp [entry]⟩ fun _ => refused rfl

end SetsUp

theorem persist_setsUp (id : SecretId) :
    SetsUp (Secrets.persist id) Secrets.factory [.secret id] .factory :=
  Logs.held_bind (SetsUp.writeBlob (.secret id) rfl)

theorem makeSecrets_setsUp (secrets : Secrets) :
    SetsUp Secrets.makeFactory secrets [.secret .pw1, .secret .pw3, .secret .rc] .factory := by
  refine SetsUp.bind (SetsUp.adjust _) ?_
  refine SetsUp.bind (persist_setsUp .pw1) ?_
  exact SetsUp.bind (persist_setsUp .pw3) (persist_setsUp .rc)

theorem makeKeys_setsUp (keys : KeySlots) :
    SetsUp KeySlots.makeFactory keys
      [.slot .signature, .slot .decryption, .slot .authentication, .counter] .factory := by
  refine SetsUp.bind (SetsUp.adjust _) ?_
  refine SetsUp.bind (SetsUp.writeBlob (.slot .signature) rfl) ?_
  refine SetsUp.bind (SetsUp.writeBlob (.slot .decryption) rfl) ?_
  refine SetsUp.bind (SetsUp.writeBlob (.slot .authentication) rfl) ?_
  exact SetsUp.writeBlob .counter rfl

theorem makeObjects_setsUp (objects : DataObjects) :
    SetsUp DataObjects.makeFactory objects [.objects] {} :=
  SetsUp.bind (SetsUp.adjust _) (SetsUp.writeBlob .objects rfl)

/-- The whole setup writes all cells, the mark of the store last. -/
theorem makeFactory_setsUp (memory : Memory) :
    SetsUp makeFactory memory Cell.setupOrder memory.renewed := by
  refine SetsUp.bind (SetsUp.onPart (makeSecrets_setsUp _)) ?_
  refine SetsUp.bind (SetsUp.onPart (makeKeys_setsUp _)) ?_
  refine SetsUp.bind (SetsUp.onPart (makeObjects_setsUp _)) ?_
  refine SetsUp.bind (SetsUp.writeByte .lasting rfl) ?_
  refine SetsUp.bind (SetsUp.writeByte .terminated rfl) ?_
  refine SetsUp.bind (SetsUp.writeWord .layout rfl) ?_
  refine SetsUp.bind (SetsUp.writeByte .ready rfl) ?_
  exact SetsUp.adjust _

/-- A store in which a setup was cut off: the cells before one that was refused have been written,
and the others are as they were. -/
structure CutOff (store store' : FlakyStore) (done rest : List Cell) : Prop where
  order : Cell.setupOrder = done ++ rest
  unfinished : rest ≠ []
  content : ∀ cell : Cell, store'.inner.at? cell.place =
    if cell ∈ done then some cell.fresh else store.inner.at? cell.place
  refused : ¬ store.Reliable

/-- A setup that ends well leaves what a new card keeps in every cell. -/
theorem makeFactory_leads_store (memory : Memory) (store : FlakyStore) :
    makeFactory.Leads ⟨memory, store⟩ fun r final =>
      match r with
      | .ok () => final.memory = memory.renewed ∧ Pristine final.store.inner
      | .error _ => ∃ done rest, CutOff store final.store done rest := by
  refine (makeFactory_setsUp memory store).mono ?_
  rintro (e | ⟨⟩) final ⟨entries, grows, ends⟩
  · obtain ⟨done, rest, refused, order, some, kind, rfl⟩ := ends
    refine ⟨done, rest, order, some, fun cell => ?_, fun reliable => ?_⟩
    · rw [grows.content, replay_append, Cell.replay_setup]
      exact replay_of_quiet (by simpa using JournalEntry.content?_of_isRefusal kind _) _
    · obtain ⟨n, later, fails⟩ := grows.refused refused (by simp) kind
      cases (reliable.writes n later).symm.trans fails
  · obtain ⟨renewed, rfl⟩ := ends
    refine ⟨renewed, fun cell => ?_⟩
    rw [grows.content, Cell.replay_setup, if_pos cell.mem_setupOrder]

end Card

end PgpCard
