import PgpCard.Proofs.Card.Stretch

/-!
# A card writes only what it keeps

Whatever frames come and whatever the store refuses, a card never writes anywhere but in the places
of its cells.  So a store that was empty at first holds nothing else.

* `Confined` : a store has nothing outside the cells of a card;
* `dispatch_emits` : every entry that a command adds to the journal is about a cell;
* `confined_process`, `confined_openOn` : one step, and `confined_of_reached` : every situation.
-/

set_option autoImplicit false

namespace PgpCard.Card

open Attempt JournalEntry

/-- A store has nothing outside the cells of a card. -/
def Confined (store : MemoryStore) : Prop := ∀ place : Place, ¬ place.Used → store.at? place = none

/-- A place that a card uses is that of a cell. -/
theorem exists_cell_of_used {place : Place} (used : place.Used) :
    ∃ cell : Cell, cell.place = place := by
  cases place with
  | blob name =>
    have named : ∀ name ∈ recordNames, ∃ cell ∈ Cell.setupOrder, cell.place = .blob name := by
      decide
    obtain ⟨cell, -, same⟩ := named name used
    exact ⟨cell, same⟩
  | scalar key =>
    have named : ∀ key ∈ scalarKeys, ∃ cell ∈ Cell.setupOrder, cell.place = .scalar key := by
      decide
    obtain ⟨cell, -, same⟩ := named key used
    exact ⟨cell, same⟩

/-- Two confined stores that agree on all cells agree everywhere. -/
theorem Confined.at?_eq {store store' : MemoryStore} (confined : Confined store)
    (confined' : Confined store')
    (same : ∀ cell : Cell, store.at? cell.place = store'.at? cell.place) (place : Place) :
    store.at? place = store'.at? place := by
  by_cases used : place.Used
  · obtain ⟨cell, rfl⟩ := exists_cell_of_used used
    exact same cell
  · rw [confined place used, confined' place used]

/-- An entry about a cell says nothing of other places. -/
theorem content?_of_within {notes : Audit → Prop} {entry : JournalEntry} {place : Place}
    (within : entry.Within (· ∈ recordNames) notes) (unused : ¬ place.Used) :
    entry.content? place = none := by
  cases entry with
  | byte key | word key =>
    refine if_neg fun same => unused ?_
    rw [same]
    exact within
  | blob name =>
    refine if_neg fun same => unused ?_
    rw [same]
    exact within
  | _ => rfl

/-- A store that grows by entries about cells stays confined. -/
theorem Confined.grows {store final : FlakyStore} {entries : List JournalEntry}
    {notes : Audit → Prop} (confined : Confined store.inner) (grows : Grows store entries final)
    (within : ∀ entry ∈ entries, entry.Within (· ∈ recordNames) notes) : Confined final.inner := by
  intro place unused
  rw [grows.content,
    replay_of_quiet fun entry member => content?_of_within (within entry member) unused]
  exact confined place unused

/-- Every entry that a command adds to the journal is about a cell. -/
theorem dispatch_emits (env : Environment) (cmd : Command) :
    Emits (Within (· ∈ recordNames) fun _ => True) (dispatch env cmd) := by
  have secrets : ∀ id : SecretId, id.recordName ∈ recordNames := fun id => (Cell.secret id).used
  have slots : ∀ id : SlotId, id.recordName ∈ recordNames := fun id => (Cell.slot id).used
  have counts : KeySlots.counterName ∈ recordNames := Cell.counter.used
  have objects : DataObjects.recordName ∈ recordNames := Cell.objects.used
  have notes : ∀ id, (fun _ => True) (Audit.compared id) := fun _ => trivial
  unfold dispatch
  split
  · exact verify_emits secrets notes cmd
  · exact changeReferenceData_emits secrets notes cmd
  · exact resetRetryCounter_emits secrets notes cmd
  · exact performSecurityOperation_emits (fun _ => ⟨counts, trivial⟩) trivial
  · exact internalAuthenticate_emits trivial cmd
  · exact generateKeyPair_emits slots (fun _ _ => counts) env
  · exact Emits.pure
  · exact getData_emits cmd
  · exact putData_emits slots objects fun _ => secrets .rc
  · exact importKey_emits slots cmd
  · exact terminate_emits
  · exact activate_emits fun _ own => own
  · exact Emits.pure
  · exact setRetries_emits secrets cmd
  all_goals exact Emits.throw

/-! ## Steps -/

theorem confined_process (env : Environment) (frame : Bytes) {card : Card FlakyStore}
    (confined : Confined card.store.inner) :
    Confined (process env frame card).2.store.inner := by
  obtain ⟨entries, grows, ends⟩ := process_logs (fun cmd => dispatch_emits env cmd)
    (fun _ _ => List.forall_mem_nil _) frame card
  have within : ∀ entry ∈ entries, entry.Within (· ∈ recordNames) fun _ => True := by
    rcases ends with rfl | ⟨ready, whole, -, -, within⟩
    · exact List.forall_mem_nil _
    · exact within
  exact confined.grows grows within

theorem confined_openOn (profile : Profile) {store : FlakyStore}
    (confined : Confined store.inner) :
    (openOn profile).Leads store fun _ final => Confined final.inner := by
  refine (openOn_logs profile store).mono ?_
  rintro r final ⟨entries, grows, within⟩
  exact confined.grows grows within

/-- Nothing is ever written outside the cells. -/
theorem confined_of_reached {outside : Environment → Prop} {situation : Situation}
    (reached : Reached outside situation) : Confined situation.store := by
  induction reached with
  | blank =>
    intro place _
    cases place with
    | blob | scalar => rfl
  | opens _ opened ih => exact (confined_openOn _ ih).of_ok opened
  | fails _ failed ih => exact (confined_openOn _ ih).of_error failed
  | processes _ _ frame ih => exact confined_process _ frame ih
  | stops _ ih => exact ih

end PgpCard.Card
