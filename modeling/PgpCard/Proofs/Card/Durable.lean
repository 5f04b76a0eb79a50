import PgpCard.Proofs.Attempt
import PgpCard.Proofs.Card.Cells
import PgpCard.Store.Faulty

/-!
# Reasoning about memory and store together

The store below a card may refuse any write.  `Durably act memory kept post` says what becomes of
memory and of what the store holds: whenever the store holds `kept`, the computation `act` begun
with `memory` ends with a result, a memory and a store that holds something, and the three of them
satisfy `post`.  What the schedule of failures is, and where it stands, does not show.

* `Durably.bind` and its companions follow the way in which computations are put together.
* `Saved` is the outcome of one write: it is done, or it is refused and nothing has changed.  The
  lemmas `durably_saveSecret`, … give it for each kind of cell.
-/

set_option autoImplicit false

namespace PgpCard

/-- A store in memory that may refuse any read and any write. -/
abbrev FlakyStore := FaultyStore MemoryStore

namespace FaultyStore

variable {store : FlakyStore} {post : Except StoreError Unit → FlakyStore → Prop}

theorem leads_writeBlob {name : String} {data : Bytes}
    (done : store.writeFails store.writes = false →
      post (.ok ()) { store with
        inner := store.inner.putBlob name data
        writes := store.writes + 1
        journal := .blob name data :: store.journal })
    (refused : store.writeFails store.writes = true →
      post (.error refusal) { store with
        writes := store.writes + 1
        journal := .refusedBlob name :: store.journal }) :
    (Backend.writeBlob name data : Attempt StoreError FlakyStore Unit).Leads store post := by
  change (write _ _ _).Leads store post
  simp only [Attempt.Leads, write]
  cases fails : store.writeFails store.writes with
  | true => exact refused fails
  | false => exact done fails

theorem leads_writeByte {key : String} {value : UInt8}
    (done : store.writeFails store.writes = false →
      post (.ok ()) { store with
        inner := store.inner.putScalar key value.toUInt16
        writes := store.writes + 1
        journal := .byte key value :: store.journal })
    (refused : store.writeFails store.writes = true →
      post (.error refusal) { store with
        writes := store.writes + 1
        journal := .refusedByte key :: store.journal }) :
    (Backend.writeByte key value : Attempt StoreError FlakyStore Unit).Leads store post := by
  change (write _ _ _).Leads store post
  simp only [Attempt.Leads, write]
  cases fails : store.writeFails store.writes with
  | true => exact refused fails
  | false => exact done fails

theorem leads_writeWord {key : String} {value : UInt16}
    (done : store.writeFails store.writes = false →
      post (.ok ()) { store with
        inner := store.inner.putScalar key value
        writes := store.writes + 1
        journal := .word key value :: store.journal })
    (refused : store.writeFails store.writes = true →
      post (.error refusal) { store with
        writes := store.writes + 1
        journal := .refusedWord key :: store.journal }) :
    (Backend.writeWord key value : Attempt StoreError FlakyStore Unit).Leads store post := by
  change (write _ _ _).Leads store post
  simp only [Attempt.Leads, write]
  cases fails : store.writeFails store.writes with
  | true => exact refused fails
  | false => exact done fails

end FaultyStore

namespace Card

open Attempt

variable {ε ε' α β γ : Type}

/-- Whenever the store holds what is kept, the computation ends with a result, a memory and a
store that holds something, and these satisfy a condition. -/
def Durably (act : Attempt ε (Kept β FlakyStore) α) (memory : β) (kept : Persistent)
    (post : Except ε α → β → Persistent → Prop) : Prop :=
  ∀ store : FlakyStore, Holds store.inner kept →
    act.Leads ⟨memory, store⟩ fun r final =>
      ∃ kept', Holds final.store.inner kept' ∧ post r final.memory kept'

variable {act : Attempt ε (Kept β FlakyStore) α} {memory : β} {kept : Persistent}
  {post post' : Except ε α → β → Persistent → Prop}

namespace Durably

theorem mono (h : Durably act memory kept post)
    (weaker : ∀ r memory' kept', post r memory' kept' → post' r memory' kept') :
    Durably act memory kept post' := by
  intro store holds
  refine (h store holds).mono ?_
  rintro r final ⟨kept', holds', meets⟩
  exact ⟨kept', holds', weaker _ _ _ meets⟩

/-! ## Putting computations together -/

theorem pure {a : α} (h : post (.ok a) memory kept) :
    Durably (Pure.pure a) memory kept post := fun _ holds =>
  ⟨kept, holds, h⟩

theorem throw {e : ε} (h : post (.error e) memory kept) :
    Durably (MonadExcept.throw e) memory kept post := fun _ holds =>
  ⟨kept, holds, h⟩

theorem bind {next : α → Attempt ε (Kept β FlakyStore) γ}
    {post : Except ε γ → β → Persistent → Prop}
    (h : Durably act memory kept fun r memory' kept' =>
      match r with
      | .ok a => Durably (next a) memory' kept' post
      | .error e => post (.error e) memory' kept') :
    Durably (act >>= next) memory kept post := by
  intro store holds
  rw [leads_bind]
  refine (h store holds).mono ?_
  rintro (e | a) ⟨memory', store'⟩ ⟨kept', holds', meets⟩
  · exact ⟨kept', holds', meets⟩
  · exact meets store' holds'

theorem throw_bind {e : ε} {next : α → Attempt ε (Kept β FlakyStore) γ}
    {post : Except ε γ → β → Persistent → Prop} (h : post (.error e) memory kept) :
    Durably (MonadExcept.throw e >>= next) memory kept post :=
  bind (throw h)

theorem held_bind {next : β → Attempt ε (Kept β FlakyStore) γ}
    {post : Except ε γ → β → Persistent → Prop} (h : Durably (next memory) memory kept post) :
    Durably (Kept.held >>= next) memory kept post :=
  bind fun _ holds => ⟨kept, holds, h⟩

theorem adjust {change : β → β} {post : Except ε Unit → β → Persistent → Prop}
    (h : post (.ok ()) (change memory) kept) : Durably (Kept.adjust change) memory kept post :=
  fun _ holds => ⟨kept, holds, h⟩

theorem adjust_bind {change : β → β} {next : Unit → Attempt ε (Kept β FlakyStore) γ}
    {post : Except ε γ → β → Persistent → Prop}
    (h : Durably (next ()) (change memory) kept post) :
    Durably (Kept.adjust change >>= next) memory kept post :=
  bind (adjust h)

theorem note_bind {audit : Audit} {next : Unit → Attempt ε (Kept β FlakyStore) γ}
    {post : Except ε γ → β → Persistent → Prop} (h : Durably (next ()) memory kept post) :
    Durably (Kept.note audit >>= next) memory kept post :=
  bind fun _ holds => ⟨kept, holds, h⟩

theorem mapError {wrap : ε → ε'} {post : Except ε' α → β → Persistent → Prop}
    (h : Durably act memory kept fun r => post (r.mapError wrap)) :
    Durably (act.mapError wrap) memory kept post := fun store holds =>
  leads_mapError.mpr (h store holds)

theorem outcome {post : Except ε' (Except ε α) → β → Persistent → Prop}
    (h : Durably act memory kept fun r => post (.ok r)) :
    Durably act.outcome memory kept post := fun store holds =>
  leads_outcome.mpr (h store holds)

theorem ofExcept {result : Except ε α} (h : post result memory kept) :
    Durably (Attempt.ofExcept result) memory kept post := fun _ holds =>
  leads_ofExcept.mpr ⟨kept, holds, h⟩

theorem onPart {part : β → γ} {put : γ → β → β} {act : Attempt ε (Kept γ FlakyStore) α}
    (h : Durably act (part memory) kept fun r inner => post r (put inner memory)) :
    Durably (Kept.onPart part put act) memory kept post := fun store holds =>
  Kept.leads_onPart.mpr (h store holds)

end Durably

/-! ## Writing a cell -/

/-- The outcome of one write. -/
inductive Saved (old new : Persistent) : Except StoreError Unit → Persistent → Prop
  | done : Saved old new (.ok ()) new
  | refused (e : StoreError) : Saved old new (.error e) old

/-- What follows a write goes on with the new value; a refused write ends everything. -/
theorem Durably.saved_bind {write : Attempt StoreError (Kept β FlakyStore) Unit} {new : Persistent}
    {next : Unit → Attempt StoreError (Kept β FlakyStore) γ}
    {post : Except StoreError γ → β → Persistent → Prop}
    (writes : Durably write memory kept fun r memory' kept' =>
      memory' = memory ∧ Saved kept new r kept')
    (refused : ∀ e, post (.error e) memory kept)
    (done : Durably (next ()) memory new post) :
    Durably (write >>= next) memory kept post := by
  refine Durably.bind (writes.mono ?_)
  rintro r memory' kept' ⟨rfl, saved⟩
  cases saved with
  | done => exact done
  | refused e => exact refused e

theorem durably_saveSecret (id : SecretId) (record : SecretRecord) :
    Durably (Kept.onStore (Store.saveRecord id.recordName record)) memory kept
      fun r memory' kept' => memory' = memory ∧ Saved kept (kept.withSecret id record) r kept' := by
  intro store holds
  rw [Kept.leads_onStore]
  refine FaultyStore.leads_writeBlob (fun _ => ?_) fun _ => ?_
  · exact ⟨_, holds.writeSecret id record, rfl, .done⟩
  · exact ⟨_, holds, rfl, .refused _⟩

theorem durably_saveSlot (id : SlotId) (content : KeySlot) :
    Durably (Kept.onStore (Store.saveRecord id.recordName content.record)) memory kept
      fun r memory' kept' => memory' = memory ∧ Saved kept (kept.withSlot id content) r kept' := by
  intro store holds
  rw [Kept.leads_onStore]
  refine FaultyStore.leads_writeBlob (fun _ => ?_) fun _ => ?_
  · exact ⟨_, holds.writeSlot id content, rfl, .done⟩
  · exact ⟨_, holds, rfl, .refused _⟩

theorem durably_saveCounter {value : Nat} (small : value ≤ KeySlots.counterMax) :
    Durably (Kept.onStore (KeySlots.saveCounter value)) memory kept
      fun r memory' kept' => memory' = memory ∧ Saved kept (kept.withCounter value) r kept' := by
  intro store holds
  rw [Kept.leads_onStore]
  refine FaultyStore.leads_writeBlob (fun _ => ?_) fun _ => ?_
  · exact ⟨_, holds.writeCounter small, rfl, .done⟩
  · exact ⟨_, holds, rfl, .refused _⟩

theorem durably_saveObjects (objects : DataObjects) :
    Durably (Kept.onStore (Store.saveRecord DataObjects.recordName objects)) memory kept
      fun r memory' kept' => memory' = memory ∧ Saved kept { kept with objects } r kept' := by
  intro store holds
  rw [Kept.leads_onStore]
  refine FaultyStore.leads_writeBlob (fun _ => ?_) fun _ => ?_
  · exact ⟨_, holds.writeObjects objects, rfl, .done⟩
  · exact ⟨_, holds, rfl, .refused _⟩

theorem durably_saveLasting {status : UInt8} (lasting : Bool)
    (flag : status.toUInt16 = Cell.flag lasting) :
    Durably (Kept.onStore (Backend.writeByte pw1StatusKey status)) memory kept
      fun r memory' kept' => memory' = memory ∧ Saved kept { kept with lasting } r kept' := by
  intro store holds
  rw [Kept.leads_onStore]
  refine FaultyStore.leads_writeByte (fun _ => ?_) fun _ => ?_
  · rw [flag]
    exact ⟨_, holds.writeLasting lasting, rfl, .done⟩
  · exact ⟨_, holds, rfl, .refused _⟩

theorem durably_saveTerminated {mark : UInt8} (terminated : Bool)
    (flag : mark.toUInt16 = Cell.flag terminated) :
    Durably (Kept.onStore (Backend.writeByte terminatedKey mark)) memory kept
      fun r memory' kept' => memory' = memory ∧ Saved kept { kept with terminated } r kept' := by
  intro store holds
  rw [Kept.leads_onStore]
  refine FaultyStore.leads_writeByte (fun _ => ?_) fun _ => ?_
  · rw [flag]
    exact ⟨_, holds.writeTerminated terminated, rfl, .done⟩
  · exact ⟨_, holds, rfl, .refused _⟩

theorem durably_saveLayout :
    Durably (Kept.onStore (Backend.writeWord layoutKey layoutVersion)) memory kept
      fun r memory' kept' => memory' = memory ∧ Saved kept kept r kept' := by
  intro store holds
  rw [Kept.leads_onStore]
  refine FaultyStore.leads_writeWord (fun _ => ?_) fun _ => ?_
  · exact ⟨_, holds.writeLayout, rfl, .done⟩
  · exact ⟨_, holds, rfl, .refused _⟩

theorem durably_saveReady :
    Durably (Kept.onStore (Backend.writeByte readyKey 1)) memory kept
      fun r memory' kept' => memory' = memory ∧ Saved kept kept r kept' := by
  intro store holds
  rw [Kept.leads_onStore]
  refine FaultyStore.leads_writeByte (fun _ => ?_) fun _ => ?_
  · exact ⟨_, holds.writeReady, rfl, .done⟩
  · exact ⟨_, holds, rfl, .refused _⟩

end Card

end PgpCard
