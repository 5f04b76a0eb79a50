import PgpCard.Proofs.Key.Counting

/-!
# What a request leaves alone

A request on the key slots is about one slot, about the signature counter or about both.  Whatever
the store refuses, the other slots and what else there is in the store stay as they were.

* `Touches`, `Touching` : only some cells may differ after a step, and after any run of a
  computation; the rules follow the way in which computations are put together;
* `Request`, `Request.cells` : what can be asked of the key slots, and the cells that it is about;
* `perform_touching`, `performAll_touching` : a request, and requests one after another, touch
  nothing else;
* `Settles` : what becomes of the slot itself, which `perform_settles` says of every request that
  fills or describes one;
* `Emptied` : what becomes of the slots and the counter where all slots are emptied, which
  `makeFactory_emptied` says;
* `request_isolated` : all of it together.
-/

set_option autoImplicit false

namespace PgpCard

namespace KeySlots

open Attempt

theorem eq_of_slot {keys keys' : KeySlots} (slots : ∀ id, keys'.slot id = keys.slot id)
    (counter : keys'.counter = keys.counter) : keys' = keys := by
  obtain ⟨signature, decryption, authentication, value⟩ := keys'
  cases slots .signature
  cases slots .decryption
  cases slots .authentication
  cases counter
  rfl

/-! ## Steps -/

/-- A slot is as before, in memory and in the store. -/
def SlotKept (id : SlotId) (before after : Kept KeySlots FlakyStore) : Prop :=
  after.memory.slot id = before.memory.slot id ∧
    after.store.inner.at? (Cell.slot id).place = before.store.inner.at? (Cell.slot id).place

/-- The signature counter is as before, in memory and in the store. -/
def CounterKept (before after : Kept KeySlots FlakyStore) : Prop :=
  after.memory.counter = before.memory.counter ∧
    after.store.inner.at? Cell.counter.place = before.store.inner.at? Cell.counter.place

/-- A slot has a content, in memory and in the store. -/
def Filled (id : SlotId) (content : KeySlot) (after : Kept KeySlots FlakyStore) : Prop :=
  after.memory.slot id = content ∧
    after.store.inner.at? (Cell.slot id).place = some (.inl (Record.encode content.record))

/-- Nothing but some cells differs, in memory or in the store. -/
structure Touches (cells : List Cell) (before after : Kept KeySlots FlakyStore) : Prop where
  slot : ∀ id, .slot id ∉ cells → after.memory.slot id = before.memory.slot id
  counter : .counter ∉ cells → after.memory.counter = before.memory.counter
  place : ∀ place, (∀ cell ∈ cells, cell.place ≠ place) →
    after.store.inner.at? place = before.store.inner.at? place

namespace Touches

variable {cells cells' : List Cell} {before middle after : Kept KeySlots FlakyStore}

theorem refl (cells : List Cell) (before : Kept KeySlots FlakyStore) :
    Touches cells before before where
  slot _ _ := rfl
  counter _ := rfl
  place _ _ := rfl

theorem trans (first : Touches cells before middle) (second : Touches cells middle after) :
    Touches cells before after where
  slot id other := (second.slot id other).trans (first.slot id other)
  counter other := (second.counter other).trans (first.counter other)
  place place other := (second.place place other).trans (first.place place other)

theorem mono (h : Touches cells before after) (more : cells ⊆ cells') :
    Touches cells' before after where
  slot id other := h.slot id fun member => other (more member)
  counter other := h.counter fun member => other (more member)
  place place other := h.place place fun cell member => other cell (more member)

theorem at?_place (h : Touches cells before after) {cell : Cell} (other : cell ∉ cells) :
    after.store.inner.at? cell.place = before.store.inner.at? cell.place := by
  refine h.place _ fun touched member same => other ?_
  rw [← Cell.place_inj same]
  exact member

theorem slotKept (h : Touches cells before after) {id : SlotId} (other : .slot id ∉ cells) :
    SlotKept id before after :=
  ⟨h.slot id other, h.at?_place other⟩

theorem counterKept (h : Touches cells before after) (other : .counter ∉ cells) :
    CounterKept before after :=
  ⟨h.counter other, h.at?_place other⟩

theorem filled (h : Touches cells middle after) {id : SlotId} {content : KeySlot}
    (full : Filled id content middle) (other : .slot id ∉ cells) : Filled id content after :=
  ⟨(h.slot id other).trans full.1, (h.at?_place other).trans full.2⟩

/-- Where no cell is touched, nothing changes. -/
theorem nothing (h : Touches [] before after) :
    after.memory = before.memory ∧
      ∀ place, after.store.inner.at? place = before.store.inner.at? place :=
  ⟨eq_of_slot (fun id => h.slot id List.not_mem_nil) (h.counter List.not_mem_nil),
    fun place => h.place place (List.forall_mem_nil _)⟩

end Touches

/-! ## Computations -/

/-- Whatever it is begun with, a computation touches nothing but some cells. -/
def Touching {ε α : Type} (cells : List Cell) (act : Attempt ε (Kept KeySlots FlakyStore) α) :
    Prop :=
  ∀ before, act.Leads before fun _ after => Touches cells before after

namespace Touching

variable {ε ε' α γ : Type} {cells cells' : List Cell}
  {act : Attempt ε (Kept KeySlots FlakyStore) α}

theorem mono (h : Touching cells act) (more : cells ⊆ cells') : Touching cells' act :=
  fun before => (h before).mono fun _ _ touches => touches.mono more

theorem pure {a : α} : Touching cells (Pure.pure a : Attempt ε (Kept KeySlots FlakyStore) α) :=
  fun before => .refl cells before

theorem throw {e : ε} :
    Touching cells (MonadExcept.throw e : Attempt ε (Kept KeySlots FlakyStore) α) :=
  fun before => .refl cells before

theorem bind {next : α → Attempt ε (Kept KeySlots FlakyStore) γ} (first : Touching cells act)
    (second : ∀ a, Touching cells (next a)) : Touching cells (act >>= next) := by
  intro before
  rw [leads_bind]
  refine (first before).mono ?_
  rintro (e | a) middle touches
  · exact touches
  · exact (second a middle).mono fun _ _ later => touches.trans later

theorem throw_bind {e : ε} {next : α → Attempt ε (Kept KeySlots FlakyStore) γ} :
    Touching cells (MonadExcept.throw e >>= next) :=
  fun before => .refl cells before

theorem held_bind {next : KeySlots → Attempt ε (Kept KeySlots FlakyStore) γ}
    (rest : ∀ keys, Touching cells (next keys)) : Touching cells (Kept.held >>= next) :=
  fun before => rest before.memory before

theorem mapError {wrap : ε → ε'} (h : Touching cells act) : Touching cells (act.mapError wrap) :=
  fun before => leads_mapError.mpr (h before)

theorem ignored (h : Touching cells act) :
    Touching cells (act.ignored : Attempt ε' (Kept KeySlots FlakyStore) Unit) :=
  fun before => leads_ignored.mpr (h before)

theorem ofExcept {result : Except ε α} : Touching cells (Attempt.ofExcept result) :=
  fun before => leads_ofExcept.mpr (.refl cells before)

theorem note {step : Audit} :
    Touching cells (Kept.note step : Attempt ε (Kept KeySlots FlakyStore) Unit) :=
  fun _ => ⟨fun _ _ => rfl, fun _ => rfl, fun _ _ => rfl⟩

theorem adjust {change : KeySlots → KeySlots}
    (slot : ∀ keys id, .slot id ∉ cells → (change keys).slot id = keys.slot id)
    (counter : ∀ keys, .counter ∉ cells → (change keys).counter = keys.counter) :
    Touching cells (Kept.adjust change : Attempt ε (Kept KeySlots FlakyStore) Unit) :=
  fun before => ⟨slot before.memory, counter before.memory, fun _ _ => rfl⟩

/-- A byte string is written in the place of its cell, or refused. -/
theorem writeBlob {cell : Cell} {name : String} {data : Bytes} (own : cell ∈ cells)
    (named : cell.place = .blob name) :
    Touching cells (Kept.onStore (Backend.writeBlob name data)) := by
  intro before
  rw [Kept.leads_onStore]
  refine FaultyStore.leads_writeBlob (fun _ => ⟨fun _ _ => rfl, fun _ => rfl, ?_⟩) fun _ =>
    ⟨fun _ _ => rfl, fun _ => rfl, fun _ _ => rfl⟩
  intro place other
  refine (MemoryStore.at?_putBlob _ _ _ _).trans (if_neg fun same => other cell own ?_)
  rw [named, same]

end Touching

section Operations

variable {cells : List Cell} {id : SlotId}

theorem setCounter_touching (own : .counter ∈ cells) (value : Nat) :
    Touching cells (setCounter value) := by
  refine Touching.bind (Touching.writeBlob own rfl) fun _ => ?_
  exact Touching.adjust (fun keys id _ => slot_withCounter keys _ id) fun _ other =>
    absurd own other

theorem commit_touching (own : .slot id ∈ cells) (content : KeySlot) :
    Touching cells (commit id content) := by
  refine Touching.bind (Touching.writeBlob own rfl) fun _ => Touching.adjust ?_ fun keys _ =>
    counter_putSlot keys id content
  intro keys other spared
  rw [slot_putSlot]
  refine if_neg fun same => spared ?_
  rw [same]
  exact own

theorem updateRecord_touching (own : .slot id ∈ cells) (change : KeyRecord → KeyRecord) :
    Touching cells (updateRecord id change) :=
  Touching.held_bind fun _ => commit_touching own _

theorem requireKey_touching (id : SlotId) : Touching cells (requireKey id) := by
  refine Touching.held_bind fun keys => ?_
  cases (keys.slot id).key with
  | none => exact Touching.throw
  | some key => exact Touching.pure

/-- A use of a key that may be refused touches nothing. -/
theorem useKey_touching (id : SlotId) (refused : Prop) [Decidable refused] (otherwise : CardError)
    (use : Rsa.PrivateKey → Except Rsa.Error Bytes) :
    Touching cells (do
      let key ← requireKey id
      if refused then
        throw otherwise
      Kept.note (.keyUsed id)
      (Attempt.ofExcept (use key)).mapError .crypto) := by
  refine Touching.bind (requireKey_touching id) fun key => ?_
  dsimp only
  split
  · exact Touching.throw_bind
  · exact Touching.bind Touching.note fun _ => Touching.mapError Touching.ofExcept

theorem sign_touching (own : .counter ∈ cells) (message : Bytes) :
    Touching cells (sign message) := by
  refine Touching.bind (requireKey_touching _) fun key => ?_
  dsimp only
  split
  · exact Touching.throw_bind
  · refine Touching.held_bind fun keys => ?_
    split
    · exact Touching.throw_bind
    · refine Touching.bind (Touching.mapError (setCounter_touching own _)) fun _ => ?_
      exact Touching.bind Touching.note fun _ => Touching.mapError Touching.ofExcept

theorem makeFactory_touching (slots : ∀ id, .slot id ∈ cells) (counter : .counter ∈ cells) :
    Touching cells makeFactory := by
  have emptied (id : SlotId) :
      Touching cells (Kept.onStore (Store.saveRecord id.recordName KeyRecord.empty)) :=
    Touching.writeBlob (slots id) rfl
  refine Touching.bind (Touching.adjust (fun _ id other => absurd (slots id) other) fun _ other =>
    absurd counter other) fun _ => ?_
  refine Touching.bind (emptied .signature) fun _ => ?_
  refine Touching.bind (emptied .decryption) fun _ => ?_
  refine Touching.bind (emptied .authentication) fun _ => ?_
  exact Touching.writeBlob counter rfl

theorem generate_touching (own : .slot id ∈ cells) (counts : id = .signature → .counter ∈ cells)
    (env : Environment) : Touching cells (generate env id) := by
  refine Touching.bind (Touching.mapError Touching.ofExcept) fun key => ?_
  refine Touching.bind (Touching.mapError Touching.ofExcept) fun components => ?_
  refine Touching.held_bind fun keys => ?_
  refine Touching.bind (Touching.mapError (commit_touching own _)) fun _ => ?_
  split
  · rename_i signature
    refine Touching.bind ?_ fun _ => Touching.pure
    exact Touching.mapError (setCounter_touching (counts signature) 0)
  · exact Touching.pure

theorem importKey_touching {data : Bytes}
    (own : ∀ template ∈ ImportTemplate.parse? data, .slot template.slot ∈ cells) :
    Touching cells (importKey data) := by
  unfold importKey
  cases read : ImportTemplate.parse? data with
  | none => exact Touching.throw
  | some template =>
    refine Touching.bind (Touching.mapError Touching.ofExcept) fun key => ?_
    refine Touching.bind (Touching.mapError Touching.ofExcept) fun components => ?_
    refine Touching.held_bind fun keys => ?_
    refine Touching.bind (Touching.mapError ?_) fun _ => Touching.pure
    exact commit_touching (own template read) _

end Operations

/-! ## Requests -/

/-- What can be asked of the key slots. -/
inductive Request
  | makeFactory
  | generate (env : Environment) (id : SlotId)
  | importKey (data : Bytes)
  | setFingerprint (id : SlotId) (value : Bytes)
  | setCaFingerprint (id : SlotId) (value : Bytes)
  | setGenerationTime (id : SlotId) (time : UInt32)
  | setCounter (value : Nat)
  | sign (message : Bytes)
  | decipher (data : Bytes)
  | authenticate (challenge : Bytes)
  | publicKey (id : SlotId)

namespace Request

/-- What a request is answered with. -/
abbrev Answer : Request → Type
  | generate _ _ | sign _ | decipher _ | authenticate _ | publicKey _ => Bytes
  | importKey _ => SlotId
  | makeFactory | setFingerprint _ _ | setCaFingerprint _ _ | setGenerationTime _ _
  | setCounter _ => Unit

/-- Carries a request out. -/
def perform {σ : Type} [Backend σ] :
    (request : Request) → Attempt CardError (Kept KeySlots σ) request.Answer
  | makeFactory => KeySlots.makeFactory.mapError .storage
  | generate env id => KeySlots.generate env id
  | importKey data => KeySlots.importKey data
  | setFingerprint id value => (KeySlots.setFingerprint id value).mapError .storage
  | setCaFingerprint id value => (KeySlots.setCaFingerprint id value).mapError .storage
  | setGenerationTime id time => (KeySlots.setGenerationTime id time).mapError .storage
  | setCounter value => (KeySlots.setCounter value).mapError .storage
  | sign message => KeySlots.sign message
  | decipher data => KeySlots.decipher data
  | authenticate challenge => KeySlots.authenticate challenge
  | publicKey id => do Attempt.ofExcept ((← Kept.held).publicKey id)

/-- Carries requests out, one after another, whatever each of them comes to. -/
def performAll {ε σ : Type} [Backend σ] : List Request → Attempt ε (Kept KeySlots σ) Unit
  | [] => pure ()
  | request :: rest => do
    request.perform.ignored
    performAll rest

/-- The slot that a request fills with a key or describes. -/
def target? : Request → Option SlotId
  | generate _ id | setFingerprint id _ | setCaFingerprint id _ | setGenerationTime id _ => some id
  | importKey data => (ImportTemplate.parse? data).map (·.slot)
  | makeFactory | setCounter _ | sign _ | decipher _ | authenticate _ | publicKey _ => none

/-- The cells that a request is about. -/
def cells : Request → List Cell
  | makeFactory => .counter :: SlotId.all.map .slot
  | generate _ .signature => [.slot .signature, .counter]
  | generate _ id | setFingerprint id _ | setCaFingerprint id _ | setGenerationTime id _ =>
    [.slot id]
  | importKey data => (ImportTemplate.parse? data).toList.map fun template => .slot template.slot
  | setCounter _ | sign _ => [.counter]
  | decipher _ | authenticate _ | publicKey _ => []

theorem perform_touching (request : Request) : Touching request.cells request.perform := by
  cases request with
  | makeFactory =>
    refine Touching.mapError (makeFactory_touching (fun id => ?_) List.mem_cons_self)
    cases id <;> decide
  | generate env id =>
    refine generate_touching ?_ ?_ env
    · cases id <;> exact List.mem_cons_self
    · rintro rfl
      exact List.mem_cons_of_mem _ List.mem_cons_self
  | importKey data =>
    refine importKey_touching fun template read => ?_
    exact List.mem_map.mpr ⟨template, Option.mem_toList.mpr read, rfl⟩
  | setFingerprint | setCaFingerprint | setGenerationTime =>
    exact Touching.mapError (updateRecord_touching List.mem_cons_self _)
  | setCounter value => exact Touching.mapError (setCounter_touching List.mem_cons_self value)
  | sign message => exact sign_touching List.mem_cons_self message
  | decipher data => exact useKey_touching .decryption _ _ fun key => key.decrypt? (data.drop 1)
  | authenticate challenge =>
    exact useKey_touching .authentication _ _ fun key => key.sign? challenge
  | publicKey id => exact Touching.held_bind fun _ => Touching.ofExcept

/-- Requests one after another touch nothing that none of them is about. -/
theorem performAll_touching {ε : Type} (requests : List Request) :
    Touching (requests.flatMap cells)
      (performAll requests : Attempt ε (Kept KeySlots FlakyStore) Unit) := by
  induction requests with
  | nil => exact Touching.pure
  | cons request rest ih =>
    rw [List.flatMap_cons]
    refine Touching.bind (Touching.ignored ?_) fun _ => ?_
    · exact request.perform_touching.mono (List.subset_append_left _ _)
    · exact ih.mono (List.subset_append_right _ _)

/-! ## The slot itself -/

/-- What a request can make of the content of its slot. -/
def Fills (request : Request) (old new : KeySlot) : Prop :=
  match request with
  | generate _ _ | importKey _ =>
    new.record.attributes = old.record.attributes ∧
      new.record.caFingerprint = old.record.caFingerprint
  | setFingerprint _ value => new = { old with record := { old.record with fingerprint := value } }
  | setCaFingerprint _ value =>
    new = { old with record := { old.record with caFingerprint := value } }
  | setGenerationTime _ time =>
    new = { old with record := { old.record with generationTime := time } }
  | makeFactory | setCounter _ | sign _ | decipher _ | authenticate _ | publicKey _ => False

/-- A request has failed and left its slot as it was, or the slot has what the request makes of it,
in memory and in the store. -/
def Settles (request : Request) (id : SlotId) {α : Type} (r : Except CardError α)
    (before after : Kept KeySlots FlakyStore) : Prop :=
  r.isOk = false ∧ SlotKept id before after ∨
    ∃ content, request.Fills (before.memory.slot id) content ∧ Filled id content after

/-- A slot is written to the store before it is adopted. -/
theorem commit_fills (id : SlotId) (content : KeySlot) (before : Kept KeySlots FlakyStore) :
    (commit id content).Leads before fun r after =>
      r.isOk = false ∧ SlotKept id before after ∨ Filled id content after := by
  unfold commit
  rw [leads_bind, Kept.leads_onStore]
  refine FaultyStore.leads_writeBlob (fun _ => .inr ⟨?_, ?_⟩) fun _ => .inl ⟨rfl, rfl, rfl⟩
  · exact (slot_putSlot _ _ _ _).trans (if_pos rfl)
  · exact (MemoryStore.at?_putBlob _ _ _ _).trans (if_pos rfl)

section Settles

variable {request : Request} {id : SlotId}

/-- What fails before anything is written leaves the slot as it was. -/
theorem settles_failed {α : Type} (e : CardError) (before : Kept KeySlots FlakyStore) :
    request.Settles id (.error e : Except CardError α) before before :=
  .inl ⟨rfl, rfl, rfl⟩

/-- What follows a request and touches other cells leaves the slot as the request has made it. -/
theorem settles_bind (cells : List Cell) {α γ : Type} {before : Kept KeySlots FlakyStore}
    {act : Attempt CardError (Kept KeySlots FlakyStore) α}
    {next : α → Attempt CardError (Kept KeySlots FlakyStore) γ}
    (first : act.Leads before fun r after => request.Settles id r before after)
    (rest : ∀ a, Touching cells (next a)) (other : .slot id ∉ cells) :
    (act >>= next).Leads before fun r after => request.Settles id r before after := by
  rw [leads_bind]
  refine first.mono ?_
  rintro (e | a) middle (⟨failed, kept⟩ | ⟨content, fills, full⟩)
  · exact .inl ⟨rfl, kept⟩
  · exact .inr ⟨content, fills, full⟩
  · cases failed
  · exact (rest a middle).mono fun _ _ touches =>
      .inr ⟨content, fills, touches.filled full other⟩

theorem commit_settles {content : KeySlot} {before : Kept KeySlots FlakyStore}
    (fills : request.Fills (before.memory.slot id) content) :
    ((commit id content).mapError .storage).Leads before fun r after =>
      request.Settles id r before after := by
  refine leads_mapError.mpr ((commit_fills id content before).mono ?_)
  rintro r after (⟨failed, kept⟩ | full)
  · cases r with
    | error e => exact .inl ⟨rfl, kept⟩
    | ok _ => cases failed
  · exact .inr ⟨content, fills, full⟩

theorem updateRecord_settles {change : KeyRecord → KeyRecord}
    (fills : ∀ old : KeySlot, request.Fills old { old with record := change old.record })
    (before : Kept KeySlots FlakyStore) :
    ((updateRecord id change).mapError .storage).Leads before fun r after =>
      request.Settles id r before after := by
  have settles := commit_settles (fills (before.memory.slot id))
  exact leads_mapError.mpr (leads_mapError.mp settles)

theorem generate_settles (env : Environment) (id : SlotId) (before : Kept KeySlots FlakyStore) :
    (KeySlots.generate env id).Leads before fun r after =>
      (generate env id).Settles id r before after := by
  refine leads_bind.mpr (leads_mapError.mpr (leads_ofExcept.mpr ?_))
  cases env.newKey () with
  | error e => exact settles_failed _ before
  | ok key =>
    refine leads_bind.mpr (leads_mapError.mpr (leads_ofExcept.mpr ?_))
    cases key.components? with
    | error e => exact settles_failed _ before
    | ok components =>
      have fills : (generate env id).Fills (before.memory.slot id)
        (generated env (before.memory.record id) key components) := ⟨rfl, rfl⟩
      refine leads_bind.mpr (Kept.leads_held.mpr ?_)
      -- what is set after the slot was written is the counter, which is another cell
      refine settles_bind [.counter] (commit_settles fills) (fun _ => ?_) (by simp)
      split
      · refine Touching.bind (Touching.mapError ?_) fun _ => Touching.pure
        exact setCounter_touching List.mem_cons_self 0
      · exact Touching.pure

theorem importKey_settles {data : Bytes} {template : ImportTemplate}
    (read : ImportTemplate.parse? data = some template) (before : Kept KeySlots FlakyStore) :
    (KeySlots.importKey data).Leads before fun r after =>
      (importKey data).Settles template.slot r before after := by
  unfold KeySlots.importKey
  rw [read]
  refine leads_bind.mpr (leads_mapError.mpr (leads_ofExcept.mpr ?_))
  cases Rsa.PrivateKey.ofFactors? (Bytes.toNatOfLong template.exponent)
    (Bytes.toNatOfLong template.p) (Bytes.toNatOfLong template.q) with
  | error e => exact settles_failed _ before
  | ok key =>
    refine leads_bind.mpr (leads_mapError.mpr (leads_ofExcept.mpr ?_))
    cases key.components? with
    | error e => exact settles_failed _ before
    | ok components =>
      have fills : (importKey data).Fills (before.memory.slot template.slot)
        (imported (before.memory.record template.slot) key components) := ⟨rfl, rfl⟩
      refine leads_bind.mpr (Kept.leads_held.mpr ?_)
      exact settles_bind [] (commit_settles fills) (fun _ => Touching.pure) List.not_mem_nil

/-- A request that is about a slot leaves it as it was and fails, or makes of it what it says. -/
theorem perform_settles (target : request.target? = some id) (before : Kept KeySlots FlakyStore) :
    request.perform.Leads before fun r after => request.Settles id r before after := by
  cases request with
  | makeFactory | setCounter | sign | decipher | authenticate | publicKey => cases target
  | generate env =>
    cases target
    exact generate_settles env id before
  | importKey data =>
    obtain ⟨template, read, rfl⟩ := Option.map_eq_some_iff.mp target
    exact importKey_settles read before
  | setFingerprint | setCaFingerprint | setGenerationTime =>
    cases target
    refine updateRecord_settles ?_ before
    exact fun _ => rfl

end Settles

end Request

/-! ## All slots -/

/-- What the store has of an empty slot, and of a counter of zero. -/
def blank : Cell → Option (Bytes ⊕ UInt16)
  | .slot _ => some (.inl (Record.encode emptySlot.record))
  | .counter => some (.inl (Bytes.ofNat counterLength 0))
  | _ => none

/-- No later write is refused. -/
def TakesWrites (store : FlakyStore) : Prop :=
  ∀ n, store.writes ≤ n → store.writeFails n = false

/-- The slots are being emptied: memory has none but empty ones, and so has the store in some
cells, unless it has refused a write. -/
structure Emptying (cells : List Cell) (before : Kept KeySlots FlakyStore) {ε : Type}
    (r : Except ε Unit) (after : Kept KeySlots FlakyStore) : Prop where
  memory : after.memory = factory
  takes : TakesWrites before.store → r.isOk = true ∧ TakesWrites after.store
  store : r.isOk = true → ∀ cell ∈ cells, after.store.inner.at? cell.place = blank cell

section Emptying

variable {cells : List Cell} {before after : Kept KeySlots FlakyStore}

/-- Once a write was refused, nothing is promised of the store. -/
theorem Emptying.failed {e : StoreError} (emptying : Emptying cells before (.error e) after)
    (others : List Cell) : Emptying others before (.error e : Except StoreError Unit) after where
  memory := emptying.memory
  takes := emptying.takes
  store := nofun

theorem Emptying.wrap {wrap : StoreError → CardError} {r : Except StoreError Unit}
    (emptying : Emptying cells before r after) : Emptying cells before (r.mapError wrap) after := by
  cases r with
  | error e => exact ⟨emptying.memory, emptying.takes, nofun⟩
  | ok _ => exact ⟨emptying.memory, emptying.takes, emptying.store⟩

section Step

variable (cell : Cell) {name : String} {data : Bytes} (named : cell.place = .blob name)
  (empty : blank cell = some (.inl data))
  (emptying : Emptying cells before (.ok () : Except StoreError Unit) after)

include named empty emptying

/-- One more cell is emptied. -/
theorem leads_empty :
    (Kept.onStore (Backend.writeBlob name data)).Leads after (Emptying (cell :: cells) before) := by
  rw [Kept.leads_onStore]
  refine FaultyStore.leads_writeBlob (fun _ => ⟨emptying.memory, fun takes => ⟨rfl, ?_⟩, ?_⟩)
    fun fails => ⟨emptying.memory, fun takes => ?_, nofun⟩
  · exact fun n later => (emptying.takes takes).2 n (Nat.le_of_succ_le later)
  · rintro - other member
    rw [MemoryStore.at?_putBlob]
    split
    · rename_i here
      rw [Cell.place_inj (here.trans named.symm), empty]
    · rename_i elsewhere
      obtain rfl | member := List.mem_cons.mp member
      · exact absurd named elsewhere
      · exact emptying.store rfl other member
  · rw [(emptying.takes takes).2 _ (Nat.le_refl _)] at fails
    cases fails

/-- One more cell is emptied, and then others; a refusal ends it. -/
theorem leads_empty_bind {others : List Cell}
    {next : Unit → Attempt StoreError (Kept KeySlots FlakyStore) Unit}
    (rest : ∀ middle, Emptying (cell :: cells) before (.ok () : Except StoreError Unit) middle →
      (next ()).Leads middle (Emptying others before)) :
    (Kept.onStore (Backend.writeBlob name data) >>= next).Leads after (Emptying others before) := by
  refine leads_bind.mpr ((leads_empty cell named empty emptying).mono ?_)
  rintro (e | ⟨⟩) middle emptied
  · exact emptied.failed others
  · exact rest middle emptied

end Step

/-- Memory comes first, then the slots in the store and then the counter. -/
theorem makeFactory_emptying (before : Kept KeySlots FlakyStore) :
    makeFactory.Leads before (Emptying (.counter :: SlotId.all.reverse.map .slot) before) := by
  have start : Emptying [] before (.ok () : Except StoreError Unit)
      { before with memory := factory } := ⟨rfl, fun takes => ⟨rfl, takes⟩, nofun⟩
  refine leads_bind.mpr ?_
  refine leads_empty_bind (.slot .signature) rfl rfl start fun _ first => ?_
  refine leads_empty_bind (.slot .decryption) rfl rfl first fun _ second => ?_
  refine leads_empty_bind (.slot .authentication) rfl rfl second fun _ third => ?_
  exact leads_empty .counter rfl rfl third

end Emptying

/-- All slots have been emptied and the counter has been set to zero: in memory whatever the store
refuses, and in the store as well where it refuses nothing. -/
structure Emptied (before : Kept KeySlots FlakyStore) {α : Type} (r : Except CardError α)
    (after : Kept KeySlots FlakyStore) : Prop where
  memory : after.memory = factory
  done : TakesWrites before.store → r.isOk = true
  slot : r.isOk = true → ∀ id, Filled id emptySlot after
  counter : r.isOk = true →
    after.store.inner.at? Cell.counter.place = some (.inl (Bytes.ofNat counterLength 0))

theorem makeFactory_emptied (before : Kept KeySlots FlakyStore) :
    Request.makeFactory.perform.Leads before (Emptied before) := by
  refine leads_mapError.mpr ((makeFactory_emptying before).mono fun r after emptying => ?_)
  have emptying : Emptying _ before (r.mapError CardError.storage) after := emptying.wrap
  refine ⟨emptying.memory, fun takes => (emptying.takes takes).1, fun done id => ⟨?_, ?_⟩, ?_⟩
  · rw [emptying.memory]
    cases id <;> rfl
  · exact emptying.store done _ (by cases id <;> decide)
  · exact fun done => emptying.store done _ List.mem_cons_self

/-- Whatever the store refuses, a request leaves the slots that it is not about as they were, in
memory and in the store.  A request that is about a slot fails and leaves it as it was, or it makes
of it what it says: the host's descriptions change nothing but their own field, and a new key keeps
the attributes and the fingerprint of the certifying key.  Deciphering, authentication and the
reading of a public key change nothing, and the counter stays unless the request signs, sets it,
makes a signature key or empties all slots.  To empty them leaves empty slots and a counter of zero
in memory, and where no write is refused in the store as well. -/
theorem request_isolated (request : Request) (before : Kept KeySlots FlakyStore) :
    request.perform.Leads before fun r after =>
      (∀ id, .slot id ∉ request.cells → SlotKept id before after) ∧
      (∀ id, request.target? = some id → request.Settles id r before after) ∧
      (request.cells = [] → after.memory = before.memory ∧
        ∀ place, after.store.inner.at? place = before.store.inner.at? place) ∧
      (.counter ∉ request.cells → CounterKept before after) ∧
      (request = .makeFactory → Emptied before r after) := by
  have touches := leads_iff.mp (request.perform_touching before)
  refine leads_iff.mpr ⟨fun id => touches.slotKept, fun id target => ?_, fun none => ?_,
    touches.counterKept, ?_⟩
  · exact leads_iff.mp (request.perform_settles target before)
  · rw [none] at touches
    exact touches.nothing
  · rintro rfl
    exact leads_iff.mp (makeFactory_emptied before)

/-- Empty slots beside a counter that has been set. -/
def counted : Kept KeySlots FlakyStore where
  memory := { factory with counter := 5 }
  store := { inner := MemoryStore.empty.putBlob counterName (Bytes.ofNat counterLength 5) }

/-- A fingerprint is written for the decryption key. -/
theorem request_isolated_fingerprint :
    (Request.setFingerprint .decryption [1]).perform.Leads counted fun r after =>
      r.isOk = true ∧ SlotKept .signature counted after ∧ SlotKept .authentication counted after ∧
        after.memory.slot .decryption =
          { emptySlot with record := { KeyRecord.empty with fingerprint := [1] } } ∧
        CounterKept counted after := by
  obtain ⟨others, settles, -, counter, -⟩ :=
    leads_iff.mp (request_isolated (.setFingerprint .decryption [1]) counted)
  have done : ((Request.setFingerprint .decryption [1]).perform.ending counted).1.isOk = true := rfl
  refine leads_iff.mpr ⟨done, others .signature (by decide), others .authentication (by decide),
    ?_, counter (by decide)⟩
  obtain ⟨failed, -⟩ | ⟨content, rfl, full, -⟩ := settles .decryption rfl
  · cases done.symm.trans failed
  · exact full

/-- To empty all slots sets the counter to zero. -/
theorem counter_emptied :
    ¬ ∀ (request : Request) (before : Kept KeySlots FlakyStore),
      (∀ message, request ≠ .sign message) → (∀ value, request ≠ .setCounter value) →
      (∀ env, request ≠ .generate env .signature) →
      request.perform.Leads before fun _ after => CounterKept before after := by
  intro untouched
  obtain ⟨same, -⟩ := leads_iff.mp (untouched .makeFactory counted nofun nofun nofun)
  have emptied : (Request.makeFactory.perform.ending counted).2.memory.counter = 0 := rfl
  have before : counted.memory.counter = 5 := rfl
  omega

end KeySlots

end PgpCard
