import PgpCard.Proofs.Card.Durable

/-!
# Reading from a store that may refuse

A store that may refuse reads changes nothing when it is read but the number of its reads, and
what is read is what the store below it has.

* `FaultyStore.Reliable` : the store refuses nothing from now on;
* `Mirrors act plain` says so of a computation `act` that only reads, where `plain` reads the same
  from the store below; its rules follow the way in which computations are put together.
* `load_mirrors` : everything that survives a loss of power is read in this way.
* `Holds.of_load` : what is read is what is held, whatever the keys are.
* `reload_leads` : a reload takes up what the store has, or changes nothing;
  `reload_of_reliable` : it does not fail on a reliable store.
-/

set_option autoImplicit false

namespace PgpCard

/-- The store refuses nothing from now on. -/
structure FaultyStore.Reliable (store : FlakyStore) : Prop where
  reads : ∀ n, store.reads ≤ n → store.readFails n = false
  writes : ∀ n, store.writes ≤ n → store.writeFails n = false

theorem FaultyStore.Reliable.later {store : FlakyStore} (h : store.Reliable) {reads : Nat}
    (later : store.reads ≤ reads) : ({ store with reads } : FlakyStore).Reliable where
  reads n after := h.reads n (Nat.le_trans later after)
  writes := h.writes

namespace Card

open Attempt

variable {α β : Type}

/-- A computation on a store came to a result and changed nothing but the number of reads, where
another one reads the store below: what it read is what the other one reads, and it failed only
where the other one does or the store is not reliable. -/
structure Mirrored (plain : Attempt StoreError MemoryStore α) (store : FlakyStore)
    (r : Except StoreError α) (final : FlakyStore) : Prop where
  reads : ∃ reads, store.reads ≤ reads ∧ final = { store with reads }
  sound : ∀ a, r = .ok a → plain store.inner = .ok a store.inner
  complete : store.Reliable → ∀ a inner, plain store.inner = .ok a inner → r = .ok a

/-- A computation reads what another one reads from the store below, and changes nothing. -/
def Mirrors (act : Attempt StoreError FlakyStore α) (plain : Attempt StoreError MemoryStore α) :
    Prop :=
  ∀ store : FlakyStore, act.Leads store (Mirrored plain store)

namespace Mirrors

variable {plain : Attempt StoreError MemoryStore α}

theorem pure (a : α) : Mirrors (Pure.pure a) (Pure.pure a) := by
  intro store
  refine ⟨⟨store.reads, Nat.le_refl _, rfl⟩, fun _ same => ?_, fun _ _ _ same => ?_⟩
  · cases same
    rfl
  · cases same
    rfl

/-- A failure reads nothing. -/
theorem throw (e : StoreError) :
    Mirrors (MonadExcept.throw e : Attempt _ _ α) (MonadExcept.throw e) := by
  intro store
  refine ⟨⟨store.reads, Nat.le_refl _, rfl⟩, fun _ ended => ?_, fun _ _ _ ended => ?_⟩
  · cases ended
  · cases ended

theorem bind {act : Attempt StoreError FlakyStore α} {next : α → Attempt StoreError FlakyStore β}
    {next' : α → Attempt StoreError MemoryStore β} (first : Mirrors act plain)
    (second : ∀ a, Mirrors (next a) (next' a)) : Mirrors (act >>= next) (plain >>= next') := by
  intro store
  rw [leads_bind]
  refine (first store).mono ?_
  rintro (e | a) middle ⟨⟨reads, later, rfl⟩, sound, complete⟩
  · refine ⟨⟨reads, later, rfl⟩, fun _ ended => (by cases ended), fun reliable b inner ran => ?_⟩
    change EStateM.bind plain next' store.inner = _ at ran
    unfold EStateM.bind at ran
    split at ran
    · rename_i a middle read
      cases complete reliable a middle read
    · cases ran
  · have same : (plain >>= next') store.inner = next' a store.inner := by
      change EStateM.bind plain next' store.inner = _
      rw [EStateM.bind, sound a rfl]
    refine (second a _).mono ?_
    rintro r final ⟨⟨reads', later', rfl⟩, sound', complete'⟩
    refine ⟨⟨reads', Nat.le_trans later later', rfl⟩, fun b ended => ?_,
      fun reliable b inner ran => ?_⟩
    · rw [same]
      exact sound' b ended
    · rw [same] at ran
      exact complete' (reliable.later later) b inner ran

/-- A read that leaves the store below alone. -/
theorem read (result : MemoryStore → Except StoreError α)
    (plain_eq : ∀ store, plain store =
      match result store with
      | .ok a => .ok a store
      | .error e => .error e store) : Mirrors (FaultyStore.read plain) plain := by
  intro store
  have counted : ∃ reads, store.reads ≤ reads ∧
      { store with reads := store.reads + 1 } = { store with reads } :=
    ⟨_, Nat.le_succ _, rfl⟩
  simp only [Leads, FaultyStore.read, plain_eq]
  cases fails : store.readFails store.reads with
  | true =>
    refine ⟨counted, fun _ ended => (by cases ended), fun reliable => ?_⟩
    cases fails.symm.trans (reliable.reads _ (Nat.le_refl _))
  | false =>
    cases found : result store.inner with
    | error e =>
      refine ⟨counted, fun _ ended => (by cases ended), fun _ a inner ran => ?_⟩
      rw [plain_eq, found] at ran
      cases ran
    | ok a =>
      refine ⟨counted, fun b same => ?_, fun _ b inner ran => ?_⟩
      · cases same
        rw [plain_eq, found]
      · rw [plain_eq, found] at ran
        cases ran
        rfl

end Mirrors

theorem readByte_mirrors (key : String) : Mirrors (Backend.readByte key) (Backend.readByte key) :=
  Mirrors.read (fun store => store.byte? key) fun store => by
    rw [readByte_eq]
    cases store.byte? key <;> rfl

theorem readWord_mirrors (key : String) : Mirrors (Backend.readWord key) (Backend.readWord key) :=
  Mirrors.read (fun store => .ok (store.scalars.find? key)) fun _ => rfl

theorem readBlob_mirrors (name : String) :
    Mirrors (Backend.readBlob name) (Backend.readBlob name) :=
  Mirrors.read (fun store => .ok (store.blobs.find? name)) fun _ => rfl

/-! ## Records -/

theorem requireRecord_mirrors [Recorded α] (name : String) :
    Mirrors (Store.requireRecord name : Attempt StoreError FlakyStore α)
      (Store.requireRecord name) := by
  refine Mirrors.bind (Mirrors.bind (readBlob_mirrors name) fun text => ?_) fun record => ?_
  · cases text with
    | none => exact Mirrors.pure none
    | some text =>
      dsimp only
      cases Record.decode? (α := α) text with
      | none => exact Mirrors.throw _
      | some record => exact Mirrors.pure (some record)
  · cases record with
    | none => exact Mirrors.throw _
    | some record => exact Mirrors.pure record

theorem loadSecrets_mirrors : Mirrors Secrets.load Secrets.load := by
  refine Mirrors.bind (requireRecord_mirrors _) fun pw1 => ?_
  refine Mirrors.bind (requireRecord_mirrors _) fun pw3 => ?_
  exact Mirrors.bind (requireRecord_mirrors _) fun rc => Mirrors.pure _

theorem loadSlot_mirrors (id : SlotId) :
    Mirrors (KeySlots.loadSlot id) (KeySlots.loadSlot id) := by
  refine Mirrors.bind (requireRecord_mirrors _) fun record => ?_
  cases record.components with
  | none => exact Mirrors.pure _
  | some components =>
    dsimp only
    cases Rsa.PrivateKey.ofComponents? components with
    | error e => exact Mirrors.throw _
    | ok key => exact Mirrors.pure _

theorem loadCounter_mirrors : Mirrors KeySlots.loadCounter KeySlots.loadCounter := by
  refine Mirrors.bind (readBlob_mirrors _) fun bytes => ?_
  cases bytes with
  | none => exact Mirrors.throw _
  | some bytes =>
    dsimp only
    split
    · exact Mirrors.pure _
    · exact Mirrors.throw _

theorem loadKeys_mirrors : Mirrors KeySlots.load KeySlots.load := by
  refine Mirrors.bind (loadSlot_mirrors _) fun signature => ?_
  refine Mirrors.bind (loadSlot_mirrors _) fun decryption => ?_
  refine Mirrors.bind (loadSlot_mirrors _) fun authentication => ?_
  exact Mirrors.bind loadCounter_mirrors fun counter => Mirrors.pure _

/-- Everything that survives a loss of power is read in this way. -/
theorem load_mirrors : Mirrors load load := by
  refine Mirrors.bind (readWord_mirrors _) fun layout => ?_
  dsimp only
  split
  · exact Mirrors.throw _
  · refine Mirrors.bind loadSecrets_mirrors fun secrets => ?_
    refine Mirrors.bind loadKeys_mirrors fun keys => ?_
    refine Mirrors.bind (requireRecord_mirrors _) fun objects => ?_
    refine Mirrors.bind (readByte_mirrors _) fun terminated => ?_
    exact Mirrors.bind (readByte_mirrors _) fun status => Mirrors.pure _

/-! ## Reading what is held

Keys whose components stand for no private key make a reload fail.  But what is read is what is
held, whatever the keys are. -/

section Held

variable {store : MemoryStore} {kept : Persistent}

theorem loadSlot_leads (holds : Holds store kept) (id : SlotId) :
    (KeySlots.loadSlot id).Leads store fun r final =>
      final = store ∧ ∀ slot, r = .ok slot → slot.record = kept.keys.record id := by
  rw [KeySlots.loadSlot, leads_bind, leads_of_eq (holds.requireSlot id)]
  dsimp only
  split
  · exact ⟨rfl, by rintro _ ⟨⟩; rfl⟩
  · split
    · exact ⟨rfl, by rintro _ ⟨⟩⟩
    · exact ⟨rfl, by rintro _ ⟨⟩; rfl⟩

/-- What follows the load of a slot goes on with the record that is held. -/
theorem loadSlot_bind (holds : Holds store kept) {id : SlotId}
    {next : KeySlot → Attempt StoreError MemoryStore α}
    {post : Except StoreError α → MemoryStore → Prop} (failed : ∀ e, post (.error e) store)
    (rest : ∀ slot, slot.record = kept.keys.record id → (next slot).Leads store post) :
    (KeySlots.loadSlot id >>= next).Leads store post := by
  rw [leads_bind]
  refine (loadSlot_leads holds id).mono ?_
  rintro (e | slot) _ ⟨rfl, loaded⟩
  · exact failed e
  · exact rest slot (loaded slot rfl)

theorem loadKeys_leads (holds : Holds store kept) :
    KeySlots.load.Leads store fun r final =>
      final = store ∧ ∀ keys, r = .ok keys →
        keys.counter = kept.keys.counter ∧ ∀ id, keys.record id = kept.keys.record id := by
  refine loadSlot_bind holds (fun e => ⟨rfl, by rintro _ ⟨⟩⟩) fun signature first => ?_
  refine loadSlot_bind holds (fun e => ⟨rfl, by rintro _ ⟨⟩⟩) fun decryption second => ?_
  refine loadSlot_bind holds (fun e => ⟨rfl, by rintro _ ⟨⟩⟩) fun authentication third => ?_
  rw [leads_bind, leads_of_eq holds.loadCounter]
  refine ⟨rfl, ?_⟩
  rintro _ ⟨⟩
  refine ⟨rfl, fun id => ?_⟩
  cases id <;> assumption

theorem load_leads (holds : Holds store kept) :
    load.Leads store fun r _ =>
      ∀ kept', r = .ok kept' → ∀ cell : Cell, cell.Agrees kept kept' := by
  obtain ⟨mark, read_mark, terminated⟩ := holds.readTerminated
  obtain ⟨status, read_status, lasting⟩ := holds.readLasting
  rw [load, leads_bind, leads_of_eq holds.readLayout]
  dsimp only
  rw [if_neg (by simp), leads_bind, leads_of_eq holds.loadSecrets]
  dsimp only
  rw [leads_bind]
  refine (loadKeys_leads holds).mono ?_
  rintro (e | keys) _ ⟨rfl, loaded⟩
  · rintro _ ⟨⟩
  · obtain ⟨counter, records⟩ := loaded keys rfl
    dsimp only
    rw [leads_bind, leads_of_eq holds.loadObjects]
    dsimp only
    rw [leads_bind, leads_of_eq read_mark]
    dsimp only
    rw [leads_bind, leads_of_eq read_status, terminated]
    dsimp only
    rw [lasting]
    rintro _ ⟨⟩ cell
    cases cell with
    | slot id => exact (records id).symm
    | counter => exact counter.symm
    | _ => simp [Cell.Agrees]

/-- What is read from a store is held by it. -/
theorem Holds.of_load (holds : Holds store kept) {kept' : Persistent} {store' : MemoryStore}
    (loaded : load store = .ok kept' store') : Holds store kept' := by
  intro cell
  obtain ⟨content, found, denotes⟩ := holds cell
  exact ⟨content, found, denotes.of_agrees ((load_leads holds).of_ok loaded kept' rfl cell)⟩

end Held

/-! ## Reloading -/

/-- A reload takes up what is read from the store. -/
theorem reload_eq {σ : Type} [Backend σ] (card : Card σ) :
    reload card = match load card.store with
      | .ok kept store => .ok () ⟨card.memory.adopt kept, store⟩
      | .error e store => .error e { card with store } := by
  simp only [reload, bind, EStateM.bind, Kept.onStore]
  cases load card.store <;> rfl

/-- A reload takes up what the store has, or changes nothing. -/
theorem reload_leads (card : Card FlakyStore) :
    reload.Leads card fun r final =>
      (∃ reads, final.store = { card.store with reads }) ∧
        match r with
        | .ok () => ∃ kept, load card.store.inner = .ok kept card.store.inner ∧
          final.memory = card.memory.adopt kept
        | .error _ => final.memory = card.memory := by
  rw [reload, leads_bind, Kept.leads_onStore]
  refine (load_mirrors card.store).mono ?_
  rintro (e | kept) store ⟨⟨reads, -, rfl⟩, sound, -⟩
  · exact ⟨⟨reads, rfl⟩, rfl⟩
  · exact ⟨⟨reads, rfl⟩, kept, sound kept rfl, rfl⟩

/-- A reload on a reliable store does not fail if the store has everything. -/
theorem reload_of_reliable (memory : Memory) {store : FlakyStore} (reliable : store.Reliable)
    {kept : Persistent} {inner : MemoryStore} (loaded : load store.inner = .ok kept inner) :
    ∃ reads, store.reads ≤ reads ∧
      reload ⟨memory, store⟩ = .ok () ⟨memory.adopt kept, { store with reads }⟩ := by
  have never : ∀ e final, ¬ Mirrored load store (.error e) final := fun e final mirrored => by
    cases mirrored.complete reliable kept inner loaded
  obtain ⟨kept', final, ran, ⟨reads, later, rfl⟩, -, complete⟩ :=
    (load_mirrors store).exists_ok never
  cases complete reliable kept inner loaded
  refine ⟨reads, later, ?_⟩
  rw [reload_eq]
  dsimp only
  rw [ran]

end Card

end PgpCard
