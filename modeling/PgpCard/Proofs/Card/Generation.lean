import PgpCard.Proofs.Card.Vouching
import PgpCard.Proofs.Key.Outcomes

/-!
# What the generation of a key leaves in the store

A new key is written with the record of its slot.  For the signature slot the counter is written
after it, so there are two writes, and either may be refused.

* `KeySlots.Rekeys` : how a generation ends, as the two writes tell;
* `MakesKey`, `Step.Settles` : the command, and what it may leave;
* `generation_settled` : a generation that fails leaves record and counter as they were, unless the
  second write alone was refused; one that succeeds leaves both as they should be; and it succeeds
  wherever a key can be made and no write is refused;
* `generation_half_done` : after a generation that failed, a new signature key has the counter of
  the key before it.
-/

set_option autoImplicit false

namespace PgpCard

open Attempt

namespace KeySlots

/-! ## On the key slots -/

section Writing

variable {keys : KeySlots} {store : FlakyStore}
  {post : Except StoreError Unit → Kept KeySlots FlakyStore → Prop}

/-- A slot gets a new content in memory where the store takes its record. -/
theorem leads_commit {id : SlotId} {content : KeySlot}
    (done : store.writeFails store.writes = false → post (.ok ()) ⟨keys.putSlot id content, {
      store with
      inner := store.inner.putBlob id.recordName (Record.encode content.record)
      writes := store.writes + 1
      journal := .blob id.recordName (Record.encode content.record) :: store.journal }⟩)
    (refused : store.writeFails store.writes = true → post (.error FaultyStore.refusal) ⟨keys, {
      store with
      writes := store.writes + 1
      journal := .refusedBlob id.recordName :: store.journal }⟩) :
    (commit id content).Leads ⟨keys, store⟩ post := by
  rw [commit, leads_bind, Kept.leads_onStore]
  exact FaultyStore.leads_writeBlob done refused

/-- The counter gets a new value in memory where the store takes it. -/
theorem leads_setCounter {value : Nat} (small : value ≤ counterMax)
    (done : store.writeFails store.writes = false → post (.ok ()) ⟨{ keys with counter := value }, {
      store with
      inner := store.inner.putBlob counterName (Bytes.ofNat counterLength value)
      writes := store.writes + 1
      journal := .blob counterName (Bytes.ofNat counterLength value) :: store.journal }⟩)
    (refused : store.writeFails store.writes = true → post (.error FaultyStore.refusal) ⟨keys, {
      store with
      writes := store.writes + 1
      journal := .refusedBlob counterName :: store.journal }⟩) :
    (setCounter value).Leads ⟨keys, store⟩ post := by
  unfold setCounter
  rw [Nat.min_eq_left small]
  dsimp only
  rw [leads_bind, Kept.leads_onStore]
  exact FaultyStore.leads_writeBlob done refused

end Writing

/-- The outside makes a key, and it has components. -/
structure Offers (env : Environment) (key : Rsa.PrivateKey) (components : Rsa.Components) :
    Prop where
  made : env.newKey () = .ok key
  split : key.components? = .ok components

/-- A slot holds a new key with its components, its time and its fingerprint. -/
structure NewKey (env : Environment) (content : KeySlot) (components : Rsa.Components) : Prop where
  offered : ∃ key, content.key = some key ∧ Offers env key components
  kept : content.record.components = some components
  marked : content.record.fingerprint =
    fingerprint components.n components.e content.record.generationTime

theorem NewKey.exists_offers {env : Environment} {content : KeySlot} {components : Rsa.Components}
    (new : NewKey env content components) : ∃ key components, Offers env key components :=
  new.offered.imp fun _ offered => ⟨components, offered.2⟩

theorem newKey_generated {env : Environment} {key : Rsa.PrivateKey} {components : Rsa.Components}
    (offers : Offers env key components) (old : KeyRecord) :
    NewKey env (generated env old key components) components :=
  ⟨⟨key, rfl, offers⟩, rfl, rfl⟩

/-- The ways in which the generation of a key can end, with the slots in memory and the store
afterwards, as the schedule of refused writes tells. -/
inductive Rekeys (env : Environment) (keys : KeySlots) (id : SlotId) (store : FlakyStore) :
    Except CardError Bytes → KeySlots → MemoryStore → Prop
  | failed (e : Rsa.Error) (none : ∀ key components, ¬ Offers env key components) :
    Rekeys env keys id store (.error (.crypto e)) keys store.inner
  | refused (e : StoreError) (fails : store.writeFails store.writes = true) :
    Rekeys env keys id store (.error (.storage e)) keys store.inner
  /-- The key is written, but the counter of the key before it stays. -/
  | uncounted {components : Rsa.Components} {content : KeySlot}
    (new : NewKey env content components) (signature : id = .signature)
    (e : StoreError) (passes : store.writeFails store.writes = false)
    (fails : store.writeFails (store.writes + 1) = true) :
    Rekeys env keys id store (.error (.storage e)) (keys.putSlot id content)
      (store.inner.putBlob id.recordName (Record.encode content.record))
  | counted {components : Rsa.Components} {content : KeySlot}
    (new : NewKey env content components) (signature : id = .signature)
    (passes : store.writeFails store.writes = false)
    (passes' : store.writeFails (store.writes + 1) = false) :
    Rekeys env keys id store (.ok (publicKeyTemplate components.n components.e))
      { keys.putSlot id content with counter := 0 }
      ((store.inner.putBlob id.recordName (Record.encode content.record)).putBlob counterName
        (Bytes.ofNat counterLength 0))
  | filled {components : Rsa.Components} {content : KeySlot}
    (new : NewKey env content components) (other : id ≠ .signature)
    (passes : store.writeFails store.writes = false) :
    Rekeys env keys id store (.ok (publicKeyTemplate components.n components.e))
      (keys.putSlot id content)
      (store.inner.putBlob id.recordName (Record.encode content.record))

theorem generate_leads (env : Environment) (keys : KeySlots) (id : SlotId) (store : FlakyStore) :
    (generate env id).Leads ⟨keys, store⟩ fun r final =>
      Rekeys env keys id store r final.memory final.store.inner := by
  unfold generate
  rw [leads_bind, leads_mapError, leads_ofExcept]
  cases made : env.newKey () with
  | error e => exact .failed e fun key components offers => by cases made.symm.trans offers.made
  | ok key =>
    dsimp only [Except.mapError]
    rw [leads_bind, leads_mapError, leads_ofExcept]
    cases split : key.components? with
    | error e =>
      refine .failed e fun key' components offers => ?_
      cases made.symm.trans offers.made
      cases split.symm.trans offers.split
    | ok components =>
      have new := newKey_generated ⟨made, split⟩ (keys.record id)
      dsimp only [Except.mapError]
      rw [leads_bind, Kept.leads_held]
      dsimp only
      rw [leads_bind, leads_mapError]
      refine leads_commit (fun passes => ?_) fun fails => .refused _ fails
      by_cases signature : id = .signature
      · rw [if_pos signature]
        dsimp only [Except.mapError]
        rw [leads_bind, leads_mapError]
        exact leads_setCounter (Nat.zero_le _)
          (fun passes' => .counted new signature passes passes')
          (fun fails => .uncounted new signature _ passes fails)
      · rw [if_neg signature]
        exact .filled new signature passes

end KeySlots

namespace Card

/-! ## The command -/

/-- GENERATE ASYMMETRIC KEY PAIR for a new key in a slot. -/
structure MakesKey (cmd : Command) (id : SlotId) : Prop where
  instruction : cmd.instruction = .generateKeyPair
  mode : cmd.p1 = 0x80
  template : templateSlot? cmd.data = some id

variable {env : Environment} {cmd : Command} {id : SlotId}

theorem generateKeyPair_leads (makes : MakesKey cmd id) (card : Card FlakyStore) :
    (dispatch env cmd).Leads card fun r final =>
      (card.memory.security.pw3 = false ∧ r = .error .securityStatusNotSatisfied ∧ final = card) ∨
        ∃ keys, KeySlots.Rekeys env card.memory.keys id card.store r keys final.store.inner ∧
          final.memory = { card.memory with keys } := by
  have known : ¬ (cmd.p1 ≠ 0x80 ∧ cmd.p1 ≠ 0x81) := fun other => other.1 makes.mode
  have new : cmd.p1 ≠ 0x81 := by rw [makes.mode]; decide
  unfold dispatch
  rw [makes.instruction]
  dsimp only
  unfold generateKeyPair
  rw [if_neg known, makes.template]
  dsimp only
  rw [if_neg new]
  refine leads_require_bind (fun denied => .inl ⟨denied, rfl, rfl⟩) fun _ => ?_
  refine Kept.leads_onPart.mpr ((KeySlots.generate_leads env _ id card.store).mono ?_)
  exact fun r final rekeys => .inr ⟨final.memory, rekeys, rfl⟩

/-! ## Steps -/

/-- The record of a slot, as the store has it. -/
def Stores (store : MemoryStore) (id : SlotId) (record : KeyRecord) : Prop :=
  ∃ text, store.at? (Cell.slot id).place = some (.inl text) ∧ Record.decode? text = some record

theorem stores_putBlob (store : MemoryStore) (id : SlotId) (record : KeyRecord) :
    Stores (store.putBlob id.recordName (Record.encode record)) id record :=
  ⟨_, (store.at?_putBlob _ _ _).trans (if_pos rfl), Record.decode?_encode record⟩

/-- The record of a slot is not kept where the counter is. -/
theorem at?_counter_putBlob (store : MemoryStore) (id : SlotId) (data : Bytes) :
    (store.putBlob id.recordName data).at? Cell.counter.place = store.at? Cell.counter.place := by
  have apart : Cell.counter.place ≠ (Cell.slot id).place := fun same => by
    cases Cell.place_inj same
  exact (store.at?_putBlob _ _ _).trans (if_neg apart)

theorem Stores.putCounter {store : MemoryStore} {record : KeyRecord} (h : Stores store id record)
    (data : Bytes) : Stores (store.putBlob KeySlots.counterName data) id record := by
  have apart : (Cell.slot id).place ≠ Cell.counter.place := fun same => by
    cases Cell.place_inj same
  obtain ⟨text, found, read⟩ := h
  exact ⟨text, ((store.at?_putBlob _ _ _).trans (if_neg apart)).trans found, read⟩

namespace Step

/-- The store has the record of a slot and the counter as before. -/
def SparesKey (step : Step FlakyStore) (id : SlotId) : Prop :=
  step.after.store.inner.at? (Cell.slot id).place =
      step.card.store.inner.at? (Cell.slot id).place ∧
    step.after.store.inner.at? Cell.counter.place = step.card.store.inner.at? Cell.counter.place

/-- The store has refused the second of two writes: it has a new signature key, and the counter of
the key before it. -/
structure HalfDone (step : Step FlakyStore) (id : SlotId) : Prop where
  signature : id = .signature
  first : step.card.store.writeFails step.card.store.writes = false
  second : step.card.store.writeFails (step.card.store.writes + 1) = true
  stored : ∃ content components, KeySlots.NewKey step.env content components ∧
    Stores step.after.store.inner id content.record
  counter : step.after.store.inner.at? Cell.counter.place =
    step.card.store.inner.at? Cell.counter.place

/-- Memory and store have a new key in a slot, the response shows its public part, and a new
signature key has a counter of zero. -/
structure Rekeyed (step : Step FlakyStore) (id : SlotId) (content : KeySlot)
    (components : Rsa.Components) : Prop where
  new : KeySlots.NewKey step.env content components
  shown : (process step.env step.frame step.card).1 =
    (reply (.ok (publicKeyTemplate components.n components.e))).toFrame
  pending : step.after.memory.outgoing =
    (Outgoing.send (publicKeyTemplate components.n components.e)).2
  held : step.after.memory.keys.slot id = content
  stored : Stores step.after.store.inner id content.record
  counter : step.after.store.inner.at? Cell.counter.place =
    if id = .signature then some (.inl [0, 0, 0])
    else step.card.store.inner.at? Cell.counter.place

/-- The outside makes a key and the store takes everything that is written of it. -/
def Unhindered (step : Step FlakyStore) (id : SlotId) : Prop :=
  (∃ key components, KeySlots.Offers step.env key components) ∧
    step.card.store.writeFails step.card.store.writes = false ∧
    (id = .signature → step.card.store.writeFails (step.card.store.writes + 1) = false)

/-- How a generation settles, where it is granted if `granted` holds. -/
structure Settles (step : Step FlakyStore) (id : SlotId) (granted : Prop) : Prop where
  failure : step.succeeds = false → step.SparesKey id ∨ step.HalfDone id
  success : step.succeeds = true → ∃ content components, step.Rekeyed id content components
  certain : granted → (step.succeeds = true ↔ step.Unhindered id)

section Settles

variable {step : Step FlakyStore} {granted : Prop}

theorem settles_of_failure (failed : step.succeeds = false)
    (left : step.SparesKey id ∨ step.HalfDone id) (hindered : granted → ¬ step.Unhindered id) :
    step.Settles id granted where
  failure _ := left
  success done := by cases failed.symm.trans done
  certain given := iff_of_false (by rw [failed]; decide) (hindered given)

theorem settles_of_success {content : KeySlot} {components : Rsa.Components}
    (done : step.succeeds = true) (free : step.Unhindered id)
    (rekeyed : step.Rekeyed id content components) : step.Settles id granted where
  failure failed := by cases done.symm.trans failed
  success _ := ⟨content, components, rekeyed⟩
  certain _ := iff_of_true done free

end Settles

end Step

/-- What the generation of a key leaves, whatever the outside makes and the store refuses.  Where it
fails, the store has the record of the slot and the counter as before, unless the second of the
two writes for a signature key alone was refused.  Where it succeeds, the slot has the key whose
public part is shown, with its fingerprint, and the counter of a new signature key is zero.  With
PW3 verified it succeeds wherever a key is made and no write is refused. -/
theorem generation_settled {step : Step FlakyStore} {ready : Card FlakyStore} {whole : Command}
    (carries : step.Carries ready whole) (active : ready.memory.terminated = false)
    (makes : MakesKey whole id) : step.Settles id (ready.memory.security.pw3 = true) := by
  have other : whole.instruction ≠ .getResponse := by simp [makes.instruction]
  obtain ⟨r, final, ends, processed⟩ := process_of_carries carries other (.inl active)
    (generateKeyPair_leads makes _)
  obtain ⟨-, reads, begins⟩ := store_ready carries.1
  have result : step.succeeds = r.isOk := by rw [Step.succeeds, processed, reportsSuccess_reply]
  have after : step.after = ⟨conclude r final.memory, final.store⟩ := by
    rw [Step.after, processed]
  rcases ends with ⟨denied, rfl, rfl⟩ | ⟨keys, rekeys, memory⟩
  · have spares : step.SparesKey id := by
      rw [Step.SparesKey, after, begun, begins]
      exact ⟨rfl, rfl⟩
    refine Step.settles_of_failure result (.inl spares) fun granted => ?_
    cases denied.symm.trans granted
  · have stored : step.after.store.inner = final.store.inner := by rw [after]
    generalize final.store.inner = inner at rekeys stored
    rw [begun, begins] at rekeys
    have held : step.after.memory.keys = keys := by
      rw [after, memory]
      cases r <;> rfl
    cases rekeys with
    | failed e none =>
      refine Step.settles_of_failure result (.inl ⟨by rw [stored], by rw [stored]⟩) fun _ free => ?_
      obtain ⟨⟨key, components, offers⟩, -⟩ := free
      exact none key components offers
    | refused e fails =>
      refine Step.settles_of_failure result (.inl ⟨by rw [stored], by rw [stored]⟩) fun _ free => ?_
      cases free.2.1.symm.trans fails
    | uncounted new signature e passes fails =>
      refine Step.settles_of_failure result (.inr ⟨signature, passes, fails, ?_, ?_⟩)
        fun _ free => ?_
      · exact ⟨_, _, new, stored ▸ stores_putBlob _ _ _⟩
      · rw [stored, at?_counter_putBlob]
      · cases (free.2.2 signature).symm.trans fails
    | counted new signature passes passes' =>
      subst signature
      refine Step.settles_of_success result ⟨new.exists_offers, passes, fun _ => passes'⟩
        ⟨new, by rw [processed], by rw [after]; rfl, ?_, ?_, ?_⟩
      · rw [held]; rfl
      · exact stored ▸ (stores_putBlob _ _ _).putCounter _
      · rw [stored]
        exact (MemoryStore.at?_putBlob _ _ _ _).trans (if_pos rfl)
    | filled new other passes =>
      refine Step.settles_of_success result
        ⟨new.exists_offers, passes, fun same => absurd same other⟩
        ⟨new, by rw [processed], by rw [after]; rfl, ?_, ?_, ?_⟩
      · rw [held, KeySlots.slot_putSlot, if_pos rfl]
      · exact stored ▸ stores_putBlob _ _ _
      · rw [stored, at?_counter_putBlob, if_neg other]

/-- GENERATE ASYMMETRIC KEY PAIR for a new signature key. -/
def generateFrame : Bytes := [0x00, 0x47, 0x80, 0x00, 0x02, 0xB6, 0x00]

def generateCommand : Command := ⟨0x00, 0x47, 0x80, 0x00, [0xB6, 0x00], none⟩

/-- A first signature key on a new card, once PW3 is verified. -/
def firstGeneration : Step FlakyStore where
  env := smallKey
  frame := generateFrame
  card := (run (keyedFrames.take 1) (newCard fun _ => false)).2

theorem carries_generateFrame {step : Step FlakyStore} (frame : step.frame = generateFrame)
    (fresh : step.card.memory.stale = false) (idle : step.card.memory.chain.pending = none) :
    step.Carries step.card generateCommand :=
  Step.carries_of_idle (by rw [frame]; rfl) rfl (by decide) (ready?_of_fresh fresh) idle

theorem makesKey_generateCommand : MakesKey generateCommand .signature := ⟨rfl, rfl, rfl⟩

theorem generation_settled_first :
    firstGeneration.Carries firstGeneration.card generateCommand ∧
      firstGeneration.card.memory.terminated = false ∧ MakesKey generateCommand .signature ∧
      ∃ content components, firstGeneration.Rekeyed .signature content components := by
  have begins : firstGeneration.card.memory.stale = false ∧
      firstGeneration.card.memory.chain.pending = none ∧
      firstGeneration.card.memory.terminated = false := by decide +kernel
  have done : firstGeneration.succeeds = true := by decide +kernel
  have carries := carries_generateFrame rfl begins.1 begins.2.1
  exact ⟨carries, begins.2.2, makesKey_generateCommand,
    (generation_settled carries begins.2.2 makesKey_generateCommand).success done⟩

/-- What the outside gives to a card that makes another small key. -/
def otherKey : Environment where
  random _ := 0
  newKey _ := .ok
    { modulus := 19807040628571784266664378683, publicExponent := 65537
      privateExponent := 132677584203470693404827689, p := 70368744177679, q := 281474976710677 }
  now := 0

/-- A card with a signature key that has made one signature; its store has taken nineteen writes. -/
def signedCard (writeFails : Nat → Bool) : Card FlakyStore :=
  (run (keyedFrames ++ [(smallKey, signingStep.frame)]) (newCard writeFails)).2

theorem reached_signedCard {writeFails : Nat → Bool}
    (opened : openOn .default ({ inner := .empty, writeFails } : FlakyStore) =
      .ok (newCard writeFails).memory (newCard writeFails).store) :
    Reached Environment.SoundKeys (.on (signedCard writeFails)) := by
  have small : smallKey.SoundKeys := by
    rintro key ⟨⟩
    decide +kernel
  refine reached_run (fun step member => ?_) (.opens .blank opened)
  simp only [keyedFrames, List.cons_append, List.nil_append, List.mem_cons, List.not_mem_nil,
    or_false] at member
  rcases member with rfl | rfl | rfl | rfl <;> exact small

/-- A second signature key, on a card whose store refuses the last write of it. -/
def secondGeneration : Step FlakyStore where
  env := otherKey
  frame := generateFrame
  card := signedCard (· == 20)

/-- After a generation that failed, the store has a new signature key with the counter of the key
before it. -/
theorem generation_half_done :
    Reached Environment.SoundKeys (.on secondGeneration.card) ∧
      secondGeneration.env.SoundKeys ∧
      secondGeneration.Carries secondGeneration.card generateCommand ∧
      MakesKey generateCommand .signature ∧
      secondGeneration.card.memory.terminated = false ∧
      secondGeneration.card.memory.security.pw3 = true ∧
      secondGeneration.succeeds = false ∧
      secondGeneration.after.store.inner.at? (Cell.slot .signature).place ≠
        secondGeneration.card.store.inner.at? (Cell.slot .signature).place ∧
      secondGeneration.after.store.inner.at? Cell.counter.place = some (.inl [0, 0, 1]) := by
  have other : otherKey.SoundKeys := by
    rintro key ⟨⟩
    decide +kernel
  have begins : secondGeneration.card.memory.stale = false ∧
      secondGeneration.card.memory.chain.pending = none ∧
      secondGeneration.card.memory.terminated = false ∧
      secondGeneration.card.memory.security.pw3 = true := by decide +kernel
  have ends : secondGeneration.succeeds = false ∧
      secondGeneration.after.store.inner.at? (Cell.slot .signature).place ≠
        secondGeneration.card.store.inner.at? (Cell.slot .signature).place ∧
      secondGeneration.after.store.inner.at? Cell.counter.place = some (.inl [0, 0, 1]) := by
    decide +kernel
  have reached : Reached Environment.SoundKeys (.on secondGeneration.card) := by
    dsimp only [secondGeneration]
    exact reached_signedCard rfl
  exact ⟨reached, other, carries_generateFrame rfl begins.1 begins.2.1, makesKey_generateCommand,
    begins.2.2.1, begins.2.2.2, ends⟩

end Card

end PgpCard
