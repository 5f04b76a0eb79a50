import PgpCard.Proofs.Card.Delivery
import PgpCard.Proofs.Card.Generation
import PgpCard.Proofs.Key.Public
import PgpCard.Proofs.Rsa.Components

/-!
# The public key that is shown belongs to the private key that is used

The public part of a key is read from the record of its slot, and the private key is held beside it.

* `KeySlot.Sound` : a slot has a key of the card with its byte strings, or neither;
* `KeysSound` : the slots are sound in memory, stale or not, and in the store.
  `keysSound_of_reached` carries it along everything that can become of a card;
* `KeySlot.Paired` : what soundness means for key and record, in numbers;
* `published_key_matches` : the slots match in every situation that comes about, what GENERATE
  ASYMMETRIC KEY PAIR reads is the public part of the key in the slot, and a restart changes
  neither.
-/

set_option autoImplicit false

namespace PgpCard

open Rsa

/-! ## Slots -/

/-- The slot has a key of the card, and what is kept of it are the byte strings of that key; or it has
neither. -/
inductive KeySlot.Sound (slot : KeySlot) : Prop
  | empty (keyless : slot.key = none) (blank : slot.record.components = none)
  | filled {key : PrivateKey} {components : Components} (present : slot.key = some key)
    (kept : slot.record.components = some components) (valid : key.Valid)
    (split : key.components? = .ok components)

/-- Every slot is sound. -/
def KeySlots.Sound (keys : KeySlots) : Prop := ∀ id, (keys.slot id).Sound

/-- Key and record of a slot fit together: one is there if the other is, the key is what the byte
strings stand for, and these are consistent and publish it. -/
structure KeySlot.Paired (slot : KeySlot) : Prop where
  present : slot.key = none ↔ slot.record.components = none
  rebuilt : ∀ components, slot.record.components = some components → ∃ key,
    slot.key = some key ∧ PrivateKey.ofComponents? components = .ok key ∧
      components.Consistent ∧ components.Publish key

namespace KeySlot.Sound

variable {env : Environment} {old slot : KeySlot}

theorem coherent (sound : slot.Sound) : slot.Coherent := by
  unfold Coherent
  cases sound with
  | empty keyless blank =>
    rw [blank]
    exact keyless
  | filled present kept valid split =>
    rw [kept]
    exact ⟨_, valid.ofComponents?_eq split, present⟩

theorem paired (sound : slot.Sound) : slot.Paired := by
  cases sound with
  | empty keyless blank =>
    refine ⟨⟨fun _ => blank, fun _ => keyless⟩, fun components kept => ?_⟩
    cases blank.symm.trans kept
  | @filled key components present kept valid split =>
    refine ⟨⟨fun keyless => ?_, fun blank => ?_⟩, fun other kept' => ?_⟩
    · cases present.symm.trans keyless
    · cases kept.symm.trans blank
    · obtain rfl := Option.some.inj (kept.symm.trans kept')
      exact ⟨key, present, valid.ofComponents?_eq split, valid.consistent split,
        PrivateKey.publish_of_components? split⟩

/-- The key of a slot has no fault. -/
theorem checked (sound : slot.Sound) {key : PrivateKey} (held : slot.key = some key) :
    key.checked = .ok key := by
  cases sound with
  | empty keyless => cases keyless.symm.trans held
  | filled present _ valid =>
    obtain rfl := Option.some.inj (present.symm.trans held)
    exact valid.checked

/-- A slot stays sound, whatever becomes of it. -/
theorem becomes (h : KeySlots.Becomes env old slot) (makes : env.MakesKeys) (before : old.Sound) :
    slot.Sound := by
  cases h with
  | kept => exact before
  | emptied => exact .empty rfl rfl
  | described record same =>
    cases before with
    | empty keyless blank => exact .empty keyless (same.trans blank)
    | filled present kept valid split => exact .filled present (same.trans kept) valid split
  | generated made split => exact .filled rfl rfl (makes _ made) split
  | imported made split => exact .filled rfl rfl (PrivateKey.valid_of_ofFactors? made) split

end KeySlot.Sound

namespace KeySlots

variable {env : Environment} {keys keys' : KeySlots}

theorem sound_factory : factory.Sound := fun id => by
  rw [slot_factory]
  exact .empty rfl rfl

theorem Sound.coherent (sound : keys.Sound) : keys.Coherent := fun id => (sound id).coherent

theorem Become.sound (h : Become env keys keys') (makes : env.MakesKeys) (before : keys.Sound) :
    keys'.Sound := fun id => (before id).becomes (h id) makes

/-- What is read of a sound slot decodes to modulus and exponent of the key in the slot. -/
theorem Sound.publicKey_eq (sound : keys.Sound) {id : SlotId} {key : PrivateKey}
    (present : (keys.slot id).key = some key) :
    ∃ template value n e, keys.publicKey id = .ok template ∧
      Tlv.readSingle true template = .ok (.mk 0x7F49 value [.leaf 0x81 n, .leaf 0x82 e], []) ∧
      n.length = keyBytes ∧ Bytes.toNat n = key.modulus ∧ Bytes.toNat e = key.publicExponent := by
  have slot := sound id
  generalize content : keys.slot id = held at slot present
  cases slot with
  | empty keyless => cases keyless.symm.trans present
  | @filled key' components present' kept valid split =>
    obtain rfl := Option.some.inj (present.symm.trans present')
    obtain ⟨modulus, exponent⟩ := PrivateKey.publish_of_components? split
    obtain ⟨-, short⟩ := PrivateKey.public_of_components? valid.size split
    have width : components.n.length = 256 := (valid.consistent split).width
    have narrow : components.e.length ≤ 5 := by
      rw [short]
      exact PrivateKey.length_minimal_exponent (PrivateKey.exponent_le_of_checked valid.checked)
    have read := readSingle_publicKeyTemplate components.n components.e (by omega) []
    rw [List.append_nil] at read
    refine ⟨_, _, components.n, components.e, ?_, read, width, modulus, exponent⟩
    rw [KeySlots.publicKey, KeySlots.record, content, kept]

end KeySlots

namespace Card

open Attempt

/-! ## The invariant -/

/-- The slots of a card are sound in memory, stale or not, and its store holds sound slots; unless
memory is stale, these are the same. -/
structure KeysSoundOn (card : Card FlakyStore) : Prop where
  memory : card.memory.keys.Sound
  durable : ∃ kept, Holds card.store.inner kept ∧ kept.keys.Sound ∧
    (card.memory.stale = false → kept = card.memory.persistent)

/-- A store without the mark may hold anything; one with the mark holds sound slots. -/
def KeysSound : Situation → Prop
  | .off store => Unmarked store ∨ ∃ kept, Holds store kept ∧ kept.keys.Sound
  | .on card => KeysSoundOn card

/-- What is read from a store with sound slots is what it holds. -/
theorem eq_of_load {store : MemoryStore} {kept kept' : Persistent} (holds : Holds store kept)
    (sound : kept.keys.Sound) (loaded : load store = .ok kept' store) : kept' = kept := by
  cases (load_of_holds holds sound.coherent).symm.trans loaded
  rfl

theorem keysSound_openOn (profile : Profile) {store : FlakyStore}
    (sound : KeysSound (.off store.inner)) :
    (openOn profile).Leads store fun r final =>
      match r with
      | .ok memory => KeysSound (.on ⟨memory, final⟩)
      | .error _ => KeysSound (.off final.inner) := by
  rcases sound with unmarked | ⟨kept, holds, slots⟩
  · refine (openOn_of_unmarked profile unmarked).mono ?_
    rintro (e | memory) final ends
    · exact .inl ends.1
    · obtain ⟨rfl, pristine⟩ := ends
      exact ⟨KeySlots.sound_factory, _, pristine.holds, KeySlots.sound_factory, fun _ => rfl⟩
  · refine (openOn_of_holds profile holds).mono ?_
    rintro (e | memory) final ⟨same, opened⟩
    · exact .inr ⟨kept, by rwa [same], slots⟩
    · obtain ⟨kept', loaded, rfl⟩ := opened memory rfl
      obtain rfl := eq_of_load holds slots loaded
      exact ⟨slots, kept', by rwa [same], slots, fun _ => rfl⟩

theorem keysSound_answer {env : Environment} (makes : env.MakesKeys) (cmd : Command)
    {card : Card FlakyStore} (sound : KeysSoundOn card) (fresh : card.memory.stale = false) :
    KeysSoundOn (answer env cmd card).2 := by
  obtain ⟨kept, holds, -, same⟩ := sound.durable
  rw [same fresh] at holds
  obtain ⟨kept', holds', answers⟩ := answer_answers env cmd holds
  obtain ⟨memory, durable⟩ := answers.become
  exact ⟨memory.sound makes sound.memory, kept', holds', durable.sound makes sound.memory,
    answers.settled⟩

/-- The card on which a command is answered has sound slots. -/
theorem keysSound_ready {card ready : Card FlakyStore} (sound : KeysSoundOn card)
    (found : ready? card = some ready) : KeysSoundOn ready := by
  unfold ready? at found
  split at found
  · split at found
    · rename_i fresh reloaded
      obtain ⟨memory, store⟩ := fresh
      obtain ⟨⟨reads, rfl⟩, kept, loaded, rfl⟩ := (reload_leads card).of_ok reloaded
      obtain ⟨held, holds, slots, -⟩ := sound.durable
      obtain rfl := eq_of_load holds slots loaded
      cases found
      exact ⟨slots, kept, holds, slots, fun _ => rfl⟩
    · cases found
  · cases found
    exact sound

theorem keysSound_process {env : Environment} (makes : env.MakesKeys) (frame : Bytes)
    {card : Card FlakyStore} (sound : KeysSoundOn card) :
    KeysSoundOn (process env frame card).2 := by
  cases parsed : Command.ofFrame? frame with
  | error e =>
    unfold process
    rw [parsed]
    exact sound
  | ok cmd =>
    cases found : ready? card with
    | some ready =>
      rw [process_of_ready parsed found]
      exact keysSound_answer makes cmd (keysSound_ready sound found) (store_ready found).1
    | none =>
      -- the reload has failed: memory stays, and so does what the store holds
      obtain ⟨reads, store⟩ := store_of_not_ready env frame found
      have memory := memory_of_not_ready env frame found
      refine ⟨by rw [memory]; exact sound.memory, ?_⟩
      rw [memory, store]
      exact sound.durable

/-- The slots are sound in every situation that comes about. -/
theorem keysSound_of_reached {outside : Environment → Prop}
    (makes : ∀ env, outside env → env.MakesKeys) {situation : Situation}
    (reached : Reached outside situation) : KeysSound situation := by
  induction reached with
  | blank => exact .inl rfl
  | opens _ opened ih => exact (keysSound_openOn _ ih).of_ok opened
  | fails _ failed ih => exact (keysSound_openOn _ ih).of_error failed
  | processes _ draws frame ih => exact keysSound_process (makes _ draws) frame ih
  | stops _ ih =>
    obtain ⟨kept, holds, slots, -⟩ := KeysSoundOn.durable ih
    exact .inr ⟨kept, holds, slots⟩

/-! ## Reading a public key -/

/-- GENERATE ASYMMETRIC KEY PAIR for the public part of the key in a slot. -/
structure ReadsKey (cmd : Command) (id : SlotId) : Prop where
  instruction : cmd.instruction = .generateKeyPair
  mode : cmd.p1 = 0x81
  template : templateSlot? cmd.data = some id

/-- It returns the public part and leaves the card as it is. -/
theorem dispatch_readsKey {env : Environment} {cmd : Command} {id : SlotId}
    {card : Card FlakyStore} {template : Bytes} (reads : ReadsKey cmd id)
    (shown : card.memory.keys.publicKey id = .ok template) :
    dispatch env cmd card = .ok template card := by
  have known : ¬ (cmd.p1 ≠ 0x80 ∧ cmd.p1 ≠ 0x81) := fun other => other.2 reads.mode
  unfold dispatch
  rw [reads.instruction]
  dsimp only
  unfold generateKeyPair
  rw [if_neg known, reads.template]
  dsimp only
  rw [if_pos reads.mode]
  show Attempt.ofExcept (card.memory.keys.publicKey id) card = .ok template card
  rw [shown]
  rfl

/-! ## Key and record -/

/-- The slots with a key are those with byte strings, in every situation that comes about with keys
of the card from outside: the byte strings are consistent and stand for the key beside them.  So
what GENERATE ASYMMETRIC KEY PAIR reads of a slot is the public part of the key that the slot uses.
Switching the card off and on again leaves the keys as they are, unless memory was stale.

That a key was checked, `key.checked = .ok key`, is the invariant of every key there is: a key that
the outside makes has it by assumption, and one that is imported or restored is checked first.  So
the keys in the slots have it, and every key that has it, and has byte strings, is rebuilt from
these. -/
theorem published_key_matches {card : Card FlakyStore}
    (reached : Reached Environment.MakesKeys (.on card)) :
    (∀ id, (card.memory.keys.slot id).Paired) ∧
    (∀ (env : Environment) (frame : Bytes) (ready : Card FlakyStore) (whole : Command)
      (id : SlotId) (key : PrivateKey),
      Step.Carries ⟨env, frame, card⟩ ready whole → ReadsKey whole id →
      ready.memory.terminated = false → (ready.memory.keys.slot id).key = some key →
      ∃ template value n e, Fetched env frame card template ∧
        Tlv.readSingle true template = .ok (.mk 0x7F49 value [.leaf 0x81 n, .leaf 0x82 e], []) ∧
        n.length = keyBytes ∧ Bytes.toNat n = key.modulus ∧ Bytes.toNat e = key.publicExponent) ∧
    (card.memory.stale = false → ∀ profile : Profile, ∃ memory : Memory,
      openOn profile card.store.inner = .ok memory card.store.inner ∧
        memory.keys = card.memory.keys) ∧
    (∀ id key, (card.memory.keys.slot id).key = some key → key.checked = .ok key) ∧
    (∀ (key : PrivateKey) (components : Components), key.checked = .ok key →
      key.components? = .ok components → PrivateKey.ofComponents? components = .ok key) := by
  have sound : KeysSoundOn card := keysSound_of_reached (fun _ made => made) reached
  refine ⟨fun id => (sound.memory id).paired, ?_, fun fresh profile => ?_,
    fun id _ => (sound.memory id).checked, ?_⟩
  · intro env frame ready whole id key carries reads active present
    have slots := (keysSound_ready sound carries.1).memory
    obtain ⟨template, value, n, e, shown, decodes⟩ := slots.publicKey_eq present
    have other : whole.instruction ≠ .getResponse := by simp [reads.instruction]
    refine ⟨template, value, n, e, ?_, decodes⟩
    exact Step.fetched_of_carries carries other active (dispatch_readsKey reads shown)
  · have holds := holds_of_reached reached fresh
    have loaded := load_of_holds holds sound.memory.coherent
    exact ⟨_, openOn_of_load holds loaded profile, rfl⟩
  · intro key components checked split
    rw [PrivateKey.ofComponents?_of_components? split, checked]

/-- What the outside gives to a card that makes a key of two primes. -/
def sampleKey : Environment where
  random _ := 0
  newKey _ := PrivateKey.ofFactors? 3 sampleP sampleQ
  now := 0

/-- A new card with this signature key.  Only the kernel is to compute with it. -/
@[irreducible] def publishingCard : Card FlakyStore :=
  (run [(sampleKey, [0x00, 0x20, 0x00, 0x83, 0x08] ++ Secrets.defaultPw3),
    (sampleKey, generateFrame)] (newCard fun _ => false)).2

/-- GENERATE ASYMMETRIC KEY PAIR for the public part of the signature key. -/
def readKeyFrame : Bytes := [0x00, 0x47, 0x81, 0x00, 0x02, 0xB6, 0x00]

def readKeyCommand : Command := ⟨0x00, 0x47, 0x81, 0x00, [0xB6, 0x00], none⟩

theorem carries_readKeyFrame {step : Step FlakyStore} (frame : step.frame = readKeyFrame)
    (fresh : step.card.memory.stale = false) (idle : step.card.memory.chain.pending = none) :
    step.Carries step.card readKeyCommand :=
  Step.carries_of_idle (by rw [frame]; rfl) rfl (by decide) (ready?_of_fresh fresh) idle

theorem readsKey_readKeyCommand : ReadsKey readKeyCommand .signature := ⟨rfl, rfl, rfl⟩

theorem published_key_matches_sample :
    Reached Environment.MakesKeys (.on publishingCard) ∧
      ∃ key, (publishingCard.memory.keys.slot .signature).key = some key ∧
        ∃ template value n e, Fetched sampleKey readKeyFrame publishingCard template ∧
          Tlv.readSingle true template =
            .ok (.mk 0x7F49 value [.leaf 0x81 n, .leaf 0x82 e], []) ∧
          n.length = keyBytes ∧ Bytes.toNat n = key.modulus ∧
          Bytes.toNat e = key.publicExponent := by
  have makes : sampleKey.MakesKeys := fun _ made => PrivateKey.valid_of_ofFactors? made
  have reached : Reached Environment.MakesKeys (.on publishingCard) := by
    unfold publishingCard
    refine reached_run (fun step member => ?_) (reached_newCard _)
    simp only [List.mem_cons, List.not_mem_nil, or_false] at member
    rcases member with rfl | rfl <;> exact makes
  have begins : publishingCard.memory.stale = false ∧
      publishingCard.memory.chain.pending = none ∧ publishingCard.memory.terminated = false ∧
      (publishingCard.memory.keys.slot .signature).key.isSome = true := by decide +kernel
  obtain ⟨fresh, idle, active, filled⟩ := begins
  obtain ⟨key, present⟩ := Option.isSome_iff_exists.mp filled
  have carries : Step.Carries ⟨sampleKey, readKeyFrame, publishingCard⟩ publishingCard
      readKeyCommand :=
    carries_readKeyFrame rfl fresh idle
  have published := (published_key_matches reached).2.1
  exact ⟨reached, key, present,
    published _ _ _ _ _ key carries readsKey_readKeyCommand active present⟩

end Card

end PgpCard
