import PgpCard.Proofs.Card.Exchange
import PgpCard.Proofs.Card.Opening

/-!
# What can become of a card

A card is switched on by opening it on its store, processes frames, and is switched off again; the
store may refuse reads and writes in any pattern, and what it holds is all that remains when the
card is off.

* `Reached` is the set of situations that come about in this way from an empty store.
* `Sound` is the invariant: a store that is marked holds everything that survives, and memory
  agrees with it unless it is stale.  `sound_of_reached` carries it along.
* `write_through` : memory that is not stale is what an opening of the store would give.
-/

set_option autoImplicit false

namespace PgpCard

/-- A card that is switched off, with its store, or one that is switched on. -/
inductive Situation
  | off (store : MemoryStore)
  | on (card : Card FlakyStore)

namespace Card

open Attempt

/-- The situations of a card whose store was empty at first, where each command may draw what it
draws from some environments. -/
inductive Reached (outside : Environment → Prop) : Situation → Prop
  | blank : Reached outside (.off .empty)
  | opens {store store' : FlakyStore} {profile : Profile} {memory : Memory}
    (before : Reached outside (.off store.inner))
    (opened : openOn profile store = .ok memory store') : Reached outside (.on ⟨memory, store'⟩)
  | fails {store store' : FlakyStore} {profile : Profile} {e : StoreError}
    (before : Reached outside (.off store.inner))
    (failed : openOn profile store = .error e store') : Reached outside (.off store'.inner)
  | processes {card : Card FlakyStore} (before : Reached outside (.on card)) {env : Environment}
    (draws : outside env) (frame : Bytes) : Reached outside (.on (process env frame card).2)
  | stops {card : Card FlakyStore} (before : Reached outside (.on card)) :
    Reached outside (.off card.store.inner)

/-- A card as it is opened on an empty store, which refuses some of the writes. -/
def newCard (writeFails : Nat → Bool) : Card FlakyStore :=
  ⟨Memory.renewed { profile := .default }, (openOn .default).reach { inner := .empty, writeFails }⟩

/-- A VERIFY of PW1 for signing, with its first value. -/
def verifyFrame : Bytes := [0x00, 0x20, 0x00, 0x81, 0x06] ++ Secrets.defaultPw1

/-- A new card once PW1 is verified for signing. -/
def verifiedCard : Card FlakyStore :=
  (process (.ofSeed [] 0) verifyFrame (newCard fun _ => false)).2

theorem reached_newCard (outside : Environment → Prop) :
    Reached outside (.on (newCard fun _ => false)) := by
  have opened : openOn .default ({ inner := .empty } : FlakyStore) =
      .ok (newCard fun _ => false).memory (newCard fun _ => false).store := rfl
  exact .opens .blank opened

theorem reached_verifiedCard : Reached Environment.SoundKeys (.on verifiedCard) :=
  (reached_newCard _).processes (Environment.soundKeys_ofRandom _ _) verifyFrame

/-! ## The invariant -/

/-- Everything that survives is in the store, and, where keys are trusted to be sound, it can be
read back. -/
structure Durable (trusted : Prop) (store : MemoryStore) (kept : Persistent) : Prop where
  holds : Holds store kept
  coherent : trusted → kept.keys.Coherent

/-- A card that is switched on has everything that survives in its store, and memory agrees with
it unless it is stale. -/
structure SoundOn (trusted : Prop) (card : Card FlakyStore) : Prop where
  capacity : card.memory.chain.capacity = CommandChain.cardCapacity
  durable : ∃ kept, Durable trusted card.store.inner kept ∧
    (card.memory.stale = false → kept = card.memory.persistent)

/-- A store without the mark may hold anything; one with the mark holds everything. -/
def Sound (trusted : Prop) : Situation → Prop
  | .off store => Unmarked store ∨ ∃ kept, Durable trusted store kept
  | .on card => SoundOn trusted card

variable {trusted : Prop}

/-- The store of a sound card that is not stale holds what is in memory. -/
theorem SoundOn.fresh {card : Card FlakyStore} (sound : SoundOn trusted card)
    (fresh : card.memory.stale = false) :
    Durable trusted card.store.inner card.memory.persistent := by
  obtain ⟨kept, durable, same⟩ := sound.durable
  rwa [← same fresh]

/-- What is read from the store is durable as well. -/
theorem Durable.of_load {store store' : MemoryStore} {kept kept' : Persistent}
    (durable : Durable trusted store kept) (loaded : load store = .ok kept' store') :
    Durable trusted store kept' where
  holds := durable.holds.of_load loaded
  coherent trust := by
    have same := (load_of_holds durable.holds (durable.coherent trust)).symm.trans loaded
    cases same
    exact durable.coherent trust

/-! ## Steps -/

theorem sound_openOn (profile : Profile) {store : FlakyStore}
    (sound : Sound trusted (.off store.inner)) :
    (openOn profile).Leads store fun r final =>
      match r with
      | .ok memory => Sound trusted (.on ⟨memory, final⟩)
      | .error _ => Sound trusted (.off final.inner) := by
  rcases sound with unmarked | ⟨kept, durable⟩
  · refine (openOn_of_unmarked profile unmarked).mono ?_
    rintro (e | memory) final ends
    · exact .inl ends.1
    · obtain ⟨rfl, pristine⟩ := ends
      exact ⟨rfl, _, ⟨pristine.holds, fun _ => KeySlots.coherent_factory⟩, fun _ => rfl⟩
  · refine (openOn_of_holds profile durable.holds).mono ?_
    rintro (e | memory) final ⟨same, opened⟩
    · exact .inr ⟨kept, by rwa [same]⟩
    · obtain ⟨kept', loaded, rfl⟩ := opened memory rfl
      exact ⟨rfl, kept', by rw [same]; exact durable.of_load loaded, fun _ => rfl⟩

theorem sound_answer {env : Environment} (keys : trusted → env.SoundKeys) (cmd : Command)
    {card : Card FlakyStore} (sound : SoundOn trusted card) (fresh : card.memory.stale = false) :
    SoundOn trusted (answer env cmd card).2 := by
  have durable := sound.fresh fresh
  obtain ⟨kept', holds', answers⟩ := answer_answers env cmd durable.holds
  exact ⟨answers.capacity.trans sound.capacity, kept',
    ⟨holds', fun trust => answers.coherent (keys trust) (durable.coherent trust)⟩,
    answers.settled⟩

theorem sound_respond {env : Environment} (keys : trusted → env.SoundKeys) (cmd : Command)
    {card : Card FlakyStore} (sound : SoundOn trusted card) :
    SoundOn trusted (respond env cmd card).2 := by
  unfold respond
  split
  · obtain ⟨kept, durable, -⟩ := sound.durable
    split
    · rename_i fresh ended
      obtain ⟨memory, store⟩ := fresh
      obtain ⟨⟨reads, rfl⟩, kept', loaded, rfl⟩ := (reload_leads card).of_ok ended
      exact sound_answer keys cmd
        ⟨sound.capacity, kept', durable.of_load loaded, fun _ => rfl⟩ rfl
    · rename_i failed ended
      obtain ⟨memory, store⟩ := failed
      obtain ⟨⟨reads, rfl⟩, rfl⟩ := (reload_leads card).of_error ended
      exact ⟨sound.capacity, sound.durable⟩
  · rename_i fresh
    exact sound_answer keys cmd sound (by simpa using fresh)

theorem sound_process {env : Environment} (keys : trusted → env.SoundKeys) (frame : Bytes)
    {card : Card FlakyStore} (sound : SoundOn trusted card) :
    SoundOn trusted (process env frame card).2 := by
  unfold process
  split
  · exact sound
  · exact sound_respond keys _ sound

/-- Every situation that comes about is sound. -/
theorem sound_of_reached {outside : Environment → Prop}
    (keys : trusted → ∀ env, outside env → env.SoundKeys) {situation : Situation}
    (reached : Reached outside situation) : Sound trusted situation := by
  induction reached with
  | blank => exact .inl rfl
  | opens _ opened ih => exact (sound_openOn _ ih).of_ok opened
  | fails _ failed ih => exact (sound_openOn _ ih).of_error failed
  | processes _ draws frame ih => exact sound_process (fun trust => keys trust _ draws) frame ih
  | stops _ ih =>
    obtain ⟨kept, durable, -⟩ := SoundOn.durable ih
    exact .inr ⟨kept, durable⟩

/-- Whatever the outside makes, memory that is not stale is what the store holds. -/
theorem holds_of_reached {outside : Environment → Prop} {card : Card FlakyStore}
    (reached : Reached outside (.on card)) (fresh : card.memory.stale = false) :
    Holds card.store.inner card.memory.persistent := by
  have sound : SoundOn False card := sound_of_reached nofun reached
  exact (sound.fresh fresh).holds

/-! ## Write-through -/

/-- A reload on a store takes up what is read from it. -/
theorem reload_of_load {store : MemoryStore} {kept : Persistent}
    (loaded : load store = .ok kept store) (memory : Memory) :
    reload ⟨memory, store⟩ = .ok () ⟨memory.adopt kept, store⟩ := by
  simp only [reload, bind, EStateM.bind, Kept.onStore, loaded]
  rfl

/-- An opening of a store that is marked takes up what is read from it. -/
theorem openOn_of_load {store : MemoryStore} {kept held : Persistent} (holds : Holds store held)
    (loaded : load store = .ok kept store) (profile : Profile) :
    openOn profile store = .ok (Memory.adopt kept { profile }) store := by
  simp only [openOn, bind, EStateM.bind, holds.readReady, ↓reduceIte, reload_of_load loaded]

/-- Memory that is not stale is what survives a loss of power: reloading the store, or opening a
card on it again, gives back all of it but the session. -/
theorem write_through {card : Card FlakyStore} (reached : Reached Environment.SoundKeys (.on card)) :
    card.memory.stale = true ∨
      (∀ memory : Memory, reload ⟨memory, card.store.inner⟩ =
        .ok () ⟨memory.adopt card.memory.persistent, card.store.inner⟩) ∧
      openOn card.memory.profile card.store.inner =
        .ok (card.memory.adopt card.memory.persistent) card.store.inner := by
  have sound : SoundOn True card := sound_of_reached (fun _ _ made => made) reached
  cases stale : card.memory.stale with
  | true => exact .inl rfl
  | false =>
    have durable := sound.fresh stale
    have loaded := load_of_holds durable.holds (durable.coherent trivial)
    refine .inr ⟨reload_of_load loaded, (openOn_of_load durable.holds loaded _).trans ?_⟩
    have session : Memory.adopt card.memory.persistent { profile := card.memory.profile } =
        card.memory.adopt card.memory.persistent := by
      simp [Memory.adopt, CommandChain.reset, stale, sound.capacity]
      rfl
    rw [session]

theorem write_through_verified :
    verifiedCard.memory.stale = false ∧
      openOn verifiedCard.memory.profile verifiedCard.store.inner =
        .ok (verifiedCard.memory.adopt verifiedCard.memory.persistent) verifiedCard.store.inner := by
  have fresh : verifiedCard.memory.stale = false := by decide +kernel
  have durable := (write_through reached_verifiedCard).resolve_left (by simp [fresh])
  exact ⟨fresh, durable.2⟩

end Card

end PgpCard
