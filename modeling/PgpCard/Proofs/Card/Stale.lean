import PgpCard.Proofs.Card.Reachable

/-!
# Memory that is stale

After a failed write memory may be ahead of the store.  The next command begins with a reload, and
nothing that memory held before it shows in an answer.

* `Memory.Idle` : a session in which nothing has happened;
* `Alike` : two cards that no frame can tell apart, carried along a run by `alike_run`;
* `stale_memory_unobserved` : a stale card answers as one that was just opened on its store, and
  two stale cards on the same store answer alike for ever.
-/

set_option autoImplicit false

namespace PgpCard

/-- A session in which nothing has happened. -/
structure Memory.Idle (memory : Memory) : Prop where
  unverified : memory.security.pw1Signing = false ∧ memory.security.pw1Other = false ∧
    memory.security.pw3 = false
  unchained : memory.chain.pending = none
  sent : memory.outgoing = .empty
  fresh : memory.stale = false

namespace Card

open Attempt

/-- The answers to some frames, each with what the outside gives during it, and the card
afterwards. -/
def run {σ : Type} [Backend σ] : List (Environment × Bytes) → Card σ → List Bytes × Card σ
  | [], card => ([], card)
  | (env, frame) :: rest, card =>
    let (answer, card) := process env frame card
    let (answers, card) := run rest card
    (answer :: answers, card)

theorem reached_run {outside : Environment → Prop} {frames : List (Environment × Bytes)}
    (draws : ∀ step ∈ frames, outside step.1) {card : Card FlakyStore}
    (reached : Reached outside (.on card)) : Reached outside (.on (run frames card).2) := by
  induction frames generalizing card with
  | nil => exact reached
  | cons step rest ih =>
    obtain ⟨env, frame⟩ := step
    have first : outside env := draws (env, frame) List.mem_cons_self
    exact ih (fun step member => draws step (List.mem_cons_of_mem _ member))
      (.processes reached first frame)

/-! ## Reloading -/

/-- What a reload leaves of memory: who the card is, and how much a chain may hold. -/
theorem adopt_congr {memory other : Memory} (kept : Persistent)
    (profile : other.profile = memory.profile)
    (capacity : other.chain.capacity = memory.chain.capacity) :
    { other.adopt kept with stale := false } = { memory.adopt kept with stale := false } := by
  simp only [Memory.adopt, CommandChain.reset, profile, capacity]

theorem idle_adopt (kept : Persistent) (profile : Profile) :
    (Memory.adopt kept { profile }).Idle :=
  ⟨⟨rfl, rfl, rfl⟩, rfl, rfl, rfl⟩

/-! ## Two runs -/

section Alike

variable {σ : Type}

/-- Two cards that no frame can tell apart: the same store, and the same memory or memory that is
stale in both. -/
structure Alike (card other : Card σ) : Prop where
  store : other.store = card.store
  memory : other.memory = card.memory ∨
    card.memory.stale = true ∧ other.memory.stale = true ∧
      other.memory.profile = card.memory.profile ∧
      other.memory.chain.capacity = card.memory.chain.capacity

theorem Alike.refl (card : Card σ) : Alike card card := ⟨rfl, .inl rfl⟩

variable [Backend σ] {card other : Card σ}

theorem alike_respond (env : Environment) (cmd : Command) (alike : Alike card other) :
    (respond env cmd other).1 = (respond env cmd card).1 ∧
      Alike (respond env cmd card).2 (respond env cmd other).2 := by
  obtain ⟨memory, store⟩ := card
  obtain ⟨memory', store'⟩ := other
  obtain ⟨rfl, rfl | ⟨stale, stale', profile, capacity⟩⟩ := alike
  · exact ⟨rfl, .refl _⟩
  · dsimp only at stale stale' profile capacity
    simp only [respond, stale, stale', reload_eq, ↓reduceIte]
    cases load store' with
    | ok kept store =>
      have same := adopt_congr kept profile capacity
      dsimp only [markStale]
      rw [same]
      exact ⟨rfl, .refl _⟩
    | error e store => exact ⟨rfl, rfl, .inr ⟨stale, stale', profile, capacity⟩⟩

theorem alike_process (env : Environment) (frame : Bytes) (alike : Alike card other) :
    (process env frame other).1 = (process env frame card).1 ∧
      Alike (process env frame card).2 (process env frame other).2 := by
  unfold process
  split
  · exact ⟨rfl, alike⟩
  · rename_i cmd _
    have answered := alike_respond env cmd alike
    exact ⟨congrArg Response.toFrame answered.1, answered.2⟩

theorem alike_run (frames : List (Environment × Bytes)) (alike : Alike card other) :
    (run frames other).1 = (run frames card).1 ∧
      Alike (run frames card).2 (run frames other).2 := by
  induction frames generalizing card other with
  | nil => exact ⟨rfl, alike⟩
  | cons step rest ih =>
    obtain ⟨env, frame⟩ := step
    have first := alike_process env frame alike
    have later := ih first.2
    exact ⟨by simp only [run, first.1, later.1], later.2⟩

end Alike

/-! ## Stale memory is not observed -/

section Reloads

variable {card : Card FlakyStore} {env : Environment} {frame : Bytes} {cmd : Command}

/-- A stale card that can be reloaded answers as one that was just opened on its store. -/
theorem process_of_reloaded (sound : SoundOn False card) (stale : card.memory.stale = true)
    (parses : Command.ofFrame? frame = .ok cmd) {fresh : Card FlakyStore}
    (ended : reload card = .ok () fresh) :
    (∃ reads, fresh.store = { card.store with reads }) ∧
    ∃ opened : Memory, opened.Idle ∧
      openOn card.memory.profile card.store.inner = .ok opened card.store.inner ∧
      process env frame card = process env frame ⟨opened, fresh.store⟩ := by
  obtain ⟨held, durable, -⟩ := sound.durable
  obtain ⟨memory, store⟩ := fresh
  obtain ⟨⟨reads, rfl⟩, kept, loaded, rfl⟩ := (reload_leads card).of_ok ended
  refine ⟨⟨reads, rfl⟩, Memory.adopt kept { profile := card.memory.profile }, idle_adopt _ _,
    openOn_of_load durable.holds loaded _, ?_⟩
  have same : { Memory.adopt kept { profile := card.memory.profile } with stale := false } =
      { card.memory.adopt kept with stale := false } :=
    adopt_congr kept rfl sound.capacity.symm
  simp only [process, parses, respond, stale, ended, ↓reduceIte, markStale, ← same]
  rfl

/-- A stale card that cannot be reloaded says so and stays as it is. -/
theorem process_of_not_reloaded (stale : card.memory.stale = true)
    (parses : Command.ofFrame? frame = .ok cmd) {e : StoreError} {failed : Card FlakyStore}
    (ended : reload card = .error e failed) :
    (∃ reads, failed.store = { card.store with reads }) ∧
      process env frame card = ([0x6F, 0x00], ⟨card.memory, failed.store⟩) := by
  obtain ⟨memory, store⟩ := failed
  obtain ⟨⟨reads, rfl⟩, rfl⟩ := (reload_leads card).of_error ended
  refine ⟨⟨reads, rfl⟩, ?_⟩
  simp only [process, parses, respond, stale, ended, ↓reduceIte]
  rfl

end Reloads

/-- A stale card answers as one that was just opened on its store, or it reports that it could not
be reloaded and stays as it is.  So what memory held does not show: two stale cards on the same
store answer every run of frames alike, if they have what is fixed when a card is made in common,
its profile and the room for a chain. -/
theorem stale_memory_unobserved :
    (∀ card : Card FlakyStore, Reached (fun _ => True) (.on card) → card.memory.stale = true →
      ∀ (env : Environment) (frame : Bytes) (cmd : Command), Command.ofFrame? frame = .ok cmd →
        (∀ fresh, reload card = .ok () fresh →
          (∃ reads, fresh.store = { card.store with reads }) ∧
          ∃ opened : Memory, opened.Idle ∧
            openOn card.memory.profile card.store.inner = .ok opened card.store.inner ∧
            process env frame card = process env frame ⟨opened, fresh.store⟩) ∧
        (∀ e failed, reload card = .error e failed →
          (∃ reads, failed.store = { card.store with reads }) ∧
          process env frame card = ([0x6F, 0x00], ⟨card.memory, failed.store⟩))) ∧
    (∀ {σ : Type} [Backend σ] (card other : Card σ),
      card.memory.stale = true → other.memory.stale = true → other.store = card.store →
      other.memory.profile = card.memory.profile →
      other.memory.chain.capacity = card.memory.chain.capacity →
      ∀ frames, (run frames other).1 = (run frames card).1 ∧
        (run frames other).2.store = (run frames card).2.store) := by
  refine ⟨fun card reached stale env frame cmd parses => ?_, fun card other stale stale' store
    profile capacity frames => ?_⟩
  · have sound : SoundOn False card := sound_of_reached nofun reached
    exact ⟨fun _ ended => process_of_reloaded sound stale parses ended,
      fun _ _ ended => process_of_not_reloaded stale parses ended⟩
  · have alike : Alike card other := ⟨store, .inr ⟨stale, stale', profile, capacity⟩⟩
    have ends := alike_run frames alike
    exact ⟨ends.1, ends.2.store⟩

/-- A new card whose store takes no more writes, after a VERIFY. -/
def staleCard : Card FlakyStore :=
  (process (.ofSeed [] 0) verifyFrame (newCard fun n => 12 ≤ n)).2

theorem stale_memory_unobserved_verify :
    staleCard.memory.stale = true ∧
    (∃ (opened : Memory) (store : FlakyStore), opened.Idle ∧
      process (.ofSeed [] 0) verifyFrame staleCard =
        process (.ofSeed [] 0) verifyFrame ⟨opened, store⟩) ∧
    (run [(.ofSeed [] 0, verifyFrame)] ⟨{ staleCard.memory with terminated := true },
        staleCard.store⟩).1 =
      (run [(.ofSeed [] 0, verifyFrame)] staleCard).1 := by
  have opened : openOn .default ({ inner := .empty, writeFails := fun n => 12 ≤ n } : FlakyStore) =
      .ok (newCard fun n => 12 ≤ n).memory (newCard fun n => 12 ≤ n).store := rfl
  have reached : Reached (fun _ => True) (.on staleCard) :=
    .processes (.opens .blank opened) trivial verifyFrame
  have stale : staleCard.memory.stale = true := by decide +kernel
  have reloads : (match reload staleCard with | .ok _ _ => true | .error _ _ => false) = true := by
    decide +kernel
  refine ⟨stale, ?_, ?_⟩
  · cases ended : reload staleCard with
    | error e failed => simp [ended] at reloads
    | ok _ fresh =>
      obtain ⟨-, opened, idle, -, same⟩ := (stale_memory_unobserved.1 staleCard reached stale
        (.ofSeed [] 0) verifyFrame ⟨0x00, 0x20, 0x00, 0x81, Secrets.defaultPw1, none⟩ rfl).1
        fresh ended
      exact ⟨opened, fresh.store, idle, same⟩
  · exact (stale_memory_unobserved.2 staleCard
      ⟨{ staleCard.memory with terminated := true }, staleCard.store⟩ stale stale rfl rfl rfl _).1

end Card

end PgpCard
