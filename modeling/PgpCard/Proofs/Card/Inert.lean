import PgpCard.Proofs.Card.Dropping

/-!
# A terminated card is inert

A terminated card answers and forgets, and that is all: until an ACTIVATE is carried out, nothing
that survives changes, nothing is verified, and no answer brings data.

* `receive_of_terminated`, `process_of_terminated` : one command and one frame on a terminated card;
* `Inert` is the invariant: what the card has in its store and in memory is what it had at first.
  `inert_run` is its step and `inert_trace` its run lemma, with losses of power in between;
* `Executes.terminated`, `Executes.terminated_held` : which command can terminate a card;
* `faithful_of_reached` : a store says that the card is terminated only if memory does;
* `terminated_card_inert` : the card is inert once it is terminated, and it is terminated only by a
  TERMINATE that finds PW1 and PW3 without attempts.
-/

set_option autoImplicit false

namespace PgpCard

namespace Card

open Attempt

/-! ## One frame -/

section Frames

variable {σ : Type} [Backend σ] {card : Card σ} {frame : Bytes}

/-- Nothing differs but the session, and nothing is verified that was not. -/
structure Frozen (memory memory' : Memory) : Prop where
  persistent : memory'.persistent = memory.persistent
  stale : memory'.stale = memory.stale
  verified : ∀ condition, memory'.security.holds condition = true →
    memory.security.holds condition = true

theorem Frozen.refl (memory : Memory) : Frozen memory memory := ⟨rfl, rfl, fun _ holds => holds⟩

/-- A frame that makes a command whole has passed the session commands and the chain. -/
theorem Completes.accepts {memory : Memory} {cmd whole : Command}
    (completes : Completes memory frame whole) (parses : Command.ofFrame? frame = .ok cmd) :
    (cmd.instruction ≠ .select ∧ cmd.instruction ≠ .invalidate) ∧
      ∃ chain, memory.chain.accept cmd = (.complete whole, chain) := by
  obtain ⟨_, chain, parses', passes, accepts⟩ := completes
  cases parses.symm.trans parses'
  exact ⟨passes, chain, accepts⟩

/-- A command is answered with a status alone, on a card that is frozen. -/
def Idles (card : Card σ) (status : StatusWord) (ended : Response × Card σ) : Prop :=
  ∃ memory', ended = (.error status, ⟨memory', card.store⟩) ∧ Frozen card.memory memory'

/-- A command that reaches the chain of a terminated card is refused if it becomes whole. -/
theorem receive_of_terminated {cmd : Command} (terminated : card.memory.terminated = true)
    (inactive : ∀ whole chain, card.memory.chain.accept cmd = (.complete whole, chain) →
      whole.instruction ≠ .activate)
    (env : Environment) :
    ∃ status, Idles card status (receive env cmd card) ∧
      ∀ whole chain, card.memory.chain.accept cmd = (.complete whole, chain) →
        status = .conditionsNotSatisfied := by
  unfold receive
  cases accepts : card.memory.chain.accept cmd with
  | mk step chain =>
    have session : ∀ outgoing, Frozen card.memory { card.memory with chain, outgoing } :=
      fun _ => ⟨rfl, rfl, fun _ holds => holds⟩
    cases step with
    | awaiting => exact ⟨.success, ⟨_, rfl, session _⟩, fun _ _ same => by cases same⟩
    | failed e => exact ⟨e.status, ⟨_, rfl, session _⟩, fun _ _ same => by cases same⟩
    | complete whole =>
      have refused : card.memory.terminated = true ∧ whole.instruction ≠ .activate :=
        ⟨terminated, inactive whole chain accepts⟩
      dsimp only
      unfold execute
      split
      · exact ⟨.conditionsNotSatisfied, ⟨_, rfl, session _⟩, fun _ _ _ => rfl⟩
      · dsimp only
        rw [if_pos (by exact refused)]
        exact ⟨.conditionsNotSatisfied, ⟨_, rfl, session _⟩, fun _ _ _ => rfl⟩

/-- A frame on a terminated card is answered without data, and refused if it makes a command whole;
it changes nothing but the session, and does not touch the store. -/
theorem process_of_terminated (fresh : card.memory.stale = false)
    (terminated : card.memory.terminated = true)
    (inactive : ∀ whole, Completes card.memory frame whole → whole.instruction ≠ .activate)
    (env : Environment) :
    ∃ status memory', process env frame card =
        ((Response.error status).toFrame, ⟨memory', card.store⟩) ∧
      Frozen card.memory memory' ∧
      ∀ whole, Completes card.memory frame whole → status = .conditionsNotSatisfied := by
  cases parses : Command.ofFrame? frame with
  | error e =>
    refine ⟨.wrongLength, card.memory, by simp only [process, parses], .refl _, ?_⟩
    rintro whole ⟨cmd, _, parses', -⟩
    cases parses.symm.trans parses'
  | ok cmd =>
    rw [process_of_ready parses (ready?_of_fresh fresh)]
    unfold answer
    split
    · rename_i instruction
      refine ⟨.success, _, rfl, ⟨rfl, rfl, fun _ => Security.holds_of_revokePw1⟩, ?_⟩
      intro whole completes
      exact absurd instruction (completes.accepts parses).1.1
    · rename_i instruction
      refine ⟨.success, _, rfl, ⟨rfl, rfl, fun _ holds => ?_⟩, ?_⟩
      · cases Security.holds_revokeAll.symm.trans holds
      · intro whole completes
        exact absurd instruction (completes.accepts parses).1.2
    · rename_i not_select not_invalidate
      obtain ⟨status, ⟨memory', ended, frozen⟩, refused⟩ :=
        receive_of_terminated terminated (fun whole chain accepts => inactive whole
          ⟨cmd, chain, parses, ⟨not_select, not_invalidate⟩, accepts⟩) env
      refine ⟨status, memory', by rw [ended], frozen, ?_⟩
      intro whole completes
      obtain ⟨-, chain, accepts⟩ := completes.accepts parses
      exact refused whole chain accepts

end Frames

/-! ## A stretch of events -/

section Stretch

variable {trusted : Prop} {start card : Card FlakyStore} {situation : Situation}

/-- A terminated card on which nothing is verified has what it had at first, in its store and in
memory; keys that are trusted to be sound are the same in every part. -/
structure Unmoved (trusted : Prop) (start card : Card FlakyStore) : Prop where
  store : card.store.inner = start.store.inner
  fresh : card.memory.stale = false
  terminated : card.memory.terminated = true
  unverified : ∀ condition, card.memory.security.holds condition = false
  agrees : ∀ cell : Cell, cell.Agrees start.memory.persistent card.memory.persistent
  same : trusted → card.memory.persistent = start.memory.persistent

/-- A situation in which nothing has changed since the card was terminated. -/
inductive Inert (trusted : Prop) (start : Card FlakyStore) : Situation → Prop
  | off {store : MemoryStore} (same : store = start.store.inner) :
    Inert trusted start (.off store)
  | on {card : Card FlakyStore} (unmoved : Unmoved trusted start card) :
    Inert trusted start (.on card)

theorem Inert.store (inert : Inert trusted start situation) :
    situation.store = start.store.inner := by
  cases inert with
  | off same => exact same
  | on unmoved => exact unmoved.store

theorem inert_start (sealed : start.memory.Sealed) (fresh : start.memory.stale = false)
    (terminated : start.memory.terminated = true) : Inert trusted start (.on start) := by
  refine .on ⟨rfl, fresh, terminated, sealed terminated, fun cell => ?_, fun _ => rfl⟩
  cases cell <;> simp [Cell.Agrees]

/-- What a frame is answered on a card that is inert. -/
structure Refuses (env : Environment) (frame : Bytes) (card : Card FlakyStore) : Prop where
  store : (process env frame card).2.store = card.store
  bare : (process env frame card).1.length = 2
  refused : ∀ whole, Completes card.memory frame whole →
    (process env frame card).1 = [0x69, 0x85]

theorem inert_frame (env : Environment) {frame : Bytes} (unmoved : Unmoved trusted start card)
    (inactive : ∀ whole, Completes card.memory frame whole → whole.instruction ≠ .activate) :
    Refuses env frame card ∧ Unmoved trusted start (process env frame card).2 := by
  obtain ⟨status, memory', processed, ⟨persistent, stale, verified⟩, refused⟩ :=
    process_of_terminated unmoved.fresh unmoved.terminated inactive env
  constructor
  · refine ⟨by rw [processed], by rw [processed]; rfl, fun whole completes => ?_⟩
    rw [processed, refused whole completes]
    rfl
  · rw [processed]
    have terminated : memory'.terminated = card.memory.terminated :=
      congrArg Persistent.terminated persistent
    have present : memory'.terminated = true := terminated.trans unmoved.terminated
    refine ⟨unmoved.store, stale.trans unmoved.fresh, present, ?_, ?_, ?_⟩
    · intro condition
      rw [← Bool.not_eq_true]
      intro holds
      cases (unmoved.unverified condition).symm.trans (verified condition holds)
    · intro cell
      show cell.Agrees start.memory.persistent memory'.persistent
      rw [persistent]
      exact unmoved.agrees cell
    · intro trust
      exact persistent.trans (unmoved.same trust)

/-- A loss of power leaves the card as it was, or off. -/
theorem inert_restart (durable : Durable trusted start.store.inner start.memory.persistent)
    (terminated : start.memory.terminated = true) (inert : Inert trusted start situation)
    (profile : Profile) (readFails writeFails : Nat → Bool) :
    Inert trusted start (Event.run (.restart profile readFails writeFails) situation).2 := by
  apply run_restart fun ran => Inert trusted start ran.2
  have holds : Holds situation.store start.memory.persistent := by
    rw [inert.store]
    exact durable.holds
  refine (openOn_of_holds profile (by exact holds)).mono ?_
  rintro (e | memory) final ⟨unchanged, opened⟩
  · exact .off (unchanged.trans inert.store)
  · obtain ⟨kept, loaded, rfl⟩ := opened memory rfl
    have agrees : ∀ cell : Cell, cell.Agrees start.memory.persistent kept :=
      (load_leads holds).of_ok loaded kept rfl
    have terminated' : start.memory.persistent.terminated = kept.terminated := agrees .terminated
    have present : kept.terminated = true := terminated'.symm.trans terminated
    refine .on ⟨unchanged.trans inert.store, rfl, present, ?_, agrees, ?_⟩
    · intro condition
      exact holds_adopt kept { profile } condition
    · intro trust
      have whole := load_of_holds holds (durable.coherent trust)
      cases whole.symm.trans loaded
      rfl

/-- The event carries out no ACTIVATE. -/
def Occurrence.Inactive (o : Occurrence) : Prop :=
  ¬ o.Carries fun whole => whole.instruction = .activate

/-- An event that carries out no ACTIVATE leaves the situation inert, and a frame is refused. -/
theorem inert_run (durable : Durable trusted start.store.inner start.memory.persistent)
    (terminated : start.memory.terminated = true) (inert : Inert trusted start situation)
    (event : Event) (inactive : Occurrence.Inactive ⟨event, situation⟩) :
    (∀ env frame card, event = .frame env frame → situation = .on card →
      Refuses env frame card) ∧ Inert trusted start (event.run situation).2 := by
  cases event with
  | restart profile readFails writeFails =>
    refine ⟨fun _ _ _ same => (by cases same), ?_⟩
    exact inert_restart durable terminated inert profile readFails writeFails
  | frame env frame =>
    cases inert with
    | off unchanged => exact ⟨fun _ _ _ _ same => (by cases same), .off unchanged⟩
    | @on card unmoved =>
      have fresh := unmoved.fresh
      have other : ∀ whole, Completes card.memory frame whole → whole.instruction ≠ .activate :=
        fun whole completes activates => inactive
          (.command rfl rfl ⟨ready?_of_fresh fresh, completes⟩ activates)
      obtain ⟨refuses, after⟩ := inert_frame env unmoved other
      refine ⟨?_, .on after⟩
      rintro _ _ _ ⟨⟩ ⟨⟩
      exact refuses

theorem inert_trace (durable : Durable trusted start.store.inner start.memory.persistent)
    (terminated : start.memory.terminated = true) (events : List Event) :
    ∀ {situation : Situation}, Inert trusted start situation →
      (∀ o ∈ trace events situation, o.Inactive) →
      (∀ o ∈ trace events situation, Inert trusted start o.situation ∧
        ∀ env frame card, o.event = .frame env frame → o.situation = .on card →
          Refuses env frame card) ∧
      Inert trusted start (finish events situation) := by
  induction events with
  | nil => exact fun inert _ => ⟨fun _ member => (by cases member), inert⟩
  | cons event rest ih =>
    intro situation inert inactive
    obtain ⟨refuses, next⟩ :=
      inert_run durable terminated inert event (inactive _ List.mem_cons_self)
    obtain ⟨later, ends⟩ := ih next fun o member => inactive o (List.mem_cons_of_mem _ member)
    refine ⟨fun o member => ?_, ends⟩
    rcases List.mem_cons.mp member with rfl | member
    · exact ⟨inert, refuses⟩
    · exact later o member

end Stretch

/-! ## How a card is terminated -/

section Terminating

variable {env : Environment} {cmd : Command} {memory memory' : Memory} {kept' : Persistent}

/-- TERMINATE, where PW1 and PW3 have no attempts left. -/
structure Terminates (cmd : Command) (memory : Memory) : Prop where
  instruction : cmd.instruction = .terminate
  pw1 : memory.secrets.pw1.remaining = 0
  pw3 : memory.secrets.pw3.remaining = 0

/-- A card that is terminated after a command was terminated before, or the command was TERMINATE
and found both secrets blocked. -/
theorem Executes.terminated {r : Except CardError Bytes}
    (h : Executes env cmd memory r memory' kept') (after : memory'.terminated = true) :
    memory.terminated = true ∨ Terminates cmd memory := by
  cases h with
  | setsRetries _ _ _ sets => exact .inl (sets.terminated_eq.symm.trans after)
  | puts _ _ _ _ _ writes => exact .inl (writes.terminated_eq.symm.trans after)
  | terminates instruction blocked saved =>
    cases saved with
    | refused => exact .inl after
    | done =>
      have pw1 : memory.secrets.pw1.remaining = 0 := by
        simpa [SecretRecord.isBlocked] using blocked.1
      have pw3 : memory.secrets.pw3.remaining = 0 := by
        simpa [SecretRecord.isBlocked] using blocked.2
      exact .inr ⟨instruction, pw1, pw3⟩
  | activates _ terminated => exact .inl terminated
  | _ => exact .inl after

theorem Writes.terminated_held {value : Bytes} {object : DataObject} {r : Except CardError Unit}
    (h : Writes memory value object r memory' kept') : kept'.terminated = memory.terminated := by
  cases h with
  | status saved | stored _ saved => cases saved <;> rfl
  | _ => rfl

/-- Where the store says after a command that the card is terminated, so does memory. -/
theorem Executes.terminated_held {r : Except CardError Bytes}
    (h : Executes env cmd memory r memory' kept') (held : kept'.terminated = true) :
    memory'.terminated = true := by
  cases h with
  | setsRetries _ _ _ sets =>
    obtain ⟨_, _, _, _, rfl, rfl⟩ := sets.frame
    exact held
  | puts _ _ _ _ _ writes =>
    rw [writes.terminated_eq]
    exact writes.terminated_held.symm.trans held
  | terminates _ _ saved =>
    cases saved with
    | refused => exact held
    | done => rfl
  | activates _ terminated makes =>
    cases makes with
    | refused => exact terminated
    | done => cases held
  | _ => exact held

theorem Answers.terminated {response : Response}
    (h : Answers env cmd memory response memory' kept') (active : memory.terminated = false)
    (after : memory'.terminated = true) :
    ∃ whole chain, (cmd.instruction ≠ .select ∧ cmd.instruction ≠ .invalidate) ∧
      memory.chain.accept cmd = (.complete whole, chain) ∧ Terminates whole memory := by
  cases h with
  | @executes chain whole r final _ passes accepts _ executes =>
    have after : final.terminated = true := by
      cases r <;> exact after
    have terminates := (executes.terminated after).resolve_left (by simp [active])
    exact ⟨whole, chain, passes, accepts, terminates.instruction, terminates.pw1, terminates.pw3⟩
  | _ => cases active.symm.trans after

theorem Answers.terminated_held {response : Response}
    (h : Answers env cmd memory response memory' kept') (held : kept'.terminated = true) :
    memory'.terminated = true := by
  cases h with
  | @executes _ _ r final _ _ _ _ executes =>
    have after := executes.terminated_held held
    cases r <;> exact after
  | _ => exact held

/-- A store says that the card is terminated only if memory does. -/
def Faithful (card : Card FlakyStore) : Prop :=
  ∀ kept, Holds card.store.inner kept → kept.terminated = true → card.memory.terminated = true

theorem faithful_of_fresh {card : Card FlakyStore} (sound : SoundOn False card)
    (fresh : card.memory.stale = false) : Faithful card := by
  intro kept holds terminated
  have same : Cell.terminated.Agrees card.memory.persistent kept :=
    (sound.fresh fresh).holds.agrees holds rfl
  exact same.trans terminated

theorem faithful_process {card : Card FlakyStore} (sound : SoundOn False card)
    (faithful : Faithful card) (env : Environment) (frame : Bytes) :
    Faithful (process env frame card).2 := by
  cases parses : Command.ofFrame? frame with
  | error e =>
    have same : (process env frame card).2 = card := by simp only [process, parses]
    rwa [same]
  | ok cmd =>
    cases found : ready? card with
    | none =>
      obtain ⟨reads, store⟩ := store_of_not_ready env frame found
      intro kept holds terminated
      rw [memory_of_not_ready env frame found]
      rw [store] at holds
      exact faithful kept holds terminated
    | some ready =>
      obtain ⟨kept', holds', answers⟩ := answer_answers env cmd (holds_ready sound found).1
      rw [process_of_ready parses found]
      intro kept holds terminated
      have same : Cell.terminated.Agrees kept kept' := holds.agrees holds' rfl
      exact answers.terminated_held (same.symm.trans terminated)

/-- A card that was just opened is not stale. -/
theorem fresh_of_openOn {store store' : FlakyStore} {profile : Profile} {memory : Memory}
    (sound : Sound False (.off store.inner)) (opened : openOn profile store = .ok memory store') :
    memory.stale = false := by
  rcases sound with unmarked | ⟨kept, durable⟩
  · obtain ⟨rfl, -⟩ := (openOn_of_unmarked profile unmarked).of_ok opened
    rfl
  · obtain ⟨-, adopts⟩ := (openOn_of_holds profile durable.holds).of_ok opened
    obtain ⟨_, -, rfl⟩ := adopts memory rfl
    rfl

/-- It is so on every card. -/
theorem faithful_of_reached {outside : Environment → Prop} {card : Card FlakyStore}
    (reached : Reached outside (.on card)) : Faithful card := by
  generalize same : Situation.on card = situation at reached
  induction reached generalizing card with
  | blank | fails | stops => cases same
  | opens before opened =>
    cases same
    have sound : SoundOn False _ := sound_of_reached False.elim (before.opens opened)
    exact faithful_of_fresh sound (fresh_of_openOn (sound_of_reached False.elim before) opened)
  | processes before draws frame ih =>
    cases same
    exact faithful_process (sound_of_reached False.elim before) (ih rfl) _ frame

end Terminating

end Card

/-- The card is terminated: memory says so, or the store if the card is switched off. -/
def Situation.Terminated : Situation → Prop
  | .off store => ∃ kept, Card.Holds store kept ∧ kept.terminated = true
  | .on card => card.memory.terminated = true

theorem Situation.terminated_on {card : Card FlakyStore} :
    (Situation.on card).Terminated ↔ card.memory.terminated = true := Iff.rfl

namespace Card

variable {situation : Situation}

/-- A loss of power terminates no card: its store has said before that it is terminated. -/
theorem terminated_restart {profile : Profile} {readFails writeFails : Nat → Bool}
    (sound : Sound False situation)
    (after : (Event.run (.restart profile readFails writeFails) situation).2.Terminated) :
    ∃ kept, Holds situation.store kept ∧ kept.terminated = true := by
  revert after
  apply run_restart fun ran => ran.2.Terminated →
    ∃ kept, Holds situation.store kept ∧ kept.terminated = true
  by_cases unmarked : Unmarked situation.store
  · refine (openOn_of_unmarked profile (by exact unmarked)).mono ?_
    rintro (e | memory) final ends
    · rintro ⟨kept, holds, -⟩
      exact absurd ends.1 holds.not_unmarked
    · obtain ⟨rfl, -⟩ := ends
      exact fun renewed => by cases renewed
  · obtain ⟨kept, holds⟩ := sound.holds unmarked
    refine (openOn_of_holds profile (by exact holds)).mono ?_
    rintro (e | memory) final ⟨unchanged, opened⟩
    · rintro ⟨kept', holds', terminated⟩
      rw [unchanged] at holds'
      exact ⟨kept', holds', terminated⟩
    · obtain ⟨kept', loaded, rfl⟩ := opened memory rfl
      exact fun terminated => ⟨kept', holds.of_load loaded, terminated⟩

/-- What an event is that terminates a card. -/
theorem terminated_run {outside : Environment → Prop} (reached : Reached outside situation)
    (event : Event) (before : ¬ situation.Terminated)
    (after : (event.run situation).2.Terminated) :
    ∃ env frame card ready whole, event = .frame env frame ∧ situation = .on card ∧
      Step.Carries ⟨env, frame, card⟩ ready whole ∧ Terminates whole ready.memory := by
  have sound : Sound False situation := sound_of_reached False.elim reached
  cases event with
  | restart profile readFails writeFails =>
    obtain ⟨kept, holds, terminated⟩ := terminated_restart sound after
    cases situation with
    | off store => exact absurd ⟨kept, holds, terminated⟩ before
    | on card => exact absurd (faithful_of_reached reached kept holds terminated) before
  | frame env frame =>
    cases situation with
    | off store => exact absurd after before
    | on card =>
      have sound : SoundOn False card := sound
      have active : card.memory.terminated = false := Bool.not_eq_true _ ▸ before
      have after : (process env frame card).2.memory.terminated = true := after
      cases parses : Command.ofFrame? frame with
      | error e =>
        simp only [process, parses] at after
        cases active.symm.trans after
      | ok cmd =>
        cases found : ready? card with
        | none =>
          rw [memory_of_not_ready env frame found] at after
          cases active.symm.trans after
        | some ready =>
          obtain ⟨holds, inner⟩ := holds_ready sound found
          -- a reload does not terminate the card either
          have live : ready.memory.terminated = false := by
            rw [← Bool.not_eq_true]
            intro terminated
            rw [inner] at holds
            exact before (faithful_of_reached reached _ holds terminated)
          obtain ⟨kept', -, answers⟩ := answer_answers env cmd (holds_ready sound found).1
          rw [process_of_ready parses found] at after
          obtain ⟨whole, chain, passes, accepts, terminates⟩ := answers.terminated live after
          exact ⟨env, frame, card, ready, whole, rfl, rfl,
            ⟨found, cmd, chain, parses, passes, accepts⟩, terminates⟩

/-- A terminated card is inert: whatever frames it processes and however often it loses power, as
long as no ACTIVATE is carried out its store and all that survives stay as they are, nothing is
verified, no answer brings data, and every frame that makes a command whole is refused.  And a card
is terminated only by a TERMINATE that finds PW1 and PW3 without attempts. -/
theorem terminated_card_inert {outside : Environment → Prop} :
    (∀ card : Card FlakyStore, Reached outside (.on card) → card.memory.stale = false →
      card.memory.terminated = true → ∀ events : List Event,
        (∀ o ∈ trace events (.on card), o.Inactive) →
        (∀ o ∈ trace events (.on card),
          Inert (∀ env, outside env → env.SoundKeys) card o.situation ∧
          ∀ env frame card, o.event = .frame env frame → o.situation = .on card →
            Refuses env frame card) ∧
        Inert (∀ env, outside env → env.SoundKeys) card (finish events (.on card))) ∧
    (∀ situation : Situation, Reached outside situation → ¬ situation.Terminated →
      ∀ event : Event, (event.run situation).2.Terminated →
        ∃ env frame card ready whole, event = .frame env frame ∧ situation = .on card ∧
          Step.Carries ⟨env, frame, card⟩ ready whole ∧ Terminates whole ready.memory) := by
  constructor
  · intro card reached fresh terminated events inactive
    have sound : SoundOn (∀ env, outside env → env.SoundKeys) card :=
      sound_of_reached (fun trust => trust) reached
    have inert : Inert (∀ env, outside env → env.SoundKeys) card (.on card) :=
      inert_start (sealed_of_reached reached) fresh terminated
    exact inert_trace (sound.fresh fresh) terminated events inert inactive
  · intro situation reached before event after
    exact terminated_run reached event before after

/-- A restart carries nothing out. -/
theorem inactive_restart (profile : Profile) (readFails writeFails : Nat → Bool)
    (situation : Situation) :
    Occurrence.Inactive ⟨.restart profile readFails writeFails, situation⟩ := by
  rintro ⟨event, -⟩
  cases event

/-- A frame that is malformed, or whose instruction is not ACTIVATE, carries out no ACTIVATE,
whatever chain is in progress. -/
theorem inactive_of_instruction {frame : Bytes}
    (other : ∀ cmd, Command.ofFrame? frame = .ok cmd → cmd.instruction ≠ .activate)
    (env : Environment) (situation : Situation) :
    Occurrence.Inactive ⟨.frame env frame, situation⟩ := by
  rintro ⟨event, -, carries, activates⟩
  cases event
  obtain ⟨-, cmd, chain, parses, -, accepts⟩ := carries
  obtain ⟨-, same⟩ := CommandChain.ins_of_complete accepts
  apply other cmd parses
  show Instruction.ofByte cmd.ins = .activate
  rw [← same]
  exact activates

theorem inactive_trace {events : List Event}
    (inactive : ∀ event ∈ events, ∀ situation, Occurrence.Inactive ⟨event, situation⟩) :
    ∀ situation, ∀ o ∈ trace events situation, o.Inactive := by
  induction events with
  | nil => exact fun _ _ member => (by cases member)
  | cons event rest ih =>
    intro situation o member
    rcases List.mem_cons.mp member with rfl | member
    · exact inactive event List.mem_cons_self situation
    · exact ih (fun event member => inactive event (List.mem_cons_of_mem _ member)) _ o member

/-- A card on which PW1 and PW3 have no attempts left. -/
def blockedCard : Card FlakyStore :=
  (run (terminatingFrames.take 6) (newCard fun _ => false)).2

theorem reached_blockedCard : Reached Environment.SoundKeys (.on blockedCard) := by
  refine reached_run (fun step member => ?_) (reached_newCard _)
  simp only [terminatingFrames, List.take, List.replicate, List.cons_append, List.nil_append,
    List.mem_cons, List.not_mem_nil, or_false] at member
  rcases member with rfl | rfl | rfl | rfl | rfl | rfl <;>
    exact Environment.soundKeys_ofRandom _ _

/-- A malformed frame, a loss of power and GET VERSION. -/
def idleEvents : List Event :=
  [.frame (.ofSeed [] 0) [0x00], .restart .default (fun _ => false) (fun _ => false),
    .frame (.ofSeed [] 0) versionFrame]

theorem terminated_card_inert_restarted :
    (finish idleEvents (.on (terminatedCard fun _ => false))).store =
        (terminatedCard fun _ => false).store.inner ∧
      ∃ env frame card ready whole,
        Event.frame (.ofSeed [] 0) terminateFrame = .frame env frame ∧
          Situation.on blockedCard = .on card ∧ Step.Carries ⟨env, frame, card⟩ ready whole ∧
            Terminates whole ready.memory := by
  have found : (terminatedCard fun _ => false).memory.stale = false ∧
      (terminatedCard fun _ => false).memory.terminated = true ∧
      blockedCard.memory.terminated = false ∧
      (process (.ofSeed [] 0) terminateFrame blockedCard).2.memory.terminated = true := by
    decide +kernel
  obtain ⟨fresh, terminated, active, after⟩ := found
  have inactive : ∀ situation, ∀ o ∈ trace idleEvents situation, o.Inactive := by
    apply inactive_trace
    intro event member
    simp only [idleEvents, List.mem_cons, List.not_mem_nil, or_false] at member
    rcases member with rfl | rfl | rfl
    · exact inactive_of_instruction (fun _ parses => by cases parses) _
    · exact inactive_restart _ _ _
    · exact inactive_of_instruction (fun _ parses => by cases parses; decide) _
  have reached : Reached Environment.SoundKeys (.on (terminatedCard fun _ => false)) :=
    reached_terminatedCard rfl
  constructor
  · obtain ⟨-, inert⟩ := terminated_card_inert.1 _ reached fresh terminated idleEvents (inactive _)
    exact inert.store
  · have before : ¬ (Situation.on blockedCard).Terminated := by
      rw [Situation.terminated_on, active]
      decide
    have ended : ∀ card : Card FlakyStore,
        (process (.ofSeed [] 0) terminateFrame card).2.memory.terminated = true →
          (Event.run (.frame (.ofSeed [] 0) terminateFrame) (.on card)).2.Terminated :=
      fun card => Situation.terminated_on.mpr
    exact terminated_card_inert.2 (.on blockedCard) reached_blockedCard before
      (.frame (.ofSeed [] 0) terminateFrame) (ended blockedCard after)

end Card

end PgpCard
