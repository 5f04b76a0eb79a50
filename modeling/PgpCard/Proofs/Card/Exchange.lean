import PgpCard.Proofs.Card.Dispatch

/-!
# What a frame can come to

* `Answers env cmd memory response memory' kept'` relates a command that arrives, begun with a
  `memory` that agrees with the store, to its response, to the memory afterwards and to what the
  store holds afterwards.  It says what the session, the chain and the life of the card make of
  the command before it is carried out.
* `answer_answers` : every command that arrives is answered in one of these ways.
* `Answers.settled` : unless memory is stale afterwards, the store holds what is in memory.
-/

set_option autoImplicit false

namespace PgpCard

/-- A command that is whole has the instruction of its last segment, and of the segments before. -/
theorem CommandChain.ins_of_complete {chain chain' : CommandChain} {cmd whole : Command}
    (h : chain.accept cmd = (.complete whole, chain')) :
    (∀ segments, chain.pending = some segments → segments.ins = cmd.ins) ∧
      whole.ins = cmd.ins := by
  unfold accept keep at h
  split at h
  · rename_i none _
    cases h
    refine ⟨fun segments some => ?_, rfl⟩
    cases none.symm.trans some
  · split at h <;> cases h
  · split at h
    · split at h <;> cases h
    · cases h
  · rename_i segments pending _
    split at h
    · rename_i belongs
      unfold close at h
      split at h
      · cases h
      · cases h
        refine ⟨fun other some => ?_, rfl⟩
        cases pending.symm.trans some
        simp only [Segments.belongs, Bool.and_eq_true, beq_iff_eq] at belongs
        exact belongs.1.1
    · cases h

namespace Card

/-- A frame makes a command whole. -/
def Completes (memory : Memory) (frame : Bytes) (whole : Command) : Prop :=
  ∃ cmd chain, Command.ofFrame? frame = .ok cmd ∧
    (cmd.instruction ≠ .select ∧ cmd.instruction ≠ .invalidate) ∧
    memory.chain.accept cmd = (.complete whole, chain)

/-- The response to a command that ended with a result. -/
def reply : Except CardError Bytes → Response
  | .ok data => (Outgoing.send data).1
  | .error e => .error e.status

/-- The memory after a command that ended with a result. -/
def conclude (r : Except CardError Bytes) (memory : Memory) : Memory :=
  match r with
  | .ok data => { memory with outgoing := (Outgoing.send data).2 }
  | .error e => { memory with stale := memory.stale || e.isStorage }

/-- The ways in which a command that arrives can be answered. -/
inductive Answers (env : Environment) (cmd : Command) (memory : Memory) :
    Response → Memory → Persistent → Prop
  | selects (instruction : cmd.instruction = .select) :
    Answers env cmd memory .ok
      { memory with
        security := memory.security.revokePw1
        chain := memory.chain.reset
        outgoing := .empty } memory.persistent
  | invalidates (instruction : cmd.instruction = .invalidate) :
    Answers env cmd memory .ok { memory with security := memory.security.revokeAll }
      memory.persistent
  | awaits {chain : CommandChain}
    (passes : cmd.instruction ≠ .select ∧ cmd.instruction ≠ .invalidate)
    (accepts : memory.chain.accept cmd = (.awaiting, chain)) :
    Answers env cmd memory .ok { memory with chain } memory.persistent
  | breaks {chain : CommandChain} {e : CardError}
    (passes : cmd.instruction ≠ .select ∧ cmd.instruction ≠ .invalidate)
    (accepts : memory.chain.accept cmd = (.failed e, chain)) :
    Answers env cmd memory (.error e.status) { memory with chain, outgoing := .empty }
      memory.persistent
  | refuses {chain : CommandChain} {whole : Command}
    (passes : cmd.instruction ≠ .select ∧ cmd.instruction ≠ .invalidate)
    (accepts : memory.chain.accept cmd = (.complete whole, chain))
    (terminated : memory.terminated = true) (other : whole.instruction ≠ .activate) :
    Answers env cmd memory (.error .conditionsNotSatisfied)
      { memory with
        chain
        outgoing := if whole.instruction = .getResponse then memory.outgoing else .empty }
      memory.persistent
  | continues {chain : CommandChain} {whole : Command}
    (passes : cmd.instruction ≠ .select ∧ cmd.instruction ≠ .invalidate)
    (accepts : memory.chain.accept cmd = (.complete whole, chain))
    (active : memory.terminated = false) (instruction : whole.instruction = .getResponse) :
    Answers env cmd memory memory.outgoing.next.1
      { memory with chain, outgoing := memory.outgoing.next.2 } memory.persistent
  | executes {chain : CommandChain} {whole : Command} {r : Except CardError Bytes}
    {memory' : Memory} {kept' : Persistent}
    (passes : cmd.instruction ≠ .select ∧ cmd.instruction ≠ .invalidate)
    (accepts : memory.chain.accept cmd = (.complete whole, chain))
    (live : memory.terminated = false ∨ whole.instruction = .activate)
    (executes : Executes env whole { memory with chain, outgoing := .empty } r memory' kept') :
    Answers env cmd memory (reply r) (conclude r memory') kept'

variable {env : Environment} {cmd : Command} {card : Card FlakyStore}

/-- A condition on the outcome of an answer. -/
def Answered (env : Environment) (cmd : Command) (memory : Memory)
    (outcome : Response × Card FlakyStore) : Prop :=
  ∃ kept', Holds outcome.2.store.inner kept' ∧
    Answers env cmd memory outcome.1 outcome.2.memory kept'

/-- A command that is not refused finds a card that takes commands, or is ACTIVATE. -/
theorem live_of_not_refused {memory : Memory} {whole : Command}
    (live : ¬ (memory.terminated = true ∧ whole.instruction ≠ .activate)) :
    memory.terminated = false ∨ whole.instruction = .activate := by
  rwa [Classical.not_and_iff_not_or_not, Classical.not_not, Bool.not_eq_true] at live

theorem execute_answers {memory : Memory} {whole : Command} {chain : CommandChain}
    (holds : Holds card.store.inner memory.persistent)
    (same : card.memory = { memory with chain })
    (passes : cmd.instruction ≠ .select ∧ cmd.instruction ≠ .invalidate)
    (accepts : memory.chain.accept cmd = (.complete whole, chain)) :
    Answered env cmd memory (execute env whole card) := by
  obtain ⟨_, store⟩ := card
  cases same
  unfold execute
  split
  · rename_i instruction
    split
    · rename_i terminated
      refine ⟨_, holds, ?_⟩
      have refuses : Answers env cmd memory _ _ _ :=
        .refuses passes accepts terminated (by rw [instruction]; decide)
      rwa [if_pos instruction] at refuses
    · rename_i active
      exact ⟨_, holds, .continues passes accepts (by simpa using active) instruction⟩
  · rename_i other
    dsimp only
    split
    · rename_i refused
      refine ⟨_, holds, ?_⟩
      have refuses : Answers env cmd memory _ _ _ :=
        .refuses passes accepts refused.1 refused.2
      rwa [if_neg other] at refuses
    · rename_i live
      have live : memory.terminated = false ∨ whole.instruction = .activate :=
        live_of_not_refused live
      have run := dispatch_durably env whole { memory with chain, outgoing := .empty } store holds
      split
      · rename_i data final ends
        obtain ⟨kept', holds', executes⟩ := run.of_ok ends
        exact ⟨kept', holds', .executes passes accepts live executes⟩
      · rename_i e final ends
        obtain ⟨kept', holds', executes⟩ := run.of_error ends
        have answers : Answers env cmd memory _ _ _ := .executes passes accepts live executes
        cases kind : e.isStorage with
        | true =>
          rw [conclude, kind, Bool.or_true] at answers
          exact ⟨kept', holds', answers⟩
        | false =>
          rw [conclude, kind, Bool.or_false] at answers
          exact ⟨kept', holds', answers⟩

/-- Every command that arrives is answered in one of these ways, whatever the store refuses. -/
theorem answer_answers (env : Environment) (cmd : Command)
    (holds : Holds card.store.inner card.memory.persistent) :
    Answered env cmd card.memory (answer env cmd card) := by
  unfold answer
  split
  · exact ⟨_, holds, .selects ‹_›⟩
  · exact ⟨_, holds, .invalidates ‹_›⟩
  · rename_i not_select not_invalidate
    have passes := And.intro not_select not_invalidate
    unfold receive
    cases accepts : card.memory.chain.accept cmd with
    | mk step chain =>
      cases step with
      | awaiting => exact ⟨_, holds, .awaits passes accepts⟩
      | failed e => exact ⟨_, holds, .breaks passes accepts⟩
      | complete whole => exact execute_answers holds rfl passes accepts

/-! ## Memory and store afterwards -/

/-- A chain may hold as much after a frame as before. -/
theorem capacity_accept {chain chain' : CommandChain} {step : ChainStep}
    (h : chain.accept cmd = (step, chain')) : chain'.capacity = chain.capacity := by
  unfold CommandChain.accept CommandChain.keep CommandChain.close at h
  grind [CommandChain.reset, CommandChain.idle]

/-- A chain with nothing pending has nothing to drop. -/
theorem reset_of_idle {chain : CommandChain} (idle : chain.pending = none) :
    chain.reset = chain := by
  rw [CommandChain.reset, CommandChain.idle, ← idle]

/-- Nothing is left of a chain whose command is whole. -/
theorem reset_of_complete {chain chain' : CommandChain} {whole : Command}
    (h : chain.accept cmd = (.complete whole, chain')) : chain' = chain.reset := by
  unfold CommandChain.accept CommandChain.keep CommandChain.close at h
  split at h
  · rename_i idle _
    cases h
    exact (reset_of_idle idle).symm
  · split at h <;> cases h
  · split at h
    · split at h <;> cases h
    · cases h
  · split at h
    · split at h
      · cases h
      · cases h
        rfl
    · cases h

theorem persistent_conclude (r : Except CardError Bytes) (memory : Memory) :
    (conclude r memory).persistent = memory.persistent := by
  cases r <;> rfl

theorem chain_conclude (r : Except CardError Bytes) (memory : Memory) :
    (conclude r memory).chain = memory.chain := by
  cases r <;> rfl

namespace Answers

variable {memory memory' : Memory} {response : Response} {kept' : Persistent}

/-- Unless memory is stale afterwards, the store holds what is in memory. -/
theorem settled (h : Answers env cmd memory response memory' kept')
    (fresh : memory'.stale = false) : kept' = memory'.persistent := by
  cases h with
  | executes _ _ _ executes =>
    rw [persistent_conclude]
    obtain same | ⟨e, rfl⟩ := executes.settled
    · exact same
    · simp [conclude, CardError.isStorage] at fresh
  | _ => rfl

/-- What a frame can make of the key slots, in memory and in the store. -/
theorem become (h : Answers env cmd memory response memory' kept') :
    KeySlots.Become env memory.keys memory'.keys ∧ KeySlots.Become env memory.keys kept'.keys := by
  cases h with
  | executes _ _ _ executes =>
    obtain ⟨held, durable⟩ := executes.become
    refine ⟨?_, durable⟩
    rw [show (conclude _ _).keys = _ from congrArg Persistent.keys (persistent_conclude _ _)]
    exact held
  | _ => exact ⟨.refl env _, .refl env _⟩

/-- What the store holds of the keys is enough to rebuild them. -/
theorem coherent (h : Answers env cmd memory response memory' kept') (sound : env.SoundKeys)
    (before : memory.keys.Coherent) : kept'.keys.Coherent := h.become.2.coherent sound before

/-- No command changes how much a chain may hold. -/
theorem capacity (h : Answers env cmd memory response memory' kept') :
    memory'.chain.capacity = memory.chain.capacity := by
  cases h with
  | selects | invalidates => rfl
  | awaits _ accepts | breaks _ accepts | refuses _ accepts | continues _ accepts =>
    exact capacity_accept accepts
  | executes _ accepts _ executes =>
    rw [chain_conclude, executes.capacity]
    exact capacity_accept accepts

end Answers

end Card

end PgpCard
