import PgpCard.Proofs.Card.Segments

/-!
# A response in progress is dropped

A response that has not been fetched in full waits for GET RESPONSE until another command comes.

* `Muted` : a chain of another command is in progress, so no GET RESPONSE is carried out;
* `Drops` : the commands that end a response in progress, every one but GET RESPONSE and INVALIDATE,
  and every one on a card that is muted;
* `run_related` : a relation that every step keeps while the answers agree is kept by a run;
* `Unheard` : two cards that differ in a response that no frame can fetch any more, carried along a
  run by `unheard_run`;
* `Owes` : no more than some bytes can be fetched with GET RESPONSE; `owes_run` is its run lemma;
* `response_dropped` : what is answered after such a command does not depend on the response in
  progress, and GET RESPONSE brings no more than the command itself returned;
* `response_outlives_invalidate` : INVALIDATE leaves the response in progress where it is.
-/

set_option autoImplicit false

namespace PgpCard

namespace CommandChain

variable {chain chain' : CommandChain} {cmd : Command}

/-- A segment that is kept belongs to the chain in progress, and leaves one in progress. -/
theorem ins_of_awaiting (h : chain.accept cmd = (.awaiting, chain')) :
    (∀ segments, chain.pending = some segments → segments.ins = cmd.ins) ∧
      ∃ segments, chain'.pending = some segments ∧ segments.ins = cmd.ins := by
  have kept : ∀ {segments : Segments} {more : Bytes}, segments.ins = cmd.ins →
      chain.keep segments more = (.awaiting, chain') →
      ∃ segments, chain'.pending = some segments ∧ segments.ins = cmd.ins := by
    intro segments more same keeps
    unfold keep at keeps
    split at keeps
    · cases keeps
    · cases keeps
      exact ⟨_, rfl, same⟩
  unfold accept at h
  split at h
  · cases h
  · rename_i none _
    refine ⟨fun segments some => ?_, kept rfl h⟩
    cases none.symm.trans some
  · rename_i segments pending _
    split at h
    · rename_i belongs
      have same : segments.ins = cmd.ins := by
        simp only [Segments.belongs, Bool.and_eq_true, beq_iff_eq] at belongs
        exact belongs.1.1
      refine ⟨fun other some => ?_, kept same h⟩
      cases pending.symm.trans some
      exact same
    · cases h
  · split at h
    · unfold close at h
      split at h <;> cases h
    · cases h

end CommandChain

namespace Card

open Attempt

variable {σ : Type} [Backend σ] {card card' : Card σ} {env : Environment} {cmd : Command}

/-! ## Two runs -/

/-- Two cards answer some frames alike if every allowed step is answered alike and leaves cards that
are related again. -/
theorem run_related {related : Card σ → Card σ → Prop} {allowed : Step σ → Prop}
    (one : ∀ step other, related step.card other → allowed step →
      (process step.env step.frame other).1 = (process step.env step.frame step.card).1 ∧
        related step.after (process step.env step.frame other).2)
    (frames : List (Environment × Bytes)) :
    ∀ {card other : Card σ}, related card other →
      (∀ step ∈ history frames card, allowed step) →
      (run frames other).1 = (run frames card).1 ∧
        related (run frames card).2 (run frames other).2 := by
  induction frames with
  | nil =>
    intro card other start _
    exact ⟨rfl, start⟩
  | cons input rest ih =>
    intro card other start all
    obtain ⟨env, frame⟩ := input
    obtain ⟨same, next⟩ := one ⟨env, frame, card⟩ other start (all _ List.mem_cons_self)
    obtain ⟨later, ends⟩ := ih next fun step member => all step (List.mem_cons_of_mem _ member)
    refine ⟨?_, ends⟩
    show (process env frame other).1 :: (run rest (process env frame other).2).1 =
      (process env frame card).1 :: (run rest (process env frame card).2).1
    rw [same]
    exact congrArg _ later

/-! ## Commands that end a response -/

/-- A chain of a command that is no GET RESPONSE is in progress. -/
def Muted (memory : Memory) : Prop :=
  ∃ segments, memory.chain.pending = some segments ∧
    Instruction.ofByte segments.ins ≠ .getResponse

/-- A command ends a response in progress. -/
def Drops (memory : Memory) (cmd : Command) : Prop :=
  cmd.instruction ≠ .getResponse ∧ cmd.instruction ≠ .invalidate ∨ Muted memory

/-- A command that the chain takes on a muted card is no GET RESPONSE. -/
theorem Drops.not_getResponse {memory : Memory} (drops : Drops memory cmd)
    (belongs : ∀ segments, memory.chain.pending = some segments → segments.ins = cmd.ins) :
    cmd.instruction ≠ .getResponse := by
  rcases drops with ⟨other, -⟩ | ⟨segments, pending, muted⟩
  · exact other
  · rw [belongs segments pending] at muted
    exact muted

/-! ## A response that cannot be fetched any more -/

/-- Two cards are the same, or differ in a response in progress on a card that is muted. -/
def Unheard (card card' : Card σ) : Prop :=
  card' = card ∨ card.memory.stale = false ∧ Muted card.memory ∧
    ∃ outgoing, card' = card.withOutgoing outgoing

/-- After a command that ends the response in progress, it does not matter which one that was. -/
theorem unheard_answer (fresh : card.memory.stale = false) (drops : Drops card.memory cmd)
    (env : Environment) (outgoing : Outgoing) :
    (answer env cmd (card.withOutgoing outgoing)).1 = (answer env cmd card).1 ∧
      Unheard (answer env cmd card).2 (answer env cmd (card.withOutgoing outgoing)).2 := by
  unfold answer
  split
  · exact ⟨rfl, .inl rfl⟩
  · rename_i instruction
    have muted : Muted card.memory := drops.resolve_left fun passes => passes.2 instruction
    exact ⟨rfl, .inr ⟨fresh, muted, outgoing, rfl⟩⟩
  · unfold receive
    have chain : (card.withOutgoing outgoing).memory.chain = card.memory.chain := rfl
    rw [chain]
    cases accepts : card.memory.chain.accept cmd with
    | mk step chain' =>
      cases step with
      | awaiting =>
        obtain ⟨belongs, segments, pending, same⟩ := CommandChain.ins_of_awaiting accepts
        have muted : Instruction.ofByte segments.ins ≠ .getResponse := by
          rw [same]
          exact drops.not_getResponse belongs
        exact ⟨rfl, .inr ⟨fresh, ⟨segments, pending, muted⟩, outgoing, rfl⟩⟩
      | failed e => exact ⟨rfl, .inl rfl⟩
      | complete whole =>
        obtain ⟨belongs, same⟩ := CommandChain.ins_of_complete accepts
        have other : whole.instruction ≠ .getResponse := by
          show Instruction.ofByte whole.ins ≠ .getResponse
          rw [same]
          exact drops.not_getResponse belongs
        dsimp only
        unfold execute
        rw [if_neg other, if_neg other]
        exact ⟨rfl, .inl rfl⟩

/-- What a frame is answered on a card that is not stale. -/
theorem process_of_fresh {frame : Bytes} (fresh : card.memory.stale = false)
    (parses : Command.ofFrame? frame = .ok cmd) (env : Environment) :
    process env frame card = ((answer env cmd card).1.toFrame, (answer env cmd card).2) :=
  process_of_ready parses (ready?_of_fresh fresh) env

theorem unheard_process (env : Environment) (frame : Bytes) (unheard : Unheard card card') :
    (process env frame card').1 = (process env frame card).1 ∧
      Unheard (process env frame card).2 (process env frame card').2 := by
  rcases unheard with rfl | ⟨fresh, muted, outgoing, rfl⟩
  · exact ⟨rfl, .inl rfl⟩
  · cases parses : Command.ofFrame? frame with
    | error e =>
      simp only [process, parses]
      exact ⟨trivial, .inr ⟨fresh, muted, outgoing, rfl⟩⟩
    | ok cmd =>
      have fresh' : (card.withOutgoing outgoing).memory.stale = false := fresh
      rw [process_of_fresh fresh parses, process_of_fresh fresh' parses]
      obtain ⟨same, unheard⟩ := unheard_answer fresh (.inr muted) env outgoing
      exact ⟨congrArg Response.toFrame same, unheard⟩

theorem unheard_run (frames : List (Environment × Bytes)) (unheard : Unheard card card') :
    (run frames card').1 = (run frames card).1 := by
  have one : ∀ (step : Step σ) (other : Card σ), Unheard step.card other → True →
      (process step.env step.frame other).1 = (process step.env step.frame step.card).1 ∧
        Unheard step.after (process step.env step.frame other).2 :=
    fun step _ unheard _ => unheard_process step.env step.frame unheard
  exact (run_related one frames unheard fun _ _ => trivial).1

/-! ## What GET RESPONSE can bring -/

/-- A frame is a GET RESPONSE, whether it is a segment of a chain or not. -/
def IsGetResponse (frame : Bytes) : Prop :=
  ∃ cmd, Command.ofFrame? frame = .ok cmd ∧ cmd.instruction = .getResponse

/-- The data of an answer, without the status word. -/
def payload (answer : Bytes) : Bytes := answer.take (answer.length - 2)

theorem payload_toFrame (response : Response) :
    payload response.toFrame = response.data.take Response.capacity := by
  simp [payload, Response.toFrame]

/-- What is sent next of a response, and what is left of it then. -/
theorem next_data (data : Bytes) :
    (Outgoing.next ⟨data⟩).1.data = data.take Response.capacity ∧
      (Outgoing.next ⟨data⟩).2.unsent = data.drop Response.capacity := by
  unfold Outgoing.next
  dsimp only
  split
  · rename_i sent
    rw [List.isEmpty_iff] at sent
    exact ⟨rfl, sent.symm⟩
  · exact ⟨rfl, rfl⟩

theorem payload_next (data : Bytes) :
    payload (Outgoing.next ⟨data⟩).1.toFrame = data.take Response.capacity := by
  rw [payload_toFrame, (next_data data).1, List.take_take, Nat.min_self]

theorem payload_error (status : StatusWord) : payload (Response.error status).toFrame = [] := rfl

theorem payload_ok : payload Response.ok.toFrame = [] := rfl

/-- No more than some bytes can be fetched with GET RESPONSE: the response in progress has just
these left, or it is not sent at all. -/
def Owes (memory : Memory) (left : Bytes) : Prop :=
  memory.stale = true ∨ Muted memory ∨ memory.outgoing.unsent = left

/-- A GET RESPONSE brings the first of the bytes that are left, or none. -/
theorem owes_answer {left : Bytes} (more : cmd.instruction = .getResponse)
    (owes : Muted card.memory ∨ card.memory.outgoing.unsent = left) (env : Environment) :
    ∃ left', payload (answer env cmd card).1.toFrame ++ left' <+: left ∧
      Owes (answer env cmd card).2.memory left' := by
  have receives : answer env cmd card = receive env cmd card := by
    unfold answer
    rw [more]
  rw [receives]
  -- what the chain takes is no part of another command
  have heard : (∀ segments, card.memory.chain.pending = some segments → segments.ins = cmd.ins) →
      card.memory.outgoing.unsent = left := by
    intro belongs
    refine owes.resolve_left fun muted => ?_
    exact Drops.not_getResponse (.inr muted) belongs more
  unfold receive
  cases accepts : card.memory.chain.accept cmd with
  | mk step chain' =>
    cases step with
    | awaiting =>
      have unsent := heard (CommandChain.ins_of_awaiting accepts).1
      exact ⟨left, List.prefix_rfl, .inr (.inr unsent)⟩
    | failed e => exact ⟨[], List.nil_prefix, .inr (.inr rfl)⟩
    | complete whole =>
      obtain ⟨belongs, same⟩ := CommandChain.ins_of_complete accepts
      have unsent := heard belongs
      have more : whole.instruction = .getResponse := by
        show Instruction.ofByte whole.ins = .getResponse
        rw [same]
        exact more
      dsimp only
      unfold execute
      rw [if_pos more]
      split
      · exact ⟨left, List.prefix_rfl, .inr (.inr unsent)⟩
      · refine ⟨left.drop Response.capacity, ?_, .inr (.inr ?_)⟩
        · have brings : payload (Outgoing.next ⟨card.memory.outgoing.unsent⟩).1.toFrame ++
              left.drop Response.capacity = left := by
            rw [payload_next, unsent, List.take_append_drop]
          exact ⟨[], (List.append_nil _).trans brings⟩
        · show (Outgoing.next ⟨card.memory.outgoing.unsent⟩).2.unsent = _
          rw [(next_data _).2, unsent]

/-- A card that was just reloaded has nothing to send. -/
theorem outgoing_of_reloaded {ready : Card σ} (stale : card.memory.stale = true)
    (found : ready? card = some ready) : ready.memory.outgoing = .empty := by
  rw [ready?, if_pos stale, reload_eq] at found
  cases loaded : load card.store with
  | ok kept store =>
    simp only [loaded, Option.some.injEq] at found
    subst found
    rfl
  | error e store => simp [loaded] at found

/-- A card that cannot be reloaded says so and keeps its memory. -/
theorem process_of_not_ready {frame : Bytes} (parses : Command.ofFrame? frame = .ok cmd)
    (found : ready? card = none) (env : Environment) :
    (process env frame card).1 = (Response.error .unknown).toFrame := by
  cases stale : card.memory.stale with
  | false => cases (ready?_of_fresh stale).symm.trans found
  | true =>
    rw [ready?, if_pos stale, reload_eq] at found
    simp only [process, parses, respond, stale, reload_eq, ↓reduceIte]
    cases loaded : load card.store with
    | ok kept store => simp [loaded] at found
    | error e store => rfl

theorem owes_process {frame left : Bytes} (more : IsGetResponse frame)
    (owes : Owes card.memory left) (env : Environment) :
    ∃ left', payload (process env frame card).1 ++ left' <+: left ∧
      Owes (process env frame card).2.memory left' := by
  obtain ⟨cmd, parses, more⟩ := more
  cases found : ready? card with
  | none =>
    have stale := stale_of_not_ready env frame found
    rw [process_of_not_ready parses found]
    exact ⟨[], List.nil_prefix, .inl stale⟩
  | some ready =>
    rw [process_of_ready parses found]
    cases stale : card.memory.stale with
    | true =>
      have unsent : ready.memory.outgoing.unsent = [] := by
        rw [outgoing_of_reloaded stale found]
        rfl
      obtain ⟨left', brings, owes'⟩ := owes_answer more (.inr unsent) env
      exact ⟨left', brings.trans List.nil_prefix, owes'⟩
    | false =>
      cases (ready?_of_fresh stale).symm.trans found
      have fresh : card.memory.stale ≠ true := by simp [stale]
      exact owes_answer more (owes.resolve_left fresh) env

/-- All that some GET RESPONSE frames bring is what is left, or the beginning of it. -/
theorem owes_run (later : List (Environment × Bytes)) :
    ∀ {card : Card σ} {left : Bytes}, (∀ input ∈ later, IsGetResponse input.2) →
      Owes card.memory left → (run later card).1.flatMap payload <+: left := by
  induction later with
  | nil =>
    intro card left _ _
    exact List.nil_prefix
  | cons input later ih =>
    intro card left more owes
    obtain ⟨env, frame⟩ := input
    obtain ⟨left', brings, owes'⟩ := owes_process (more (env, frame) List.mem_cons_self) owes env
    have rest := ih (fun input member => more input (List.mem_cons_of_mem _ member)) owes'
    rw [run, List.flatMap_cons]
    exact ((List.prefix_append_right_inj _).mpr rest).trans brings

/-! ## Frames that drop a response -/

section Frames

variable {card : Card FlakyStore} {frame : Bytes}

/-- What the answer to a frame brings, and what GET RESPONSE can bring after it, is what the command
of the frame returned, or nothing. -/
def BringsOwn (env : Environment) (frame : Bytes) (card : Card FlakyStore) : Prop :=
  ∃ data, (data = [] ∨ ∃ final, Step.Returns ⟨env, frame, card⟩ data final) ∧
    ∃ left, payload (process env frame card).1 ++ left <+: data ∧
      Owes (process env frame card).2.memory left

/-- A command that is carried out has no other response to send than its own. -/
theorem bringsOwn_of_carries {whole : Command} (sound : SoundOn False card)
    (carries : Step.Carries ⟨env, frame, card⟩ card whole)
    (other : whole.instruction ≠ .getResponse)
    (live : card.memory.terminated = false ∨ whole.instruction = .activate) :
    BringsOwn env frame card := by
  cases ended : dispatch env whole (begun card) with
  | ok data final =>
    have returns : Step.Returns ⟨env, frame, card⟩ data final :=
      ⟨card, whole, carries, other, live, ended⟩
    refine ⟨data, .inr ⟨final, returns⟩, data.drop Response.capacity, ?_, ?_⟩
    · rw [returns.processed]
      have brings : payload (Outgoing.next ⟨data⟩).1.toFrame ++ data.drop Response.capacity =
          data := by
        rw [payload_next, List.take_append_drop]
      exact ⟨[], (List.append_nil _).trans brings⟩
    · rw [returns.processed]
      exact .inr (.inr (next_data data).2)
  | error e final =>
    have holds : Holds (begun card).store.inner (begun card).memory.persistent :=
      (holds_ready sound carries.1).1
    obtain ⟨kept', -, executes⟩ :=
      (dispatch_durably env whole (begun card).memory (begun card).store holds).of_error ended
    have nothing : final.memory.outgoing = .empty := executes.sameTransfer.outgoing.elim id id
    have leads : (dispatch env whole).Leads (begun card) fun r after =>
        r = .error e ∧ after = final := by
      rw [Leads, ended]
      exact ⟨rfl, rfl⟩
    obtain ⟨r, after, ⟨rfl, rfl⟩, processed⟩ := process_of_carries carries other live leads
    refine ⟨[], .inl rfl, [], ?_, ?_⟩
    · rw [processed]
      exact List.nil_prefix
    · rw [processed]
      refine .inr (.inr ?_)
      show after.memory.outgoing.unsent = []
      rw [nothing]
      rfl

/-- A frame that ends the response in progress brings no more than its own. -/
theorem bringsOwn_of_drops (sound : SoundOn False card) (fresh : card.memory.stale = false)
    (parses : Command.ofFrame? frame = .ok cmd) (drops : Drops card.memory cmd)
    (env : Environment) : BringsOwn env frame card := by
  have other : ∀ {whole chain}, card.memory.chain.accept cmd = (.complete whole, chain) →
      whole.instruction ≠ .getResponse := by
    intro whole chain accepts
    obtain ⟨belongs, same⟩ := CommandChain.ins_of_complete accepts
    show Instruction.ofByte whole.ins ≠ .getResponse
    rw [same]
    exact drops.not_getResponse belongs
  have found : ready? card = some card := ready?_of_fresh fresh
  have holds : Holds card.store.inner card.memory.persistent := (holds_ready sound found).1
  obtain ⟨kept', -, answers⟩ := answer_answers env cmd holds
  have processed := process_of_fresh fresh parses env
  -- all but a command that is carried out leave nothing to send, or a card that is muted
  have silent : payload (answer env cmd card).1.toFrame = [] →
      Muted (answer env cmd card).2.memory ∨
        (answer env cmd card).2.memory.outgoing.unsent = [] → BringsOwn env frame card := by
    intro none owes
    refine ⟨[], .inl rfl, [], ?_, ?_⟩
    · rw [processed, none]
      exact List.nil_prefix
    · rw [processed]
      exact .inr owes
  generalize (answer env cmd card).1 = response at *
  generalize (answer env cmd card).2.memory = memory' at *
  cases answers with
  | selects => exact silent payload_ok (.inr rfl)
  | invalidates instruction =>
    have muted : Muted card.memory := drops.resolve_left fun passes => passes.2 instruction
    exact silent payload_ok (.inl muted)
  | awaits _ accepts =>
    obtain ⟨belongs, segments, pending, same⟩ := CommandChain.ins_of_awaiting accepts
    have muted : Instruction.ofByte segments.ins ≠ .getResponse := by
      rw [same]
      exact drops.not_getResponse belongs
    exact silent payload_ok (.inl ⟨segments, pending, muted⟩)
  | breaks => exact silent (payload_error _) (.inr rfl)
  | refuses _ accepts =>
    refine silent (payload_error _) (.inr ?_)
    rw [if_neg (other accepts)]
    rfl
  | continues _ accepts _ more => exact absurd more (other accepts)
  | executes passes accepts live =>
    exact bringsOwn_of_carries sound ⟨found, cmd, _, parses, passes, accepts⟩ (other accepts) live

end Frames

/-- A response in progress ends with the next command.  What a frame is answered that is neither
GET RESPONSE nor INVALIDATE, or that comes while a chain of another command is in progress, and what
is answered after it, is the same whatever response was in progress; and what the frame and the
GET RESPONSE frames after it bring, segments of a chain or not, is what the command of the frame
itself returned, or nothing. -/
theorem response_dropped {outside : Environment → Prop} {card : Card FlakyStore} {frame : Bytes}
    (reached : Reached outside (.on card)) (fresh : card.memory.stale = false)
    (parses : Command.ofFrame? frame = .ok cmd) (drops : Drops card.memory cmd)
    (env : Environment) :
    (∀ (outgoing : Outgoing) (later : List (Environment × Bytes)),
      (run ((env, frame) :: later) (card.withOutgoing outgoing)).1 =
        (run ((env, frame) :: later) card).1) ∧
    ∃ data, (data = [] ∨ ∃ final, Step.Returns ⟨env, frame, card⟩ data final) ∧
      ∀ later : List (Environment × Bytes), (∀ input ∈ later, IsGetResponse input.2) →
        (run ((env, frame) :: later) card).1.flatMap payload <+: data := by
  have sound : SoundOn False card := sound_of_reached nofun reached
  constructor
  · intro outgoing later
    have fresh' : (card.withOutgoing outgoing).memory.stale = false := fresh
    obtain ⟨same, unheard⟩ := unheard_answer fresh drops env outgoing
    simp only [run, process_of_fresh fresh parses, process_of_fresh fresh' parses, same,
      unheard_run later unheard]
  · obtain ⟨data, own, left, brings, owes⟩ := bringsOwn_of_drops sound fresh parses drops env
    refine ⟨data, own, fun later more => ?_⟩
    rw [run, List.flatMap_cons]
    exact ((List.prefix_append_right_inj _).mpr (owes_run later more owes)).trans brings

/-- A card that has sent the first part of a long certificate. -/
def interruptedCard : Card FlakyStore :=
  (process (.ofSeed [] 0) certificateFrame certificateCard).2

theorem reached_interruptedCard : Reached (fun _ => True) (.on interruptedCard) :=
  reached_certificateCard.processes trivial certificateFrame

/-- GET VERSION. -/
def versionFrame : Bytes := [0x00, 0xF1, 0x00, 0x00]

theorem response_dropped_version :
    interruptedCard.memory.stale = false ∧ interruptedCard.memory.outgoing.unsent = [0x5A] ∧
      (∀ outgoing, (run [(.ofSeed [] 0, versionFrame), (.ofSeed [] 0, moreFrame)]
        (interruptedCard.withOutgoing outgoing)).1 =
          [version ++ [0x90, 0x00], [0x90, 0x00]]) := by
  have found : interruptedCard.memory.stale = false ∧
      interruptedCard.memory.outgoing.unsent = [0x5A] ∧
      (run [(.ofSeed [] 0, versionFrame), (.ofSeed [] 0, moreFrame)] interruptedCard).1 =
        [version ++ [0x90, 0x00], [0x90, 0x00]] := by
    decide +kernel
  obtain ⟨fresh, pending, answers⟩ := found
  have parses : Command.ofFrame? versionFrame = .ok ⟨0x00, 0xF1, 0x00, 0x00, [], none⟩ := rfl
  have drops : Drops interruptedCard.memory ⟨0x00, 0xF1, 0x00, 0x00, [], none⟩ :=
    .inl ⟨by decide, by decide⟩
  have dropped := response_dropped reached_interruptedCard fresh parses drops (.ofSeed [] 0)
  refine ⟨fresh, pending, fun outgoing => ?_⟩
  rw [← answers]
  exact dropped.1 outgoing [(.ofSeed [] 0, moreFrame)]

/-! ## INVALIDATE -/

/-- INVALIDATE. -/
def invalidateFrame : Bytes := [0x00, 0x55, 0x00, 0x00]

/-- INVALIDATE ends what is verified and leaves the response in progress: where no chain is in
progress, the next GET RESPONSE brings what it would have brought before. -/
theorem response_outlives_invalidate {card : Card σ} (listens : Listens card)
    (env env' : Environment) :
    (run [(env, invalidateFrame), (env', moreFrame)] card).1 =
      [Response.ok.toFrame, (process env' moreFrame card).1] := by
  have parses : Command.ofFrame? invalidateFrame = .ok ⟨0x00, 0x55, 0x00, 0x00, [], none⟩ := rfl
  have invalidated : process env invalidateFrame card = (Response.ok.toFrame, card.invalidate) :=
    process_of_fresh listens.fresh parses env
  have listens' : Listens card.invalidate := ⟨listens.fresh, listens.active, listens.idle⟩
  simp only [run, invalidated, process_moreFrame listens, process_moreFrame listens']
  rfl

theorem invalidate_keeps_certificate :
    Reached (fun _ => True) (.on interruptedCard) ∧ interruptedCard.memory.stale = false ∧
      interruptedCard.memory.outgoing.unsent = [0x5A] ∧
      Command.ofFrame? invalidateFrame = .ok ⟨0x00, 0x55, 0x00, 0x00, [], none⟩ ∧
      (run [(.ofSeed [] 0, invalidateFrame), (.ofSeed [] 0, moreFrame)] interruptedCard).1 =
        [[0x90, 0x00], [0x5A, 0x90, 0x00]] ∧
      (run [(.ofSeed [] 0, invalidateFrame), (.ofSeed [] 0, moreFrame)]
        (interruptedCard.withOutgoing .empty)).1 = [[0x90, 0x00], [0x90, 0x00]] := by
  have runs : interruptedCard.memory.stale = false ∧
      interruptedCard.memory.outgoing.unsent = [0x5A] ∧
      (run [(.ofSeed [] 0, invalidateFrame), (.ofSeed [] 0, moreFrame)] interruptedCard).1 =
        [[0x90, 0x00], [0x5A, 0x90, 0x00]] ∧
      (run [(.ofSeed [] 0, invalidateFrame), (.ofSeed [] 0, moreFrame)]
        (interruptedCard.withOutgoing .empty)).1 = [[0x90, 0x00], [0x90, 0x00]] := by
    decide +kernel
  obtain ⟨fresh, pending, kept, dropped⟩ := runs
  exact ⟨reached_interruptedCard, fresh, pending, rfl, kept, dropped⟩

end Card

end PgpCard
