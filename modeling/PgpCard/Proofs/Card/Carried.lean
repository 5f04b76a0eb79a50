import PgpCard.Proofs.Card.History

/-!
# What a frame comes to through its command

A frame that makes a command whole is answered with the outcome of that command alone: it begins
with nothing left in the chain and no response in progress.  So what is known of `dispatch` is known
of the frame.

* `process_of_carries` : the answer and the card afterwards, from what a command leads to;
* `Step.ended` : the same for a step of a history;
* `Step.active_of_succeeds` : a terminated card carries nothing out but ACTIVATE.
-/

set_option autoImplicit false

namespace PgpCard.Card

open Attempt

variable {σ : Type} [Backend σ]

/-- The card on which a command that has become whole is carried out. -/
def begun (ready : Card σ) : Card σ :=
  ⟨{ ready.memory with chain := ready.memory.chain.reset, outgoing := .empty }, ready.store⟩

theorem isOkay_reply (r : Except CardError Bytes) : (reply r).isOkay = r.isOk := by
  cases r with
  | ok data => exact Outgoing.isOkay_next _
  | error e => exact Response.isOkay_error e

theorem reportsSuccess_reply (r : Except CardError Bytes) :
    Response.reportsSuccess (reply r).toFrame = r.isOk := by
  rw [Response.reportsSuccess_toFrame, isOkay_reply]

/-- A command that is carried out is answered with its outcome. -/
theorem execute_of_leads {env : Environment} {cmd : Command} {card : Card σ}
    {post : Except CardError Bytes → Card σ → Prop} (other : cmd.instruction ≠ .getResponse)
    (live : card.memory.terminated = false ∨ cmd.instruction = .activate)
    (leads : (dispatch env cmd).Leads (card.withOutgoing .empty) post) :
    ∃ r final, post r final ∧
      execute env cmd card = (reply r, ⟨conclude r final.memory, final.store⟩) := by
  have carried : ¬ ((card.withOutgoing .empty).memory.terminated = true ∧
      cmd.instruction ≠ .activate) := by
    rintro ⟨terminated, inactive⟩
    rcases live with active | activate
    · cases active.symm.trans terminated
    · exact inactive activate
  unfold execute
  rw [if_neg other]
  dsimp only
  rw [if_neg carried]
  cases ended : dispatch env cmd (card.withOutgoing .empty) with
  | ok data final => exact ⟨.ok data, final, leads.of_ok ended, rfl⟩
  | error e final =>
    refine ⟨.error e, final, leads.of_error ended, ?_⟩
    dsimp only [reply, conclude]
    cases kind : e.isStorage with
    | true => rw [Bool.or_true]; rfl
    | false => rw [Bool.or_false]; rfl

/-- A terminated card refuses a command. -/
theorem execute_of_terminated {env : Environment} {cmd : Command} {card : Card σ}
    (terminated : card.memory.terminated = true) (other : cmd.instruction ≠ .activate) :
    (execute env cmd card).1 = .error CardError.conditionsNotSatisfied.status := by
  unfold execute
  by_cases more : cmd.instruction = .getResponse
  · rw [if_pos more, if_pos terminated]
    rfl
  · have refused : (card.withOutgoing .empty).memory.terminated = true ∧
        cmd.instruction ≠ .activate := ⟨terminated, other⟩
    rw [if_neg more]
    dsimp only
    rw [if_pos refused]
    rfl

/-- A frame that makes a command whole is answered with the outcome of the command. -/
theorem process_of_carries {env : Environment} {frame : Bytes} {card ready : Card σ}
    {whole : Command} {post : Except CardError Bytes → Card σ → Prop}
    (carries : Step.Carries ⟨env, frame, card⟩ ready whole)
    (other : whole.instruction ≠ .getResponse)
    (live : ready.memory.terminated = false ∨ whole.instruction = .activate)
    (leads : (dispatch env whole).Leads (begun ready) post) :
    ∃ r final, post r final ∧
      process env frame card = ((reply r).toFrame, ⟨conclude r final.memory, final.store⟩) := by
  let idle : Card σ := ⟨{ ready.memory with chain := ready.memory.chain.reset }, ready.store⟩
  have ends : ∃ r final, post r final ∧
      execute env whole idle = (reply r, ⟨conclude r final.memory, final.store⟩) :=
    execute_of_leads other live leads
  obtain ⟨r, final, meets, executed⟩ := ends
  refine ⟨r, final, meets, ?_⟩
  rw [process_of_completes carries.1 carries.2, executed]
  rfl

namespace Step

variable {step : Step σ} {ready : Card σ} {whole : Command}

/-- A frame that is no segment is a whole command where no chain is in progress. -/
theorem carries_of_idle (parses : Command.ofFrame? step.frame = .ok whole)
    (unchained : whole.isChained = false)
    (passes : whole.instruction ≠ .select ∧ whole.instruction ≠ .invalidate)
    (found : ready? step.card = some ready) (idle : ready.memory.chain.pending = none) :
    step.Carries ready whole := by
  refine ⟨found, whole, ready.memory.chain, parses, passes, ?_⟩
  simp only [CommandChain.accept, idle, unchained]

/-- A step that carries a command ends with the outcome of the command. -/
theorem ended {post : Except CardError Bytes → Card σ → Prop} (carries : step.Carries ready whole)
    (other : whole.instruction ≠ .getResponse)
    (live : ready.memory.terminated = false ∨ whole.instruction = .activate)
    (leads : (dispatch step.env whole).Leads (begun ready) post) :
    ∃ r final, post r final ∧ step.succeeds = r.isOk ∧
      step.after = ⟨conclude r final.memory, final.store⟩ := by
  obtain ⟨r, final, meets, processed⟩ := process_of_carries carries other live leads
  refine ⟨r, final, meets, ?_, ?_⟩
  · rw [succeeds, processed, reportsSuccess_reply]
  · rw [after, processed]

/-- A terminated card refuses the command that a frame makes whole. -/
theorem Carries.answer_of_terminated (carries : step.Carries ready whole)
    (terminated : ready.memory.terminated = true) (other : whole.instruction ≠ .activate) :
    (process step.env step.frame step.card).1 =
      (Response.error CardError.conditionsNotSatisfied.status).toFrame := by
  have refused : (execute step.env whole
        ⟨{ ready.memory with chain := ready.memory.chain.reset }, ready.store⟩).1 =
      .error CardError.conditionsNotSatisfied.status :=
    execute_of_terminated terminated other
  rw [process_of_completes carries.1 carries.2, Prod.map_fst, refused]

/-- Where a command succeeds, the card takes commands, or the command is ACTIVATE. -/
theorem active_of_succeeds (carries : step.Carries ready whole) (done : step.succeeds = true) :
    ready.memory.terminated = false ∨ whole.instruction = .activate := by
  by_cases activate : whole.instruction = .activate
  · exact .inr activate
  · refine .inl ?_
    cases terminated : ready.memory.terminated with
    | false => rfl
    | true =>
      rw [succeeds, carries.answer_of_terminated terminated activate,
        Response.reportsSuccess_toFrame, Response.isOkay_error] at done
      cases done

end Step

end PgpCard.Card
