import PgpCard.Proofs.Card.Resting

/-!
# Nothing is verified on a terminated card

TERMINATE takes everything that was verified, and a terminated card carries out no VERIFY.

* `Executes.verified_before` : what holds on a card that is terminated after a command held before,
  and the card was terminated then;
* `Memory.Sealed` is the invariant, and `sealed_process` its step;
* `sealed_of_reached` : so it is for every card.
-/

set_option autoImplicit false

namespace PgpCard

/-- If the card is terminated, nothing is verified. -/
def Memory.Sealed (memory : Memory) : Prop :=
  memory.terminated = true → ∀ condition, memory.security.holds condition = false

namespace Card

variable {env : Environment} {cmd : Command} {memory memory' : Memory} {kept' : Persistent}
  {condition : Condition}

/-! ## Commands -/

theorem SetsLimit.terminated_eq {id : SecretId} {limit : UInt8} {r : Except CardError Unit}
    (h : SetsLimit memory id limit r memory' kept') : memory'.terminated = memory.terminated := by
  cases h with
  | skipped | refused => rfl
  | done _ _ after | statusRefused _ _ _ after | statusReset _ _ after =>
    rw [after]

theorem SetsRetries.terminated_eq {pw1 rc pw3 : UInt8} {r : Except CardError Bytes}
    (h : SetsRetries memory pw1 rc pw3 r memory' kept') :
    memory'.terminated = memory.terminated := by
  cases h with
  | first limit => exact limit.terminated_eq
  | second first limit => exact limit.terminated_eq.trans first.terminated_eq
  | third first second limit =>
    exact limit.terminated_eq.trans (second.terminated_eq.trans first.terminated_eq)

theorem Writes.terminated_eq {value : Bytes} {object : DataObject} {r : Except CardError Unit}
    (h : Writes memory value object r memory' kept') : memory'.terminated = memory.terminated := by
  cases h with
  | status saved | stored _ saved => cases saved <;> rfl
  | _ => rfl

/-- What holds on a card that is terminated after a command held before, on a terminated card, or
the command was a verification. -/
theorem Executes.verified_before {r : Except CardError Bytes}
    (h : Executes env cmd memory r memory' kept') (terminated : memory'.terminated = true)
    (holds : memory'.security.holds condition = true) :
    memory.terminated = true ∧
      (cmd.instruction = .verify ∨ memory.security.holds condition = true) := by
  have before : cmd.instruction = .verify ∨ memory.security.holds condition = true :=
    (h.holds_before holds).imp_left fun granted => granted.1.1
  refine ⟨?_, before⟩
  cases h with
  | setsRetries _ _ _ sets => exact sets.terminated_eq.symm.trans terminated
  | puts _ _ _ _ _ writes => exact writes.terminated_eq.symm.trans terminated
  | terminates _ _ saved =>
    cases saved with
    | refused => exact terminated
    | done => cases Security.holds_revokeAll.symm.trans holds
  | activates _ terminated => exact terminated
  | _ => exact terminated

theorem Answers.sealed {response : Response} (h : Answers env cmd memory response memory' kept')
    (before : memory.Sealed) : memory'.Sealed := by
  intro terminated condition
  rw [← Bool.not_eq_true]
  intro holds
  have clash : memory.terminated = true → memory.security.holds condition = true → False := by
    intro terminated holds
    cases (before terminated condition).symm.trans holds
  cases h with
  | selects => exact clash terminated (Security.holds_of_revokePw1 holds)
  | invalidates => cases Security.holds_revokeAll.symm.trans holds
  | awaits | breaks | refuses | continues => exact clash terminated holds
  | @executes chain whole r final _ _ _ live executes =>
    have unchanged : (conclude r final).terminated = final.terminated ∧
        (conclude r final).security = final.security := by cases r <;> exact ⟨rfl, rfl⟩
    rw [unchanged.1] at terminated
    rw [unchanged.2] at holds
    obtain ⟨already, verified⟩ := executes.verified_before terminated holds
    have already : memory.terminated = true := already
    -- only ACTIVATE is carried out on a terminated card
    have activate : whole.instruction = .activate :=
      live.resolve_left fun active => by cases active.symm.trans already
    rcases verified with verify | held
    · cases activate.symm.trans verify
    · exact clash already held

/-! ## Cards -/

theorem sealed_ready {card ready : Card FlakyStore} (before : card.memory.Sealed)
    (found : ready? card = some ready) : ready.memory.Sealed := by
  intro terminated condition
  cases stale : card.memory.stale with
  | true => exact holds_of_reloaded stale found condition
  | false =>
    cases (ready?_of_fresh stale).symm.trans found
    exact before terminated condition

theorem sealed_process {card : Card FlakyStore} (sound : SoundOn False card)
    (before : card.memory.Sealed) (env : Environment) (frame : Bytes) :
    (process env frame card).2.memory.Sealed := by
  cases parses : Command.ofFrame? frame with
  | error e =>
    have same : (process env frame card).2 = card := by simp only [process, parses]
    rwa [same]
  | ok cmd =>
    cases found : ready? card with
    | none => rwa [memory_of_not_ready env frame found]
    | some ready =>
      obtain ⟨kept', -, answers⟩ := answer_answers env cmd (holds_ready sound found).1
      rw [process_of_ready parses found]
      exact answers.sealed (sealed_ready before found)

/-- Nothing is verified on a terminated card. -/
theorem sealed_of_reached {outside : Environment → Prop} {card : Card FlakyStore}
    (reached : Reached outside (.on card)) : card.memory.Sealed := by
  generalize same : Situation.on card = situation at reached
  induction reached generalizing card with
  | blank | fails | stops => cases same
  | opens before opened =>
    cases same
    exact fun _ condition => holds_of_openOn opened condition
  | processes before draws frame ih =>
    cases same
    have sound : SoundOn False _ := sound_of_reached False.elim before
    exact sealed_process sound (ih rfl) _ frame

end Card

end PgpCard
