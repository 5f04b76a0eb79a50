import PgpCard.Proofs.Card.Failure
import PgpCard.Proofs.Card.History

/-!
# An attempt that cannot be paid for

An attempt is paid for before the candidate is looked at.  If the store refuses the write that pays
for it, or no attempt is left to pay with, what becomes of the command is settled before the
candidate plays any part.

* `check_refused` : where the next write is refused, an attempt ends in the same way for all
  candidates; `verify_refused`, `change_refused` and `resetWithCode_refused` say so of the rules on
  top of it;
* `Attempts secrets id cmd` : the command tries a secret, and its data have the lengths for that;
* `process_congr` : two frames that bring the same attempt with different candidates get the same
  answer then, and leave the same card;
* `Executes.of_blocked`, `Answers.of_blocked` : without attempts, a command that tries a secret
  changes nothing that survives and grants nothing.
-/

set_option autoImplicit false

namespace PgpCard

namespace Secrets

variable (kept : Kept Secrets FlakyStore)

theorem replace_refused (refuses : kept.store.writeFails kept.store.writes = true) (id : SecretId)
    (record : SecretRecord) : ∃ e final, replace id record kept = .error e final := by
  have run : (replace id record).Leads kept fun r _ => ∀ a, r ≠ .ok a := by
    refine Attempt.leads_bind.mpr ?_
    change (persist id).Leads ⟨kept.memory.put id record, kept.store⟩ fun r _ => ∀ a, r ≠ .ok a
    refine Attempt.leads_bind.mpr (Kept.leads_held.mpr (Kept.leads_onStore.mpr ?_))
    refine FaultyStore.leads_writeBlob (fun done => ?_) fun _ a ended => ?_
    · cases done.symm.trans refuses
    · cases ended
  obtain ⟨e, final, ended, -⟩ := run.exists_error fun a _ failed => failed a rfl
  exact ⟨e, final, ended⟩

/-- Where the next write is refused, an attempt ends in the same way for all candidates. -/
theorem check_refused (refuses : kept.store.writeFails kept.store.writes = true) (id : SecretId) :
    ∃ e final, ∀ candidate, check id candidate kept = .error e final := by
  cases blocked : (kept.memory.record id).isBlocked with
  | true =>
    refine ⟨.authenticationBlocked, kept, fun candidate => ?_⟩
    simp only [check, bind, EStateM.bind, Kept.held, blocked, ↓reduceIte]
    rfl
  | false =>
    obtain ⟨e, final, refused⟩ := replace_refused kept refuses id (kept.memory.record id).spent
    refine ⟨.storage e, final, fun candidate => ?_⟩
    have unpaid : (replace id (kept.memory.record id).spent).mapError CardError.storage kept =
        .error (.storage e) final := by
      simp only [Attempt.mapError, refused]
    simp only [check, bind, EStateM.bind, Kept.held, blocked]
    exact Attempt.bind_of_error unpaid

theorem verify_refused (refuses : kept.store.writeFails kept.store.writes = true) (id : SecretId) :
    ∃ e final, ∀ candidate, id.admits candidate.length = true →
      verify id candidate kept = .error e final := by
  obtain ⟨e, final, refused⟩ := check_refused kept refuses id
  refine ⟨e, final, fun candidate admitted => ?_⟩
  unfold verify
  dsimp only
  rw [if_neg (by simp [admitted])]
  exact Attempt.bind_of_error (refused candidate)

theorem change_refused (refuses : kept.store.writeFails kept.store.writes = true) (id : SecretId) :
    ∃ e final, ∀ data : Bytes, (kept.memory.record id).length.toNat ≤ data.length →
      id.admits (data.length - (kept.memory.record id).length.toNat) = true →
      change id data kept = .error e final := by
  obtain ⟨e, final, refused⟩ := check_refused kept refuses id
  refine ⟨e, final, fun data long admitted => ?_⟩
  simp only [change, bind, EStateM.bind, Kept.held]
  rw [if_neg (by omega), if_neg (by simp [List.length_drop, admitted])]
  exact Attempt.bind_of_error (refused _)

theorem resetWithCode_refused (refuses : kept.store.writeFails kept.store.writes = true) :
    ∃ e final, ∀ data : Bytes, kept.memory.rc.length.toNat ≤ data.length →
      resetWithCode data kept = .error e final := by
  by_cases set : kept.memory.rc.isSet = true
  · obtain ⟨e, final, refused⟩ := check_refused kept refuses .rc
    by_cases blocked : kept.memory.rc.isBlocked = true
    · refine ⟨.authenticationBlocked, kept, fun data long => ?_⟩
      simp only [resetWithCode, bind, EStateM.bind, Kept.held, set, blocked]
      rfl
    · refine ⟨e, final, fun data long => ?_⟩
      simp only [resetWithCode, bind, EStateM.bind, Kept.held, set, blocked]
      rw [if_neg (by simp), if_neg (by simp), if_neg (by omega)]
      exact Attempt.bind_of_error (refused _)
  · refine ⟨.conditionsNotSatisfied, kept, fun data long => ?_⟩
    simp only [resetWithCode, bind, EStateM.bind, Kept.held, set]
    rfl

/-! ## Without attempts -/

section Blocked

variable {secrets held durable : Secrets} {id : SecretId}

/-- Without attempts an attempt fails and changes nothing. -/
theorem Tries.of_blocked {record record' record'' : SecretRecord} {candidate : Bytes}
    {r : Except CardError Bool} (h : Tries record candidate r record' record'')
    (none_left : record.isBlocked = true) :
    r = .error .authenticationBlocked ∧ record' = record ∧ record'' = record := by
  cases h with
  | blocked => exact ⟨rfl, rfl, rfl⟩
  | unpaid some_left | mismatch some_left | unrestored some_left | matched some_left =>
    cases none_left.symm.trans some_left

theorem Verifies.of_blocked {candidate : Bytes} {r : Except CardError Unit}
    (h : Verifies secrets id candidate r held durable)
    (none_left : (secrets.record id).isBlocked = true) :
    (∃ e, r = .error e) ∧ durable = secrets := by
  cases h with
  | inadmissible => exact ⟨⟨_, rfl⟩, rfl⟩
  | tried _ tries =>
    obtain ⟨rfl, -, rfl⟩ := tries.of_blocked none_left
    exact ⟨⟨_, rfl⟩, put_record _ _⟩

theorem Changes.of_blocked {old new : Bytes} {r : Except CardError Unit}
    (h : Changes secrets id old new r held durable)
    (none_left : (secrets.record id).isBlocked = true) : durable = secrets := by
  cases h with
  | malformed => rfl
  | failed tries =>
    obtain ⟨-, -, rfl⟩ := tries.of_blocked none_left
    exact put_record _ _
  | mismatch tries | matched _ tries => cases (tries.of_blocked none_left).1

theorem ResetsWithCode.of_blocked {code value : Bytes} {r : Except CardError Unit}
    (h : ResetsWithCode secrets code value r held durable)
    (none_left : secrets.rc.isBlocked = true) : (∃ e, r = .error e) ∧ durable = secrets := by
  cases h with
  | refused => exact ⟨⟨_, rfl⟩, rfl⟩
  | failed tries =>
    obtain ⟨-, -, rfl⟩ := tries.of_blocked none_left
    exact ⟨⟨_, rfl⟩, put_record _ .rc⟩
  | mismatch _ tries | matched _ tries => cases (tries.of_blocked none_left).1

end Blocked

end Secrets

namespace Card

/-! ## The next write is refused -/

/-- The command tries a secret, and its data have the lengths that an attempt needs. -/
def Attempts (secrets : Secrets) (id : SecretId) (cmd : Command) : Prop :=
  triedSecret? cmd = some id ∧
    match cmd.instruction with
    | .verify => id.admits cmd.data.length = true
    | .changeReferenceData => (secrets.record id).length.toNat ≤ cmd.data.length ∧
      id.admits (cmd.data.length - (secrets.record id).length.toNat) = true
    | _ => (secrets.record id).length.toNat ≤ cmd.data.length

/-- Two commands have the same header, apart from the class byte. -/
structure SameHeader (cmd cmd' : Command) : Prop where
  ins : cmd'.ins = cmd.ins
  p1 : cmd'.p1 = cmd.p1
  p2 : cmd'.p2 = cmd.p2

theorem SameHeader.instruction {cmd cmd' : Command} (h : SameHeader cmd cmd') :
    cmd'.instruction = cmd.instruction :=
  congrArg Instruction.ofByte h.ins

section Refused

variable {card : Card FlakyStore} {cmd cmd' : Command} {id : SecretId}

theorem bind_onSecrets_congr {ε α β : Type} {act act' : Attempt ε (Kept Secrets FlakyStore) α}
    {next : Except ε α → Attempt ε (Card FlakyStore) β}
    (same : act' ⟨card.memory.secrets, card.store⟩ = act ⟨card.memory.secrets, card.store⟩) :
    ((onSecrets act').outcome >>= next) card = ((onSecrets act).outcome >>= next) card := by
  simp only [bind, EStateM.bind, Attempt.outcome, onSecrets, Kept.onPart, same]

theorem verify_congr (refuses : card.store.writeFails card.store.writes = true)
    (same : SameHeader cmd cmd') (instruction : cmd.instruction = .verify)
    (attempts : Attempts card.memory.secrets id cmd)
    (attempts' : Attempts card.memory.secrets id cmd') : verify cmd' card = verify cmd card := by
  obtain ⟨tried, admitted⟩ := attempts
  obtain ⟨-, admitted'⟩ := attempts'
  simp only [instruction] at admitted
  simp only [same.instruction, instruction] at admitted'
  simp only [triedSecret?, instruction, Option.map_eq_some_iff] at tried
  obtain ⟨⟨id, condition⟩, target, rfl⟩ := tried
  obtain ⟨e, final, refused⟩ :=
    Secrets.verify_refused ⟨card.memory.secrets, card.store⟩ refuses id
  unfold verify
  rw [same.p2, target]
  exact bind_onSecrets_congr ((refused _ admitted').trans (refused _ admitted).symm)

theorem changeReferenceData_congr (refuses : card.store.writeFails card.store.writes = true)
    (same : SameHeader cmd cmd') (instruction : cmd.instruction = .changeReferenceData)
    (attempts : Attempts card.memory.secrets id cmd)
    (attempts' : Attempts card.memory.secrets id cmd') :
    changeReferenceData cmd' card = changeReferenceData cmd card := by
  obtain ⟨tried, admitted⟩ := attempts
  obtain ⟨-, admitted'⟩ := attempts'
  simp only [instruction] at admitted
  simp only [same.instruction, instruction] at admitted'
  have target : changeTarget? cmd.p2 = some id := by simpa [triedSecret?, instruction] using tried
  obtain ⟨e, final, refused⟩ :=
    Secrets.change_refused ⟨card.memory.secrets, card.store⟩ refuses id
  unfold changeReferenceData
  rw [same.p2, target]
  refine bind_onSecrets_congr ?_
  exact (refused _ admitted'.1 admitted'.2).trans (refused _ admitted.1 admitted.2).symm

theorem resetRetryCounter_congr (refuses : card.store.writeFails card.store.writes = true)
    (same : SameHeader cmd cmd') (instruction : cmd.instruction = .resetRetryCounter)
    (attempts : Attempts card.memory.secrets id cmd)
    (attempts' : Attempts card.memory.secrets id cmd') :
    resetRetryCounter cmd' card = resetRetryCounter cmd card := by
  obtain ⟨tried, admitted⟩ := attempts
  obtain ⟨-, admitted'⟩ := attempts'
  simp only [instruction] at admitted
  simp only [same.instruction, instruction] at admitted'
  have target : (cmd.p1 = 0x00 ∧ cmd.p2 = 0x81) ∧ .rc = id := by
    simpa [triedSecret?, instruction] using tried
  obtain ⟨⟨p1, p2⟩, rfl⟩ := target
  obtain ⟨e, final, refused⟩ :=
    Secrets.resetWithCode_refused ⟨card.memory.secrets, card.store⟩ refuses
  have ends : ∀ other : Command, other.p1 = 0x00 → other.p2 = 0x81 →
      (card.memory.secrets.record .rc).length.toNat ≤ other.data.length →
      resetRetryCounter other card =
        .error e ⟨{ card.memory with secrets := final.memory }, final.store⟩ := by
    intro other p1 p2 long
    unfold resetRetryCounter
    dsimp only
    rw [if_neg (by simp [p2]), if_pos p1]
    refine Attempt.bind_of_error ?_
    simp only [onSecrets, Kept.onPart, refused other.data long]
  rw [ends cmd p1 p2 admitted, ends cmd' (same.p1.trans p1) (same.p2.trans p2) admitted']

/-- Where the next write is refused, commands that bring the same attempt with different candidates
end in the same way. -/
theorem dispatch_congr (card : Card FlakyStore)
    (refuses : card.store.writeFails card.store.writes = true)
    (same : SameHeader cmd cmd') (attempts : Attempts card.memory.secrets id cmd)
    (attempts' : Attempts card.memory.secrets id cmd') (env : Environment) :
    dispatch env cmd' card = dispatch env cmd card := by
  have tried := attempts.1
  cases instruction : cmd.instruction with
  | verify =>
    simp only [dispatch, same.instruction, instruction]
    exact verify_congr refuses same instruction attempts attempts'
  | changeReferenceData =>
    simp only [dispatch, same.instruction, instruction]
    exact changeReferenceData_congr refuses same instruction attempts attempts'
  | resetRetryCounter =>
    simp only [dispatch, same.instruction, instruction]
    exact resetRetryCounter_congr refuses same instruction attempts attempts'
  | _ => simp [triedSecret?, instruction] at tried

theorem execute_congr (card : Card FlakyStore)
    (refuses : card.store.writeFails card.store.writes = true)
    (same : SameHeader cmd cmd') (attempts : Attempts card.memory.secrets id cmd)
    (attempts' : Attempts card.memory.secrets id cmd') (env : Environment) :
    execute env cmd' card = execute env cmd card := by
  have ends := dispatch_congr (card.withOutgoing .empty) refuses same attempts attempts' env
  simp only [execute, same.instruction, ends]

/-- Where the next write is refused, two frames that bring the same attempt with different
candidates get the same answer and leave the same card. -/
theorem process_congr {ready : Card FlakyStore} (found : ready? card = some ready)
    (refuses : ready.store.writeFails ready.store.writes = true) {frame frame' : Bytes}
    (completes : Completes ready.memory frame cmd) (completes' : Completes ready.memory frame' cmd')
    (same : SameHeader cmd cmd') (attempts : Attempts ready.memory.secrets id cmd)
    (attempts' : Attempts ready.memory.secrets id cmd') (env : Environment) :
    process env frame' card = process env frame card := by
  rw [process_of_completes found completes, process_of_completes found completes']
  exact congrArg _ (execute_congr ⟨{ ready.memory with chain := ready.memory.chain.reset },
    ready.store⟩ refuses same attempts attempts' env)

end Refused

/-! ## No attempt left -/

section Blocked

variable {id : SecretId} {cmd : Command} {memory memory' : Memory} {kept' : Persistent}

/-- Whatever a command has come to, what survives is as it was and nothing was granted. -/
structure Fruitless (memory memory' : Memory) (kept' : Persistent) : Prop where
  kept : kept' = memory.persistent
  granted : ∀ condition, memory'.security.holds condition = true →
    memory.security.holds condition = true

/-- A command that tries a secret without attempts comes to nothing. -/
theorem Executes.of_blocked {env : Environment} {r : Except CardError Bytes}
    (h : Executes env cmd memory r memory' kept') (tried : triedSecret? cmd = some id)
    (none_left : (memory.secrets.record id).isBlocked = true) :
    Fruitless memory memory' kept' := by
  cases h with
  | leaves => exact ⟨rfl, fun _ granted => granted⟩
  | verifies instruction target verifies =>
    simp only [triedSecret?, instruction, target, Option.map_some, Option.some.injEq] at tried
    subst tried
    obtain ⟨⟨e, rfl⟩, rfl⟩ := verifies.of_blocked none_left
    exact ⟨rfl, fun _ => Security.holds_of_revokeSecret⟩
  | changes instruction target changes =>
    simp only [triedSecret?, instruction, target, Option.some.injEq] at tried
    subst tried
    rw [changes.of_blocked none_left]
    exact ⟨rfl, fun _ => Security.holds_of_revokeSecret⟩
  | resetsWithCode instruction p1 p2 resets =>
    simp only [triedSecret?, instruction, p1, p2, and_self, ↓reduceIte, Option.some.injEq] at tried
    subst tried
    obtain ⟨⟨e, rfl⟩, rfl⟩ := resets.of_blocked none_left
    exact ⟨rfl, fun _ granted => granted⟩
  | resetsPw1 instruction p1 => simp [triedSecret?, instruction, p1] at tried
  | uses instruction =>
    rcases instruction with ⟨instruction, -⟩ | instruction
    · simp [triedSecret?, instruction] at tried
    · simp [triedSecret?, instruction] at tried
  | setsRetries instruction | signs instruction | generates instruction | imports instruction
  | puts instruction | terminates instruction | activates instruction =>
    simp [triedSecret?, instruction] at tried

/-- A frame that carries out nothing but an attempt at a secret without attempts comes to
nothing. -/
theorem Answers.of_blocked {env : Environment} {frame : Bytes} {response : Response}
    (h : Answers env cmd memory response memory' kept')
    (parses : Command.ofFrame? frame = .ok cmd)
    (tries : ∀ whole, Completes memory frame whole → triedSecret? whole = some id)
    (none_left : (memory.secrets.record id).isBlocked = true) :
    Fruitless memory memory' kept' := by
  cases h with
  | selects =>
    exact ⟨rfl, fun _ => Security.holds_of_revokePw1⟩
  | invalidates =>
    refine ⟨rfl, fun condition granted => ?_⟩
    cases Security.holds_revokeAll.symm.trans granted
  | awaits | breaks | refuses | continues => exact ⟨rfl, fun _ granted => granted⟩
  | @executes chain whole r _ _ passes accepts _ executes =>
    have tried : triedSecret? whole = some id := tries whole ⟨cmd, chain, parses, passes, accepts⟩
    obtain ⟨kept, granted⟩ := executes.of_blocked tried none_left
    cases r with
    | ok | error => exact ⟨kept, granted⟩

end Blocked

end Card

end PgpCard
