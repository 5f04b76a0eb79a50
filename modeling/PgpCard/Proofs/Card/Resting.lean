import PgpCard.Proofs.Card.Carried
import PgpCard.Proofs.Card.Failure
import PgpCard.Proofs.Card.Stretch

/-!
# What rests on a verification

A condition that is satisfied rests on a value that was given for a secret.

* `Rests` : what a condition that holds after a command rests on: the command verified it, or it
  held before and the secret has kept its value, or PW3 has been reset by SET RETRIES.
  `Executes.rests`, `Answers.rests` and `Step.rests` say so of a command, of a command that arrives
  and of a step;
* `Step.accepts` : what a verification was given is the value of the record that it leaves;
* `GivesValue` : the commands that give a secret a new value; `Step.holds_of_givesValue` says what
  they leave of what was verified of it.
-/

set_option autoImplicit false

namespace PgpCard

/-- The secret whose verification grants a condition. -/
def Condition.secret : Condition → SecretId
  | .pw1Signing | .pw1Other => .pw1
  | .pw3 => .pw3

/-! ## Values of secrets -/

namespace SecretRecord

theorem SameValue.accepts {record record' : SecretRecord} (same : record.SameValue record')
    (candidate : Bytes) : record'.accepts candidate = record.accepts candidate := by
  obtain ⟨-, length, digest⟩ := same
  rw [SecretRecord.accepts, length, digest]
  rfl

theorem accepts_ofValue {value : Bytes} (short : value.length < 256) (limit : UInt8) :
    (ofValue value limit).accepts value = true := by
  have length : (UInt8.ofNat value.length).toNat = value.length := by
    rw [UInt8.toNat_ofNat', Nat.mod_eq_of_lt short]
  simp [SecretRecord.accepts, ofValue, length]

end SecretRecord

namespace Secrets

theorem accepts_factoryRecord (limit : UInt8) :
    (factoryRecord limit .pw3).accepts defaultPw3 = true :=
  SecretRecord.accepts_ofValue (by decide) limit

variable {secrets held durable : Secrets} {id : SecretId}

/-- What was verified is the value of the record that is there afterwards. -/
theorem Verifies.accepts {candidate : Bytes} {r : Except CardError Unit}
    (h : Verifies secrets id candidate r held durable) (done : r = .ok ()) :
    (held.record id).accepts candidate = true := by
  cases h with
  | inadmissible => cases done
  | tried _ tries =>
    rw [record_put, if_pos rfl]
    cases tries with
    | blocked | unpaid | mismatch | unrestored => cases done
    | matched _ right => exact right

/-- Only the secret itself is changed. -/
theorem Changes.other {old new : Bytes} {r : Except CardError Unit}
    (h : Changes secrets id old new r held durable) {other : SecretId} (apart : other ≠ id) :
    (secrets.record other).SameValue (held.record other) := by
  have alters : Alters (Eq id) secrets held := (h.alters fun _ _ => rfl).1
  rcases alters other with same | ⟨-, changed⟩
  · exact same
  · exact absurd changed.symm apart

theorem ResetsPw1.other {value : Bytes} {r : Except CardError Unit}
    (h : ResetsPw1 secrets value r held durable) {other : SecretId} (apart : other ≠ .pw1) :
    (secrets.record other).SameValue (held.record other) := by
  have alters : Alters (Eq .pw1) secrets held := (h.alters (.refl _) rfl rfl).1
  rcases alters other with same | ⟨-, changed⟩
  · exact same
  · exact absurd changed.symm apart

theorem ResetsWithCode.other {code value : Bytes} {r : Except CardError Unit}
    (h : ResetsWithCode secrets code value r held durable) {other : SecretId}
    (apart : other ≠ .pw1) : (secrets.record other).SameValue (held.record other) := by
  have alters : Alters (Eq .pw1) secrets held := (h.alters fun _ _ _ => rfl).1
  rcases alters other with same | ⟨-, changed⟩
  · exact same
  · exact absurd changed.symm apart

end Secrets

namespace Security

variable {security : Security} {condition : Condition}

theorem secret_ne_of_revokePw1 (h : security.revokePw1.holds condition = true) :
    condition.secret ≠ .pw1 := by
  intro same
  cases condition with
  | pw1Signing | pw1Other => cases h
  | pw3 => cases same

theorem secret_ne_of_revokeSecret {id : SecretId}
    (h : (security.revokeSecret id).holds condition = true) : condition.secret ≠ id := by
  rintro rfl
  cases condition with
  | pw1Signing | pw1Other | pw3 => cases h

theorem holds_of_afterSigning (h : security.afterSigning.holds condition = true) :
    security.holds condition = true := by
  rw [holds_afterSigning, Bool.and_eq_true] at h
  exact h.1

theorem holds_of_afterOther (h : security.afterOther.holds condition = true) :
    security.holds condition = true := by
  rw [holds_afterOther, Bool.and_eq_true] at h
  exact h.1

end Security

namespace Card

open Attempt

/-! ## Commands -/

theorem secret_of_target {p2 : UInt8} {id : SecretId} {condition : Condition}
    (target : verifyTarget? p2 = some (id, condition)) :
    p2 = verifyMode condition ∧ id = condition.secret := by
  obtain ⟨p2, rfl⟩ := verifyMode_of_target target
  refine ⟨p2, ?_⟩
  cases condition <;> rfl

/-- What a condition that holds after a command rests on. -/
inductive Rests (cmd : Command) (succeeds : Bool) (memory memory' : Memory)
    (condition : Condition) : Prop
  /-- The command was the verification of the secret. -/
  | verified (grants : Grants cmd condition) (done : succeeds = true)
  /-- It held before, and the secret has the same value. -/
  | kept (before : memory.security.holds condition = true)
    (same : (memory.secrets.record condition.secret).SameValue
      (memory'.secrets.record condition.secret))
  /-- It held before, and the secret has got its first value. -/
  | reset {pw1 rc pw3 : UInt8} (before : memory.security.holds condition = true)
    (admin : condition = .pw3) (instruction : cmd.instruction = .setRetries)
    (data : cmd.data = [pw1, rc, pw3]) (nonzero : pw3 ≠ 0) (done : succeeds = true)
    (first : memory'.secrets.record .pw3 = Secrets.factoryRecord pw3 .pw3)

variable {env : Environment} {cmd : Command} {memory memory' : Memory} {kept' : Persistent}
  {condition : Condition}

theorem SetsLimit.holds_before {id : SecretId} {limit : UInt8} {r : Except CardError Unit}
    (h : SetsLimit memory id limit r memory' kept')
    (holds : memory'.security.holds condition = true) :
    memory.security.holds condition = true := by
  cases h with
  | skipped | refused => exact holds
  | done _ _ after | statusRefused _ _ _ after =>
    subst after
    exact holds
  | statusReset _ _ after =>
    subst after
    exact (Security.holds_setLasting false).symm.trans (Security.holds_of_revokePw1 holds)

theorem SetsRetries.holds_before {pw1 rc pw3 : UInt8} {r : Except CardError Bytes}
    (h : SetsRetries memory pw1 rc pw3 r memory' kept')
    (holds : memory'.security.holds condition = true) :
    memory.security.holds condition = true := by
  cases h with
  | first limit => exact limit.holds_before holds
  | second first limit => exact first.holds_before (limit.holds_before holds)
  | third first second limit =>
    exact first.holds_before (second.holds_before (limit.holds_before holds))

/-- A new limit takes what was verified of PW1, but not what was verified of PW3. -/
theorem SetsLimit.record {id : SecretId} {limit : UInt8}
    (h : SetsLimit memory id limit (.ok ()) memory' kept')
    (holds : memory'.security.holds condition = true) :
    memory'.secrets.record condition.secret = memory.secrets.record condition.secret ∨
      (id = .pw3 ∧ condition = .pw3) ∧ limit ≠ 0 ∧
        memory'.secrets.record .pw3 = Secrets.factoryRecord limit .pw3 := by
  cases h with
  | skipped => exact .inl rfl
  | done nonzero other after =>
    subst after
    by_cases same : condition.secret = id
    · subst same
      cases condition with
      | pw1Signing | pw1Other => exact absurd rfl other
      | pw3 => exact .inr ⟨⟨rfl, rfl⟩, nonzero, rfl⟩
    · exact .inl (by rw [Secrets.record_put, if_neg same])
  | statusReset nonzero pw1 after =>
    subst after pw1
    have apart := Security.secret_ne_of_revokePw1 holds
    exact .inl (by rw [Secrets.record_put, if_neg apart])

theorem SetsRetries.record {pw1 rc pw3 : UInt8} {data : Bytes}
    (h : SetsRetries memory pw1 rc pw3 (.ok data) memory' kept')
    (holds : memory'.security.holds condition = true) :
    memory'.secrets.record condition.secret = memory.secrets.record condition.secret ∨
      condition = .pw3 ∧ pw3 ≠ 0 ∧
        memory'.secrets.record .pw3 = Secrets.factoryRecord pw3 .pw3 := by
  generalize result : (.ok data : Except CardError Bytes) = r at h
  cases h with
  | first | second => cases result
  | @third r _ _ _ _ first second third =>
    cases r with
    | error => cases result
    | ok =>
      have holds₂ := third.holds_before holds
      rcases third.record holds with same₃ | ⟨⟨-, admin⟩, nonzero, new⟩
      · rcases second.record holds₂ with same₂ | ⟨⟨other, -⟩, -⟩
        · rcases first.record (second.holds_before holds₂) with same₁ | ⟨⟨other, -⟩, -⟩
          · exact .inl (same₃.trans (same₂.trans same₁))
          · cases other
        · cases other
      · exact .inr ⟨admin, nonzero, new⟩

theorem Writes.holds_before {value : Bytes} {object : DataObject} {r : Except CardError Unit}
    (h : Writes memory value object r memory' kept')
    (holds : memory'.security.holds condition = true) :
    memory.security.holds condition = true := by
  cases h with
  | status saved =>
    cases saved with
    | done => exact (Security.holds_setLasting _).symm.trans holds
    | refused => exact holds
  | stored _ saved => cases saved <;> exact holds
  | _ => exact holds

/-- No data object is the value of PW1 or of PW3. -/
theorem Writes.record {value : Bytes} {object : DataObject} {r : Except CardError Unit}
    (h : Writes memory value object r memory' kept') {id : SecretId} (other : id ≠ .rc) :
    memory'.secrets.record id = memory.secrets.record id := by
  cases h with
  | status saved | stored _ saved => cases saved <;> rfl
  | resettingCode replaces =>
    cases replaces with
    | done | refused => exact (Secrets.record_put _ _ _ _).trans (if_neg other)
  | _ => rfl

/-- What holds after a command was verified by it, or held before. -/
theorem Executes.holds_before {r : Except CardError Bytes}
    (h : Executes env cmd memory r memory' kept')
    (holds : memory'.security.holds condition = true) :
    Grants cmd condition ∧ r.isOk = true ∨ memory.security.holds condition = true := by
  cases h with
  | leaves | generates | imports => exact .inr holds
  | @verifies id granted r _ _ instruction target =>
    cases r with
    | error => exact .inr (Security.holds_of_revokeSecret holds)
    | ok =>
      rw [afterVerify, Security.holds_grant, Bool.or_eq_true, decide_eq_true_eq] at holds
      rcases holds with rfl | before
      · exact .inl ⟨⟨instruction, (secret_of_target target).1⟩, rfl⟩
      · exact .inr before
  | changes => exact .inr (Security.holds_of_revokeSecret holds)
  | @resetsWithCode r | @resetsPw1 r =>
    cases r with
    | error => exact .inr holds
    | ok => exact .inr (Security.holds_of_revokePw1 holds)
  | setsRetries _ _ _ sets => exact .inr (sets.holds_before holds)
  | @signs r =>
    cases r with
    | error => exact .inr holds
    | ok => exact .inr (Security.holds_of_afterSigning holds)
  | @uses r =>
    cases r with
    | error => exact .inr holds
    | ok => exact .inr (Security.holds_of_afterOther holds)
  | puts _ _ _ _ _ writes => exact .inr (writes.holds_before holds)
  | @terminates r _ _ _ saved =>
    cases saved with
    | refused => exact .inr holds
    | done => cases Security.holds_revokeAll.symm.trans holds
  | activates _ _ makes =>
    cases makes with
    | refused => exact .inr holds
    | done => cases Security.holds_initial.symm.trans holds

/-- A command that fails gives no secret a new value. -/
theorem Executes.sameValue_of_error {e : CardError}
    (h : Executes env cmd memory (.error e) memory' kept') (kind : e.isStorage = false)
    (id : SecretId) : (memory.secrets.record id).SameValue (memory'.secrets.record id) := by
  have settled : kept' = memory'.persistent := by
    rcases h.settled with same | ⟨e', failed⟩
    · exact same
    · cases failed
      cases kind
  subst settled
  have failed : WritesInParts cmd ∧ e.isStorage = true ∨
      Spares (fun _ => True) memory.persistent memory'.persistent := h.spares trivial
  have spares := failed.resolve_left fun storage => by cases kind.symm.trans storage.2
  rcases spares.secret id with same | ⟨same, -⟩
  · exact same ▸ .refl _
  · exact same

/-- Unless the store has failed, what holds after a command was verified by it, or it held before
and the secret has kept its value, or PW3 has been reset by SET RETRIES. -/
theorem Executes.rests {r : Except CardError Bytes}
    (h : Executes env cmd memory r memory' kept') (kind : ∀ e, r = .error e → e.isStorage = false)
    (holds : memory'.security.holds condition = true) :
    Rests cmd r.isOk memory memory' condition := by
  rcases h.holds_before holds with ⟨grants, done⟩ | before
  · exact .verified grants done
  cases r with
  | error e => exact .kept before (h.sameValue_of_error (kind e rfl) _)
  | ok data =>
    have secrets : condition.secret ≠ .rc := by cases condition <;> decide
    generalize result : (.ok data : Except CardError Bytes) = r at h
    cases h with
    | leaves | signs | uses | generates | imports => exact .kept before (.refl _)
    | verifies _ _ verifies =>
      have alters : Secrets.Alters (fun _ => False) memory.secrets _ := verifies.alters.1
      exact .kept before ((alters _).resolve_right fun changed => changed.2)
    | changes _ _ changes =>
      exact .kept before (changes.other (Security.secret_ne_of_revokeSecret holds))
    | @resetsWithCode r _ _ _ _ _ resets =>
      cases r with
      | error => cases result
      | ok => exact .kept before (resets.other (Security.secret_ne_of_revokePw1 holds))
    | @resetsPw1 r _ _ _ _ _ _ resets =>
      cases r with
      | error => cases result
      | ok => exact .kept before (resets.other (Security.secret_ne_of_revokePw1 holds))
    | setsRetries instruction data _ sets =>
      subst result
      rcases sets.record holds with same | ⟨admin, nonzero, first⟩
      · exact .kept before (same ▸ .refl _)
      · exact .reset before admin instruction data nonzero rfl first
    | puts _ _ _ _ _ writes => exact .kept before (writes.record secrets ▸ .refl _)
    | terminates _ _ saved => cases saved <;> exact .kept before (.refl _)
    | activates _ _ makes =>
      cases makes with
      | refused => cases result
      | done => cases Security.holds_initial.symm.trans holds

theorem Rests.congr {succeeds : Bool} {before before' after after' : Memory}
    (h : Rests cmd succeeds before after condition)
    (security : before'.security = before.security) (secrets : before'.secrets = before.secrets)
    (secrets' : after'.secrets = after.secrets) : Rests cmd succeeds before' after' condition := by
  cases h with
  | verified grants done => exact .verified grants done
  | kept held same => exact .kept (security ▸ held) (by rwa [secrets, secrets'])
  | reset held admin instruction data nonzero done first =>
    exact .reset (security ▸ held) admin instruction data nonzero done (by rwa [secrets'])

/-- The same for a command that arrives: what holds afterwards rests on the command that it makes
whole, or nothing has changed about the secrets. -/
theorem Answers.rests {frame : Bytes} {response : Response}
    (h : Answers env cmd memory response memory' kept')
    (parses : Command.ofFrame? frame = .ok cmd) (fresh : memory'.stale = false)
    (holds : memory'.security.holds condition = true) :
    (∃ whole, Completes memory frame whole ∧ Rests whole response.isOkay memory memory' condition) ∨
      memory.security.holds condition = true ∧ memory'.secrets = memory.secrets := by
  cases h with
  | selects => exact .inr ⟨Security.holds_of_revokePw1 holds, rfl⟩
  | invalidates => cases Security.holds_revokeAll.symm.trans holds
  | awaits | breaks | refuses | continues => exact .inr ⟨holds, rfl⟩
  | @executes chain whole r final _ passes accepts _ executes =>
    have kind : ∀ e, r = .error e → e.isStorage = false := by
      rintro e rfl
      exact (Bool.or_eq_false_iff.mp fresh).2
    have security : (conclude r final).security = final.security := by cases r <;> rfl
    have secrets : (conclude r final).secrets = final.secrets := by cases r <;> rfl
    rw [security] at holds
    rw [isOkay_reply]
    exact .inl ⟨whole, ⟨cmd, chain, parses, passes, accepts⟩,
      (executes.rests kind holds).congr rfl rfl secrets⟩

/-- A verification that succeeds was given the value of the secret. -/
theorem verify_accepts (memory : Memory) (grants : Grants cmd condition) :
    Durably (dispatch env cmd) memory memory.persistent fun r memory' _ =>
      r.isOk = true → (memory'.secrets.record condition.secret).accepts cmd.data = true := by
  have target : verifyTarget? cmd.p2 = some (condition.secret, condition) := by
    rw [grants.2]
    cases condition <;> rfl
  unfold dispatch
  rw [grants.1]
  dsimp only
  unfold verify
  rw [target]
  refine Durably.bind (Durably.outcome
    ((onSecrets_durably (Secrets.verify_does _ _ cmd.data)).mono ?_))
  rintro (e | ⟨⟩) memory' kept' ⟨held, durable, rfl, rfl, verifies⟩
  · exact Durably.adjust_bind (Durably.throw nofun)
  · exact Durably.adjust_bind (Durably.pure fun _ => verifies.accepts rfl)

/-! ## Steps -/

namespace Step

variable {step : Step FlakyStore}

/-- A SET RETRIES that gives PW3 a new limit. -/
def ResetsAdmin (step : Step FlakyStore) : Prop :=
  ∃ ready whole pw1 rc pw3, step.Carries ready whole ∧ whole.instruction = .setRetries ∧
    whole.data = [pw1, rc, pw3] ∧ pw3 ≠ 0 ∧ step.succeeds = true

/-- The record that a step leaves accepts what its verification was given. -/
theorem accepts {ready : Card FlakyStore} {whole : Command} (sound : SoundOn False step.card)
    (carries : step.Carries ready whole) (grants : Grants whole condition)
    (done : step.succeeds = true) :
    (step.after.memory.secrets.record condition.secret).accepts whole.data = true := by
  have other : whole.instruction ≠ .getResponse := by simp [grants.1]
  obtain ⟨r, final, ⟨_, _, accepts⟩, succeeded, after⟩ := ended carries other
    (active_of_succeeds carries done)
    (verify_accepts _ grants ready.store (holds_ready sound carries.1).1)
  have secrets : (conclude r final.memory).secrets = final.memory.secrets := by cases r <;> rfl
  rw [after, secrets]
  exact accepts (succeeded ▸ done)

/-- What holds after a step was verified by it, or it held before and the secret has kept its
value, or PW3 has got its first value from SET RETRIES. -/
theorem rests (sound : SoundOn False step.card) (fresh : step.after.memory.stale = false)
    (holds : step.after.memory.security.holds condition = true) :
    step.Verifies condition ∨
      step.card.memory.stale = false ∧ step.card.memory.security.holds condition = true ∧
        ((step.card.memory.secrets.record condition.secret).SameValue
            (step.after.memory.secrets.record condition.secret) ∨
          condition = .pw3 ∧ step.ResetsAdmin ∧
            ∃ limit, step.after.memory.secrets.record .pw3 = Secrets.factoryRecord limit .pw3) := by
  cases parses : Command.ofFrame? step.frame with
  | error e =>
    have same := (Step.malformed parses).1
    rw [same] at fresh holds ⊢
    exact .inr ⟨fresh, holds, .inl (.refl _)⟩
  | ok cmd =>
    cases found : ready? step.card with
    | none => cases (stale_of_not_ready step.env step.frame found).symm.trans fresh
    | some ready =>
      obtain ⟨kept', -, answers⟩ := answer_answers step.env cmd (holds_ready sound found).1
      have processed := process_of_ready parses found step.env
      have succeeded : step.succeeds = (answer step.env cmd ready).1.isOkay := by
        rw [succeeds, processed, Response.reportsSuccess_toFrame]
      have after : step.after = (answer step.env cmd ready).2 := by rw [Step.after, processed]
      rw [after] at fresh holds ⊢
      -- what held on the card that was found ready held on the card itself, and that is the same
      have earlier : ready.memory.security.holds condition = true →
          step.card.memory.stale = false ∧ ready = step.card := by
        intro held
        cases stale : step.card.memory.stale with
        | true => cases (holds_of_reloaded stale found condition).symm.trans held
        | false => exact ⟨rfl, Option.some.inj (found.symm.trans (ready?_of_fresh stale))⟩
      rcases answers.rests parses fresh holds with ⟨whole, completes, rests⟩ | ⟨held, same⟩
      · have carries : step.Carries ready whole := ⟨found, completes⟩
        rw [← succeeded] at rests
        cases rests with
        | verified grants done => exact .inl ⟨ready, whole, carries, grants, done⟩
        | kept held same =>
          obtain ⟨unchanged, rfl⟩ := earlier held
          exact .inr ⟨unchanged, held, .inl same⟩
        | reset held admin instruction data nonzero done first =>
          obtain ⟨unchanged, rfl⟩ := earlier held
          exact .inr ⟨unchanged, held, .inr ⟨admin,
            ⟨_, whole, _, _, _, carries, instruction, data, nonzero, done⟩, _, first⟩⟩
      · obtain ⟨unchanged, rfl⟩ := earlier held
        exact .inr ⟨unchanged, held, .inl (same ▸ .refl _)⟩

end Step

/-! ## New values -/

/-- Where it succeeds, the command gives a secret a new value. -/
inductive GivesValue (cmd : Command) : SecretId → Prop
  | change {id : SecretId} (instruction : cmd.instruction = .changeReferenceData)
    (target : changeTarget? cmd.p2 = some id) : GivesValue cmd id
  | reset (instruction : cmd.instruction = .resetRetryCounter) : GivesValue cmd .pw1
  | limitPw1 {pw1 rc pw3 : UInt8} (instruction : cmd.instruction = .setRetries)
    (data : cmd.data = [pw1, rc, pw3]) (nonzero : pw1 ≠ 0) : GivesValue cmd .pw1
  | limitPw3 {pw1 rc pw3 : UInt8} (instruction : cmd.instruction = .setRetries)
    (data : cmd.data = [pw1, rc, pw3]) (nonzero : pw3 ≠ 0) : GivesValue cmd .pw3
  | activate {id : SecretId} (instruction : cmd.instruction = .activate) : GivesValue cmd id

section GivesValue

variable {σ : Type} [Backend σ]

theorem GivesValue.other {id : SecretId} (gives : GivesValue cmd id) :
    cmd.instruction ≠ .getResponse := by
  cases gives <;> simp [*]

theorem changeReferenceData_revokes (card : Card σ)
    (target : changeTarget? cmd.p2 = some condition.secret) :
    (changeReferenceData cmd).Leads card fun r final =>
      r.isOk = true → final.memory.security.holds condition = false := by
  have revoked : ∀ secrets : Secrets, ({ card.memory with
      secrets, security := card.memory.security.revokeSecret condition.secret } :
        Memory).security.holds condition = false := by
    intro secrets
    cases holds : (card.memory.security.revokeSecret condition.secret).holds condition with
    | false => rfl
    | true => exact absurd rfl (Security.secret_ne_of_revokeSecret holds)
  unfold changeReferenceData
  rw [target]
  dsimp only
  rw [leads_bind, leads_outcome, onSecrets, Kept.leads_onPart]
  refine leads_any ?_
  rintro (e | ⟨⟩) inner
  · exact fun done => by cases done
  · exact fun _ => revoked _

theorem resetRetryCounter_revokes (card : Card σ) (pw1 : condition.secret = .pw1) :
    (resetRetryCounter cmd).Leads card fun r final =>
      r.isOk = true → final.memory.security.holds condition = false := by
  have other : condition ≠ .pw3 := by
    rintro rfl
    cases pw1
  have done : ∀ secrets : Secrets, ({ card.memory with
      secrets, security := card.memory.security.revokePw1 } :
        Memory).security.holds condition = false := fun _ => Security.holds_revokePw1 other
  unfold resetRetryCounter
  dsimp only
  split
  · exact fun done => by cases done
  · split
    · exact Kept.leads_onPart_bind (fun _ _ _ => nofun) fun _ _ _ _ => done _
    · split
      · refine leads_require_bind (fun _ => nofun) fun _ => ?_
        exact Kept.leads_onPart_bind (fun _ _ _ => nofun) fun _ _ _ _ => done _
      · exact fun done => by cases done

/-- New limits take what was verified of PW1 if it gets one, and leave what was verified of PW3. -/
theorem setRetries_leaves (card : Card σ) {pw1 rc pw3 : UInt8} (data : cmd.data = [pw1, rc, pw3])
    (gives : condition = .pw3 ∨ pw1 ≠ 0) :
    (setRetries cmd).Leads card fun r final =>
      r.isOk = true → final.memory.security.holds condition = decide (condition = .pw3) := by
  unfold setRetries
  rw [data]
  dsimp only
  refine leads_require_bind (fun _ => nofun) fun granted => ?_
  refine setLimit_bind (fun _ _ => nofun) fun _ _ => ?_
  refine setLimit_bind (fun _ _ => nofun) fun _ _ => ?_
  refine setLimit_bind (fun _ _ => nofun) fun secrets _ => ?_
  intro _
  by_cases admin : condition = .pw3
  · subst admin
    have revoked : (card.memory.security.setLasting false).revokePw1.holds .pw3 = true := granted
    by_cases zero : pw1 = 0
    · simpa [zero] using granted
    · simpa [zero] using revoked
  · have nonzero := gives.resolve_left admin
    simp [nonzero, admin, Security.holds_revokePw1 admin]

theorem activate_revokes (card : Card σ) :
    activate.Leads card fun r final =>
      r.isOk = true → final.memory.security.holds condition = false := by
  unfold activate
  rw [leads_bind, Kept.leads_held]
  dsimp only
  split
  · exact fun done => by cases done
  · refine leads_bind.mpr (leads_mapError.mpr ((makeFactory_leads card).mono ?_))
    rintro (e | ⟨⟩) final made
    · exact fun done => by cases done
    · intro _
      rw [made rfl]
      exact Security.holds_initial

/-- A command that gives a secret a new value takes what was verified of it, with one exception:
PW3 stays verified after SET RETRIES. -/
theorem dispatch_revokes (card : Card σ) (gives : GivesValue cmd condition.secret) :
    (dispatch env cmd).Leads card fun r final => r.isOk = true →
      final.memory.security.holds condition =
        decide (condition = .pw3 ∧ cmd.instruction = .setRetries) := by
  unfold dispatch
  generalize secret : condition.secret = id at gives
  cases gives with
  | change instruction target =>
    rw [instruction]
    simpa using changeReferenceData_revokes card (secret ▸ target)
  | reset instruction =>
    rw [instruction]
    simpa using resetRetryCounter_revokes card secret
  | limitPw1 instruction data nonzero =>
    rw [instruction]
    simpa using setRetries_leaves card data (.inr nonzero)
  | limitPw3 instruction data nonzero =>
    have admin : condition = .pw3 := by cases condition <;> first | rfl | cases secret
    rw [instruction]
    simpa using setRetries_leaves card data (.inl admin)
  | activate instruction =>
    rw [instruction]
    simpa using activate_revokes card

theorem Step.holds_of_givesValue {step : Step σ} {ready : Card σ} {whole : Command}
    (carries : step.Carries ready whole) (done : step.succeeds = true)
    (gives : GivesValue whole condition.secret) :
    step.after.memory.security.holds condition =
      decide (condition = .pw3 ∧ whole.instruction = .setRetries) := by
  have other : whole.instruction ≠ .getResponse := gives.other
  obtain ⟨r, final, left, succeeded, after⟩ := ended carries other
    (active_of_succeeds carries done) (dispatch_revokes (begun ready) gives)
  have security : (conclude r final.memory).security = final.memory.security := by cases r <;> rfl
  rw [after, security]
  exact left (succeeded ▸ done)

end GivesValue

end Card

end PgpCard
