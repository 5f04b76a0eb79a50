import PgpCard.Card.Process
import PgpCard.Proofs.Card.Outcomes
import PgpCard.Proofs.Security

/-!
# What a command can come to

`Executes env cmd memory r memory' kept'` relates a command, begun with `memory` over a store that
holds the same, to its result, to the memory afterwards and to what the store holds afterwards.
It has one constructor for each command that changes something, and each constructor names what
the command checked before.

* `verify_durably`, `changeReferenceData_durably`, … : each command ends in one of these ways,
  whatever the store refuses;
* `dispatch_durably` : so does every command.
-/

set_option autoImplicit false

namespace PgpCard.Card

/-- What is verified after a verification. -/
def afterVerify (id : SecretId) (condition : Condition) (r : Except CardError Unit)
    (security : Security) : Security :=
  match r with
  | .ok () => security.grant condition
  | .error _ => security.revokeSecret id

/-- What is verified after a change that matters only if it succeeds. -/
def afterSuccess {α : Type} (change : Security → Security) (r : Except CardError α)
    (security : Security) : Security :=
  match r with
  | .ok _ => change security
  | .error _ => security

/-- The ways in which a command can end. -/
inductive Executes (env : Environment) (cmd : Command) (memory : Memory) :
    Except CardError Bytes → Memory → Persistent → Prop
  /-- Nothing changes, and a failure is none of the store. -/
  | leaves {r : Except CardError Bytes} (kind : ∀ e, r = .error e → e.isStorage = false) :
    Executes env cmd memory r memory memory.persistent
  | verifies {id : SecretId} {condition : Condition} {r : Except CardError Unit}
    {held durable : Secrets} (instruction : cmd.instruction = .verify)
    (target : verifyTarget? cmd.p2 = some (id, condition))
    (verifies : Secrets.Verifies memory.secrets id cmd.data r held durable) :
    Executes env cmd memory (r.map fun _ => [])
      { memory with
        secrets := held
        security := afterVerify id condition r memory.security }
      { memory.persistent with secrets := durable }
  | changes {id : SecretId} {r : Except CardError Unit} {held durable : Secrets}
    (instruction : cmd.instruction = .changeReferenceData)
    (target : changeTarget? cmd.p2 = some id)
    (changes : Secrets.Changes memory.secrets id
      (cmd.data.take (memory.secrets.record id).length.toNat)
      (cmd.data.drop (memory.secrets.record id).length.toNat) r held durable) :
    Executes env cmd memory (r.map fun _ => [])
      { memory with secrets := held, security := memory.security.revokeSecret id }
      { memory.persistent with secrets := durable }
  | resetsWithCode {r : Except CardError Unit} {held durable : Secrets}
    (instruction : cmd.instruction = .resetRetryCounter) (p1 : cmd.p1 = 0x00)
    (p2 : cmd.p2 = 0x81)
    (resets : Secrets.ResetsWithCode memory.secrets
      (cmd.data.take memory.secrets.rc.length.toNat)
      (cmd.data.drop memory.secrets.rc.length.toNat) r held durable) :
    Executes env cmd memory (r.map fun _ => [])
      { memory with
        secrets := held
        security := afterSuccess Security.revokePw1 r memory.security }
      { memory.persistent with secrets := durable }
  | resetsPw1 {r : Except CardError Unit} {held durable : Secrets}
    (instruction : cmd.instruction = .resetRetryCounter) (p1 : cmd.p1 = 0x02)
    (p2 : cmd.p2 = 0x81) (granted : memory.security.pw3 = true)
    (resets : Secrets.ResetsPw1 memory.secrets cmd.data r held durable) :
    Executes env cmd memory (r.map fun _ => [])
      { memory with
        secrets := held
        security := afterSuccess Security.revokePw1 r memory.security }
      { memory.persistent with secrets := durable }
  | setsRetries {pw1 rc pw3 : UInt8} {r : Except CardError Bytes} {memory' : Memory}
    {kept' : Persistent} (instruction : cmd.instruction = .setRetries)
    (data : cmd.data = [pw1, rc, pw3]) (granted : memory.security.pw3 = true)
    (sets : SetsRetries memory pw1 rc pw3 r memory' kept') :
    Executes env cmd memory r memory' kept'
  | signs {r : Except CardError Bytes} {held durable : KeySlots}
    (instruction : cmd.instruction = .performSecurityOperation)
    (mode : cmd.p1p2 = signatureMode) (granted : memory.security.pw1Signing = true)
    (signs : KeySlots.Signs memory.keys cmd.data r held durable) :
    Executes env cmd memory r
      { memory with
        keys := held
        security := afterSuccess Security.afterSigning r memory.security }
      { memory.persistent with keys := durable }
  | uses {r : Except CardError Bytes}
    (instruction : cmd.instruction = .performSecurityOperation ∧ cmd.p1p2 = decipherMode ∨
      cmd.instruction = .internalAuthenticate)
    (granted : memory.security.pw1Other = true)
    (kind : ∀ e, r = .error e → e.isStorage = false) :
    Executes env cmd memory r
      { memory with security := afterSuccess Security.afterOther r memory.security }
      memory.persistent
  | generates {id : SlotId} {r : Except CardError Bytes} {held durable : KeySlots}
    (instruction : cmd.instruction = .generateKeyPair) (p1 : cmd.p1 = 0x80)
    (named : templateSlot? cmd.data = some id) (granted : memory.security.pw3 = true)
    (generates : KeySlots.Generates env memory.keys id r held durable) :
    Executes env cmd memory r { memory with keys := held }
      { memory.persistent with keys := durable }
  | imports {r : Except CardError SlotId} {held durable : KeySlots}
    (instruction : cmd.instruction = .importKey) (granted : memory.security.pw3 = true)
    (imports : KeySlots.Imports memory.keys cmd.data r held durable) :
    Executes env cmd memory (r.map fun _ => []) { memory with keys := held }
      { memory.persistent with keys := durable }
  | puts {object : DataObject} {access : Access} {r : Except CardError Unit} {memory' : Memory}
    {kept' : Persistent} (instruction : cmd.instruction = .putData)
    (named : DataObject.ofTag? cmd.p1p2 = some object)
    (writable : object.writeAccess? = some access)
    (granted : access.granted memory.security = true)
    (checked : object.check cmd.data = .ok ())
    (writes : Writes memory cmd.data object r memory' kept') :
    Executes env cmd memory (r.map fun _ => []) memory' kept'
  | terminates {r : Except StoreError Unit} {kept' : Persistent}
    (instruction : cmd.instruction = .terminate)
    (blocked : memory.secrets.pw1.isBlocked = true ∧ memory.secrets.pw3.isBlocked = true)
    (saved : Saved memory.persistent { memory.persistent with terminated := true } r kept') :
    Executes env cmd memory ((r.mapError .storage).map fun _ => [])
      (match r with
        | .ok () => { memory with terminated := true, security := memory.security.revokeAll }
        | .error _ => memory) kept'
  | activates {r : Except StoreError Unit} {memory' : Memory} {kept' : Persistent}
    (instruction : cmd.instruction = .activate) (terminated : memory.terminated = true)
    (makes : MakesFactory memory r memory' kept') :
    Executes env cmd memory ((r.mapError .storage).map fun _ => []) memory' kept'

variable {env : Environment} {cmd : Command}

theorem Executes.failed {memory : Memory} {e : CardError} (kind : e.isStorage = false) :
    Executes env cmd memory (.error e) memory memory.persistent :=
  .leaves fun _ same => by
    cases same
    exact kind

theorem Executes.shown {memory : Memory} (data : Bytes) :
    Executes env cmd memory (.ok data) memory memory.persistent :=
  .leaves nofun

/-! ## Secrets -/

theorem verify_durably (memory : Memory) (instruction : cmd.instruction = .verify) :
    Durably (verify cmd) memory memory.persistent (Executes env cmd memory) := by
  unfold verify
  cases target : verifyTarget? cmd.p2 with
  | none => exact Durably.throw (.failed rfl)
  | some named =>
    obtain ⟨id, condition⟩ := named
    refine Durably.bind (Durably.outcome
      ((onSecrets_durably (Secrets.verify_does _ id cmd.data)).mono ?_))
    rintro (e | ⟨⟩) memory' kept' ⟨held, durable, rfl, rfl, verifies⟩
    · exact Durably.adjust_bind (Durably.throw (.verifies instruction target verifies))
    · exact Durably.adjust_bind (Durably.pure (.verifies instruction target verifies))

theorem changeReferenceData_durably (memory : Memory)
    (instruction : cmd.instruction = .changeReferenceData) :
    Durably (changeReferenceData cmd) memory memory.persistent (Executes env cmd memory) := by
  unfold changeReferenceData
  cases target : changeTarget? cmd.p2 with
  | none => exact Durably.throw (.failed rfl)
  | some id =>
    refine Durably.bind (Durably.outcome
      ((onSecrets_durably (Secrets.change_does _ id cmd.data)).mono ?_))
    rintro (e | ⟨⟩) memory' kept' ⟨held, durable, rfl, rfl, changes⟩
    · exact Durably.adjust_bind (Durably.throw (.changes instruction target changes))
    · exact Durably.adjust_bind (Durably.pure (.changes instruction target changes))

theorem resetRetryCounter_durably (memory : Memory)
    (instruction : cmd.instruction = .resetRetryCounter) :
    Durably (resetRetryCounter cmd) memory memory.persistent (Executes env cmd memory) := by
  unfold resetRetryCounter
  dsimp only
  split
  · exact Durably.throw_bind (.failed rfl)
  · rename_i p2
    rw [Decidable.not_not] at p2
    split
    · rename_i p1
      refine Durably.bind ((onSecrets_durably (Secrets.resetWithCode_does _ cmd.data)).mono ?_)
      rintro (e | ⟨⟩) memory' kept' ⟨held, durable, rfl, rfl, resets⟩
      · exact .resetsWithCode instruction p1 p2 resets
      · exact Durably.adjust_bind (Durably.pure (.resetsWithCode instruction p1 p2 resets))
    · split
      · rename_i p1
        refine Durably.require_bind (fun _ => .failed rfl) fun granted => ?_
        refine Durably.bind ((onSecrets_durably (Secrets.resetPw1_does _ cmd.data)).mono ?_)
        rintro (e | ⟨⟩) memory' kept' ⟨held, durable, rfl, rfl, resets⟩
        · exact .resetsPw1 instruction p1 p2 granted resets
        · exact Durably.adjust_bind (Durably.pure (.resetsPw1 instruction p1 p2 granted resets))
      · exact Durably.throw_bind (.failed rfl)

theorem setRetries_durably (memory : Memory) (instruction : cmd.instruction = .setRetries) :
    Durably (setRetries cmd) memory memory.persistent (Executes env cmd memory) := by
  unfold setRetries
  split
  · rename_i pw1 rc pw3 data
    refine Durably.require_bind (fun _ => .failed rfl) fun granted => ?_
    refine Durably.bind ((setLimit_durably _ .pw1 pw1).mono ?_)
    rintro (e | ⟨⟩) memory₁ kept₁ first
    · exact .setsRetries instruction data granted (.first first)
    obtain rfl := first.settles
    refine Durably.bind ((setLimit_durably _ .rc rc).mono ?_)
    rintro (e | ⟨⟩) memory₂ kept₂ second
    · exact .setsRetries instruction data granted (.second first second)
    obtain rfl := second.settles
    refine Durably.bind ((setLimit_durably _ .pw3 pw3).mono ?_)
    rintro (e | ⟨⟩) memory₃ kept₃ third
    · exact .setsRetries instruction data granted (.third first second third)
    · exact Durably.pure (.setsRetries instruction data granted (.third first second third))
  · exact Durably.throw (.failed rfl)

/-! ## Keys -/

theorem performSecurityOperation_durably (memory : Memory)
    (instruction : cmd.instruction = .performSecurityOperation) :
    Durably (performSecurityOperation cmd) memory memory.persistent (Executes env cmd memory) := by
  unfold performSecurityOperation
  split
  · rename_i mode
    refine Durably.require_bind (fun _ => .failed rfl) fun granted => ?_
    refine Durably.bind ((onKeys_durably (KeySlots.sign_does _ cmd.data)).mono ?_)
    rintro (e | signature) memory' kept' ⟨held, durable, rfl, rfl, signs⟩
    · exact .signs instruction mode granted signs
    · exact Durably.adjust_bind (Durably.pure (.signs instruction mode granted signs))
  · split
    · rename_i mode
      refine Durably.require_bind (fun _ => .failed rfl) fun granted => ?_
      refine Durably.bind ((onKeys_durably (KeySlots.decipher_does _ cmd.data)).mono ?_)
      rintro (e | message) memory' kept' ⟨held, durable, rfl, rfl, ⟨kind⟩⟩
      · exact .uses (.inl ⟨instruction, mode⟩) granted kind
      · exact Durably.adjust_bind (Durably.pure (.uses (.inl ⟨instruction, mode⟩) granted kind))
    · exact Durably.throw (.failed rfl)

theorem internalAuthenticate_durably (memory : Memory)
    (instruction : cmd.instruction = .internalAuthenticate) :
    Durably (internalAuthenticate cmd) memory memory.persistent (Executes env cmd memory) := by
  refine Durably.require_bind (fun _ => .failed rfl) fun granted => ?_
  refine Durably.bind ((onKeys_durably (KeySlots.authenticate_does _ cmd.data)).mono ?_)
  rintro (e | signature) memory' kept' ⟨held, durable, rfl, rfl, ⟨kind⟩⟩
  · exact .uses (.inr instruction) granted kind
  · exact Durably.adjust_bind (Durably.pure (.uses (.inr instruction) granted kind))

theorem generateKeyPair_durably (memory : Memory)
    (instruction : cmd.instruction = .generateKeyPair) :
    Durably (generateKeyPair env cmd) memory memory.persistent (Executes env cmd memory) := by
  unfold generateKeyPair
  dsimp only
  split
  · exact Durably.throw_bind (.failed rfl)
  · rename_i p1
    cases named : templateSlot? cmd.data with
    | none => exact Durably.throw (.failed rfl)
    | some id =>
      dsimp only
      split
      · refine Durably.held_bind (Durably.ofExcept ?_)
        unfold KeySlots.publicKey
        split
        · exact .failed rfl
        · exact .shown _
      · refine Durably.require_bind (fun _ => .failed rfl) fun granted => ?_
        refine (onKeys_durably (KeySlots.generate_does env _ id)).mono ?_
        rintro r memory' kept' ⟨held, durable, rfl, rfl, generates⟩
        exact .generates instruction (by grind) named granted generates

theorem importKey_durably (memory : Memory) (instruction : cmd.instruction = .importKey) :
    Durably (importKey cmd) memory memory.persistent (Executes env cmd memory) := by
  unfold importKey
  dsimp only
  split
  · exact Durably.throw_bind (.failed rfl)
  · refine Durably.require_bind (fun _ => .failed rfl) fun granted => ?_
    refine Durably.bind ((onKeys_durably (KeySlots.importKey_does _ cmd.data)).mono ?_)
    rintro (e | id) memory' kept' ⟨held, durable, rfl, rfl, imports⟩
    · exact .imports instruction granted imports
    · exact Durably.pure (.imports instruction granted imports)

/-! ## Data objects and the life of the card -/

theorem getData_durably (memory : Memory) :
    Durably (getData cmd) memory memory.persistent (Executes env cmd memory) := by
  unfold getData requireObject
  cases DataObject.ofTag? cmd.p1p2 with
  | none => exact Durably.throw_bind (.failed rfl)
  | some object =>
    refine Durably.bind (Durably.pure (Durably.bind ?_))
    unfold requireAccess
    cases object.readAccess? with
    | none => exact Durably.throw (.failed rfl)
    | some access =>
      refine Durably.held_bind ?_
      split
      · exact Durably.throw (.failed rfl)
      · refine Durably.pure (Durably.held_bind ?_)
        cases memory.value? object with
        | none => exact Durably.throw (.failed rfl)
        | some value => exact Durably.pure (.shown value)

/-- A value that does not fit is no failure of the store. -/
theorem isStorage_of_check {object : DataObject} {value : Bytes} {e : CardError}
    (h : object.check value = .error e) : e.isStorage = false := by
  have demands : ∀ {fits : Bool} {otherwise : CardError}, otherwise.isStorage = false →
      DataObject.demand fits otherwise = .error e → e.isStorage = false := by
    intro fits otherwise kind failed
    cases fits with
    | true => cases failed
    | false =>
      cases failed
      exact kind
  cases object with
  | applicationId | historicalBytes | cardholder | applicationData | capabilities | attributes
  | fingerprints | caFingerprints | generationTimes | securitySupport | signatureCounter =>
    cases h
    rfl
  | _ => exact demands rfl h

theorem putData_durably (memory : Memory) (instruction : cmd.instruction = .putData) :
    Durably (putData cmd) memory memory.persistent (Executes env cmd memory) := by
  unfold putData requireObject
  cases named : DataObject.ofTag? cmd.p1p2 with
  | none => exact Durably.throw_bind (.failed rfl)
  | some object =>
    refine Durably.bind (Durably.pure (Durably.bind ?_))
    unfold requireAccess
    cases writable : object.writeAccess? with
    | none => exact Durably.throw (.failed rfl)
    | some access =>
      refine Durably.held_bind ?_
      cases granted : access.granted memory.security with
      | false => exact Durably.throw (.failed rfl)
      | true =>
        refine Durably.pure (Durably.bind (Durably.ofExcept ?_))
        cases checked : object.check cmd.data with
        | error e => exact .failed (isStorage_of_check checked)
        | ok =>
          refine Durably.bind ((write_durably memory checked).mono ?_)
          rintro (e | ⟨⟩) memory' kept' writes
          · exact .puts instruction named writable granted checked writes
          · exact Durably.pure (.puts instruction named writable granted checked writes)

theorem terminate_durably (memory : Memory) (instruction : cmd.instruction = .terminate) :
    Durably terminate memory memory.persistent (Executes env cmd memory) := by
  refine Durably.held_bind ?_
  dsimp only
  split
  · exact Durably.throw_bind (.failed rfl)
  · rename_i blocked
    rw [Bool.not_eq_true, Bool.not_eq_false', Bool.and_eq_true] at blocked
    refine Durably.bind (Durably.mapError ((durably_saveTerminated true (by decide)).mono ?_))
    rintro r memory' kept' ⟨rfl, saved⟩
    cases saved with
    | refused e => exact Executes.terminates instruction blocked (.refused e)
    | done =>
      exact Durably.adjust_bind (Durably.pure (Executes.terminates instruction blocked .done))

theorem activate_durably (memory : Memory) (instruction : cmd.instruction = .activate) :
    Durably activate memory memory.persistent (Executes env cmd memory) := by
  refine Durably.held_bind ?_
  dsimp only
  split
  · exact Durably.throw_bind (.failed rfl)
  · rename_i terminated
    rw [Bool.not_eq_true, Bool.not_eq_false'] at terminated
    refine Durably.bind (Durably.mapError ((makeFactory_durably memory).mono ?_))
    rintro (e | ⟨⟩) memory' kept' makes
    · exact .activates instruction terminated makes
    · exact Durably.pure (.activates instruction terminated makes)

/-- Every command ends in one of these ways, whatever the store refuses. -/
theorem dispatch_durably (env : Environment) (cmd : Command) (memory : Memory) :
    Durably (dispatch env cmd) memory memory.persistent (Executes env cmd memory) := by
  unfold dispatch
  split
  · exact verify_durably memory ‹_›
  · exact changeReferenceData_durably memory ‹_›
  · exact resetRetryCounter_durably memory ‹_›
  · exact performSecurityOperation_durably memory ‹_›
  · exact internalAuthenticate_durably memory ‹_›
  · exact generateKeyPair_durably memory ‹_›
  · exact Durably.pure (.shown _)
  · exact getData_durably memory
  · exact putData_durably memory ‹_›
  · exact importKey_durably memory ‹_›
  · exact terminate_durably memory ‹_›
  · exact activate_durably memory ‹_›
  · exact Durably.pure (.shown _)
  · exact setRetries_durably memory ‹_›
  · exact Durably.throw (.failed rfl)
  · exact Durably.throw (.failed rfl)
  · exact Durably.throw (.failed rfl)
  · exact Durably.throw (.failed rfl)

/-! ## Memory and store afterwards -/

theorem lasting_afterVerify (id : SecretId) (condition : Condition)
    (r : Except CardError Unit) (security : Security) :
    (afterVerify id condition r security).lasting = security.lasting := by
  cases r <;> simp [afterVerify]

theorem lasting_afterSuccess {α : Type} {change : Security → Security}
    (keeps : ∀ security, (change security).lasting = security.lasting) (r : Except CardError α)
    (security : Security) : (afterSuccess change r security).lasting = security.lasting := by
  cases r with
  | error => rfl
  | ok => exact keeps security

/-- What is verified does not survive, apart from the PW1 status. -/
theorem persistent_session {memory : Memory} {secrets : Secrets} {keys : KeySlots}
    {security : Security} (same : security.lasting = memory.security.lasting) :
    ({ memory with secrets, keys, security } : Memory).persistent =
      { memory.persistent with secrets, keys } := by
  rw [Memory.persistent, same]
  rfl

namespace Executes

variable {memory memory' : Memory} {r : Except CardError Bytes} {kept' : Persistent}

/-- Unless the store has failed, it holds what is in memory. -/
theorem settled (h : Executes env cmd memory r memory' kept') :
    kept' = memory'.persistent ∨ ∃ e, r = .error (.storage e) := by
  cases h with
  | leaves => exact .inl rfl
  | verifies _ _ ends =>
    obtain rfl | ⟨e, rfl⟩ := ends.settled
    · exact .inl (persistent_session (lasting_afterVerify _ _ _ _)).symm
    · exact .inr ⟨e, rfl⟩
  | changes _ _ ends =>
    obtain rfl | ⟨e, rfl⟩ := ends.settled
    · exact .inl (persistent_session (Security.lasting_revokeSecret _ _)).symm
    · exact .inr ⟨e, rfl⟩
  | resetsWithCode _ _ _ ends | resetsPw1 _ _ _ _ ends =>
    obtain rfl | ⟨e, rfl⟩ := ends.settled
    · exact .inl (persistent_session (lasting_afterSuccess Security.lasting_revokePw1 _ _)).symm
    · exact .inr ⟨e, rfl⟩
  | setsRetries _ _ _ sets => exact sets.settled
  | signs _ _ _ ends =>
    cases ends.settled
    exact .inl (persistent_session (lasting_afterSuccess Security.lasting_afterSigning _ _)).symm
  | uses =>
    exact .inl (persistent_session (lasting_afterSuccess Security.lasting_afterOther _ _)).symm
  | generates _ _ _ _ ends =>
    cases ends.settled
    exact .inl rfl
  | imports _ _ ends =>
    cases ends.settled
    exact .inl rfl
  | puts _ _ _ _ _ writes =>
    obtain same | ⟨e, rfl⟩ := writes.settled
    · exact .inl same
    · exact .inr ⟨e, rfl⟩
  | terminates _ _ saved =>
    cases saved with
    | done => exact .inl rfl
    | refused e => exact .inr ⟨e, rfl⟩
  | activates _ _ makes =>
    obtain same | ⟨e, rfl⟩ := makes.settled
    · exact .inl same
    · exact .inr ⟨e, rfl⟩

/-- What a command can make of the key slots, in memory and in the store. -/
theorem become (h : Executes env cmd memory r memory' kept') :
    KeySlots.Become env memory.keys memory'.keys ∧ KeySlots.Become env memory.keys kept'.keys := by
  have same := KeySlots.Become.refl env memory.keys
  cases h with
  | leaves | verifies | changes | resetsWithCode | resetsPw1 | uses => exact ⟨same, same⟩
  | setsRetries _ _ _ sets =>
    obtain ⟨_, _, _, _, rfl, rfl⟩ := sets.frame
    exact ⟨same, same⟩
  | signs _ _ _ ends =>
    have new := ends.become env
    cases ends.settled
    exact ⟨new, new⟩
  | generates _ _ _ _ ends =>
    have new := ends.become
    cases ends.settled
    exact ⟨new, new⟩
  | imports _ _ ends =>
    have new := ends.become env
    cases ends.settled
    exact ⟨new, new⟩
  | puts _ _ _ _ _ writes => exact writes.become env
  | terminates _ _ saved => cases saved <;> exact ⟨same, same⟩
  | activates _ _ makes => exact ⟨makes.blends.1.become env, makes.blends.2.become env⟩

/-- No command changes how much a chain may hold. -/
theorem capacity (h : Executes env cmd memory r memory' kept') :
    memory'.chain.capacity = memory.chain.capacity := by
  cases h with
  | setsRetries _ _ _ sets =>
    obtain ⟨_, _, _, _, rfl, _⟩ := sets.frame
    rfl
  | puts _ _ _ _ _ writes => rw [writes.chain]
  | terminates _ _ saved => cases saved <;> rfl
  | activates _ _ makes => exact makes.capacity
  | _ => rfl

end Executes

end PgpCard.Card
