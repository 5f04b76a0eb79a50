import PgpCard.Card.Process
import PgpCard.Proofs.Attempt
import PgpCard.Proofs.Security

/-!
# What a command makes of the session

Whatever the store below and whatever it refuses, a command changes what is verified of PW1 in few
ways.

* `Grants`, `Ends`, `UsesKey` : the commands that begin, end and need a verification of PW1;
* `Follows` : what is verified after a command was granted by it, or was verified before and not
  ended by it; and a key is used only where PW1 was verified for that use;
* `dispatch_follows` : every command follows the session in this way, unless the store fails.
-/

set_option autoImplicit false

namespace PgpCard.Card

open Attempt

/-! ## Commands about PW1 -/

/-- P2 of the verification that grants a condition. -/
def verifyMode : Condition → UInt8
  | .pw1Signing => 0x81
  | .pw1Other => 0x82
  | .pw3 => 0x83

/-- The command is a verification that may grant a condition. -/
def Grants (cmd : Command) (condition : Condition) : Prop :=
  cmd.instruction = .verify ∧ cmd.p2 = verifyMode condition

/-- The command uses a key, which needs a condition: COMPUTE DIGITAL SIGNATURE on the one hand,
DECIPHER and INTERNAL AUTHENTICATE on the other. -/
def UsesKey (cmd : Command) : Condition → Prop
  | .pw1Signing => cmd.instruction = .performSecurityOperation ∧ cmd.p1p2 = signatureMode
  | .pw1Other =>
    cmd.instruction = .performSecurityOperation ∧ cmd.p1p2 = decipherMode ∨
      cmd.instruction = .internalAuthenticate
  | .pw3 => False

/-- A command that succeeds or not ends a verification of PW1. -/
inductive Ends (security : Security) (cmd : Command) (succeeds : Bool) (condition : Condition) :
    Prop
  | verify (instruction : cmd.instruction = .verify) (p2 : cmd.p2 = 0x81 ∨ cmd.p2 = 0x82)
    (fails : succeeds = false)
  | change (instruction : cmd.instruction = .changeReferenceData) (p2 : cmd.p2 = 0x81)
  | reset (instruction : cmd.instruction = .resetRetryCounter) (done : succeeds = true)
  | limit {pw1 rc pw3 : UInt8} (instruction : cmd.instruction = .setRetries)
    (data : cmd.data = [pw1, rc, pw3]) (nonzero : pw1 ≠ 0)
    (granted : security.pw3 = true)
  | terminate (instruction : cmd.instruction = .terminate) (done : succeeds = true)
  | activate (instruction : cmd.instruction = .activate) (done : succeeds = true)
  /-- A verification that is not lasting is good for one use. -/
  | use (uses : UsesKey cmd condition) (done : succeeds = true)
    (once : security.lasting = false)

/-- PW1 is verified for a use, on a card that takes commands. -/
def Verified (memory : Memory) (condition : Condition) : Prop :=
  condition ≠ .pw3 ∧ memory.terminated = false ∧ memory.security.holds condition = true

/-- What is verified of PW1 after a command was granted by it, or was verified before and not
ended by it; and a key was used only where PW1 was verified for it. -/
structure Follows (memory : Memory) (cmd : Command) (succeeds : Bool) (memory' : Memory) :
    Prop where
  verified : ∀ condition, Verified memory' condition →
    Grants cmd condition ∧ succeeds = true ∨
      Verified memory condition ∧ ¬ Ends memory.security cmd succeeds condition
  used : ∀ condition, UsesKey cmd condition → succeeds = true →
    memory.security.holds condition = true

/-- A command follows the session, or the store has failed. -/
def FollowsOrFails (memory : Memory) (cmd : Command) (r : Except CardError Bytes)
    (memory' : Memory) : Prop :=
  Follows memory cmd r.isOk memory' ∨ ∃ e, r = .error (.storage e)

section Rules

variable {memory memory' : Memory} {cmd : Command} {succeeds : Bool}

theorem UsesKey.instruction {condition : Condition} (uses : UsesKey cmd condition) :
    cmd.instruction = .performSecurityOperation ∨ cmd.instruction = .internalAuthenticate := by
  cases condition with
  | pw1Signing => exact .inl uses.1
  | pw1Other => exact uses.imp And.left id
  | pw3 => exact uses.elim

/-- A command uses a key under one condition at most. -/
theorem UsesKey.unique {condition mode : Condition} (uses : UsesKey cmd condition)
    (uses' : UsesKey cmd mode) : condition = mode := by
  have distinct : signatureMode ≠ decipherMode := by decide
  cases condition <;> cases mode <;> simp_all [UsesKey]

/-- No command about PW1 uses a key. -/
theorem not_usesKey {condition : Condition}
    (other : cmd.instruction ≠ .performSecurityOperation ∧
      cmd.instruction ≠ .internalAuthenticate) : ¬ UsesKey cmd condition :=
  fun uses => uses.instruction.elim other.1 other.2

/-- A command that is not about PW1 leaves what is verified of it. -/
theorem Follows.stays (quiet : ∀ condition, ¬ Ends memory.security cmd succeeds condition)
    (unused : ∀ condition, UsesKey cmd condition → succeeds = true →
      memory.security.holds condition = true)
    (same : ∀ condition, condition ≠ .pw3 →
      memory'.security.holds condition = memory.security.holds condition)
    (life : memory'.terminated = memory.terminated) : Follows memory cmd succeeds memory' where
  verified condition := by
    rintro ⟨pw1, active, holds⟩
    exact .inr ⟨⟨pw1, life.symm.trans active, (same condition pw1).symm.trans holds⟩,
      quiet condition⟩
  used := unused

/-- A command after which nothing of PW1 is verified. -/
theorem Follows.clears
    (cleared : ∀ condition, condition ≠ .pw3 → memory'.security.holds condition = false)
    (unused : ∀ condition, ¬ UsesKey cmd condition) : Follows memory cmd succeeds memory' where
  verified condition := by
    rintro ⟨pw1, -, holds⟩
    cases (cleared condition pw1).symm.trans holds
  used condition uses := absurd uses (unused condition)

/-- A command that succeeds in using a key, which takes one verification away unless PW1 is
lasting. -/
theorem Follows.uses (mode : Condition) (uses : UsesKey cmd mode)
    (granted : memory.security.holds mode = true)
    (left : ∀ condition, memory'.security.holds condition =
      (memory.security.holds condition &&
        (memory.security.lasting || decide (condition ≠ mode))))
    (life : memory'.terminated = memory.terminated) : Follows memory cmd true memory' := by
  refine ⟨?_, fun condition uses' _ => ?_⟩
  · rintro condition ⟨pw1, active, holds⟩
    rw [left, Bool.and_eq_true] at holds
    refine .inr ⟨⟨pw1, life.symm.trans active, holds.1⟩, fun ends => ?_⟩
    have instruction := uses.instruction
    cases ends with
    | use uses' _ once => simp [once, uses'.unique uses] at holds
    | _ => simp_all
  · rw [uses'.unique uses, granted]

/-- A command that is neither about PW1 nor about keys. -/
def Neutral (cmd : Command) : Prop :=
  cmd.instruction ∉ [.verify, .changeReferenceData, .resetRetryCounter, .setRetries, .terminate,
    .activate, .performSecurityOperation, .internalAuthenticate]

theorem Neutral.follows (neutral : Neutral cmd)
    (same : ∀ condition, condition ≠ .pw3 →
      memory'.security.holds condition = memory.security.holds condition)
    (life : memory'.terminated = memory.terminated) : Follows memory cmd succeeds memory' := by
  have unused : ∀ condition, ¬ UsesKey cmd condition := fun condition =>
    not_usesKey (by simp_all [Neutral])
  refine .stays (fun condition ends => ?_) (fun _ uses => absurd uses (unused _)) same life
  cases ends with
  | use uses => exact unused _ uses
  | _ => simp_all [Neutral]

/-- A failure that leaves the session as it is. -/
theorem Follows.failed
    (other : cmd.instruction ∉ [.verify, .changeReferenceData, .setRetries])
    (same : memory'.security = memory.security)
    (life : memory'.terminated = memory.terminated) : Follows memory cmd false memory' := by
  refine .stays (fun condition ends => ?_) nofun (fun _ _ => by rw [same]) life
  cases ends <;> simp_all

end Rules

/-! ## Secrets -/

section Commands

variable {σ : Type} {env : Environment} {cmd : Command}

/-- A verification that is given a target is for one condition of one secret. -/
theorem verifyMode_of_target {p2 : UInt8} {id : SecretId} {condition : Condition}
    (target : verifyTarget? p2 = some (id, condition)) :
    p2 = verifyMode condition ∧ id = if condition = .pw3 then .pw3 else .pw1 := by
  unfold verifyTarget? at target
  split at target
  · cases target
    exact ⟨‹_›, rfl⟩
  · split at target
    · cases target
      exact ⟨‹_›, rfl⟩
    · split at target
      · cases target
        exact ⟨‹_›, rfl⟩
      · cases target

theorem leads_require_bind {α : Type} {card : Card σ} {condition : Condition}
    {otherwise : CardError} {next : Unit → Attempt CardError (Card σ) α}
    {post : Except CardError α → Card σ → Prop}
    (denied : card.memory.security.holds condition = false → post (.error otherwise) card)
    (granted : card.memory.security.holds condition = true → (next ()).Leads card post) :
    (require condition otherwise >>= next).Leads card post := by
  rw [leads_bind, require, leads_bind, Kept.leads_held]
  dsimp only
  cases holds : card.memory.security.holds condition with
  | false => exact denied holds
  | true => exact granted holds

/-- What a command about data objects leaves as it is. -/
def SameSession (card final : Card σ) : Prop :=
  (∀ condition, final.memory.security.holds condition = card.memory.security.holds condition) ∧
    final.memory.terminated = card.memory.terminated

theorem sameSession_onPart {ε γ α : Type} {part : Memory → γ} {put : γ → Memory → Memory}
    (session : ∀ inner memory, (put inner memory).security = memory.security ∧
      (put inner memory).terminated = memory.terminated)
    (card : Card σ) (act : Attempt ε (Kept γ σ) α) :
    (Kept.onPart part put act).Leads card fun _ final => SameSession card final := by
  rw [Kept.leads_onPart]
  exact leads_any fun _ _ => ⟨fun _ => by rw [(session _ _).1], (session _ _).2⟩

theorem leads_requireAccess (card : Card σ) (access : Option Access) :
    (requireAccess access).Leads card fun _ final => final = card := by
  unfold requireAccess
  cases access with
  | none => exact rfl
  | some access =>
    rw [leads_bind, Kept.leads_held]
    dsimp only
    split <;> exact rfl

variable [Backend σ]

theorem verify_follows (card : Card σ) (instruction : cmd.instruction = .verify) :
    (verify cmd).Leads card fun r final => FollowsOrFails card.memory cmd r final.memory := by
  have unused : ∀ condition, ¬ UsesKey cmd condition := fun _ =>
    not_usesKey (by simp [instruction])
  unfold verify
  cases target : verifyTarget? cmd.p2 with
  | none =>
    refine .inl (.stays (fun condition ends => ?_) nofun (fun _ _ => rfl) rfl)
    cases ends with
    | verify _ p2 => rcases p2 with p2 | p2 <;> simp [p2, verifyTarget?] at target
    | use uses => exact unused _ uses
    | _ => simp_all
  | some named =>
    obtain ⟨id, granted⟩ := named
    obtain ⟨p2, rfl⟩ := verifyMode_of_target target
    rw [leads_bind, leads_outcome, onSecrets, Kept.leads_onPart]
    refine leads_any ?_
    rintro (e | ⟨⟩) inner
    · by_cases admin : granted = .pw3
      · subst admin
        refine .inl (.stays (fun condition ends => ?_) nofun (fun condition pw1 => ?_) rfl)
        · cases ends with
          | verify _ p2' => rcases p2' with p2' | p2' <;> simp [p2', verifyMode] at p2
          | use uses => exact unused _ uses
          | _ => simp_all
        · exact (Security.holds_revoke _).trans (by simpa using fun _ => pw1)
      · refine .inl (.clears (fun condition pw1 => ?_) unused)
        rw [if_neg admin]
        exact Security.holds_revokePw1 pw1
    · refine .inl ⟨?_, fun _ uses => absurd uses (unused _)⟩
      rintro condition ⟨pw1, active, holds⟩
      have holds := (Security.holds_grant granted).symm.trans holds
      by_cases same : condition = granted
      · subst same
        exact .inl ⟨⟨instruction, p2⟩, rfl⟩
      · refine .inr ⟨⟨pw1, active, by simpa [same] using holds⟩, fun ends => ?_⟩
        cases ends with
        | verify _ _ fails => cases fails
        | use uses => exact unused _ uses
        | _ => simp_all

theorem changeReferenceData_follows (card : Card σ)
    (instruction : cmd.instruction = .changeReferenceData) :
    (changeReferenceData cmd).Leads card fun r final =>
      FollowsOrFails card.memory cmd r final.memory := by
  have unused : ∀ condition, ¬ UsesKey cmd condition := fun _ =>
    not_usesKey (by simp [instruction])
  unfold changeReferenceData
  have quiet : cmd.p2 ≠ 0x81 → ∀ (succeeds : Bool) (condition : Condition),
      ¬ Ends card.memory.security cmd succeeds condition := by
    intro other succeeds condition ends
    cases ends with
    | use uses => exact unused _ uses
    | _ => simp_all
  cases target : changeTarget? cmd.p2 with
  | none =>
    have other : cmd.p2 ≠ 0x81 := fun same => by simp [same, changeTarget?] at target
    exact .inl (.stays (quiet other _) nofun (fun _ _ => rfl) rfl)
  | some id =>
    rw [leads_bind, leads_outcome, onSecrets, Kept.leads_onPart]
    have follows : ∀ (succeeds : Bool) (secrets : Secrets),
        Follows card.memory cmd succeeds { card.memory with
          secrets, security := card.memory.security.revokeSecret id } := by
      intro succeeds secrets
      unfold changeTarget? at target
      split at target
      · cases target
        exact .clears (fun _ pw1 => Security.holds_revokePw1 pw1) unused
      · rename_i other
        split at target
        · cases target
          refine .stays (quiet other _) (fun _ uses => absurd uses (unused _)) ?_ rfl
          exact fun _ pw1 => (Security.holds_revoke _).trans (by simpa using fun _ => pw1)
        · cases target
    refine leads_any ?_
    rintro (e | ⟨⟩) inner
    · exact .inl (follows _ _)
    · exact .inl (follows _ _)

theorem resetRetryCounter_follows (card : Card σ)
    (instruction : cmd.instruction = .resetRetryCounter) :
    (resetRetryCounter cmd).Leads card fun r final =>
      FollowsOrFails card.memory cmd r final.memory := by
  have unused : ∀ condition, ¬ UsesKey cmd condition := fun _ =>
    not_usesKey (by simp [instruction])
  have failed : ∀ secrets : Secrets, Follows card.memory cmd false
      { card.memory with secrets } := fun _ => .failed (by simp [instruction]) rfl rfl
  have done : ∀ secrets : Secrets, Follows card.memory cmd true
      { card.memory with secrets, security := card.memory.security.revokePw1 } := fun _ =>
    .clears (fun _ pw1 => Security.holds_revokePw1 pw1) unused
  unfold resetRetryCounter
  dsimp only
  split
  · exact .inl (failed card.memory.secrets)
  · split
    · exact Kept.leads_onPart_bind (fun _ _ _ => .inl (failed _)) fun _ _ _ => .inl (done _)
    · split
      · refine leads_require_bind (fun _ => .inl (failed card.memory.secrets)) fun _ => ?_
        exact Kept.leads_onPart_bind (fun _ _ _ => .inl (failed _)) fun _ _ _ => .inl (done _)
      · exact .inl (failed card.memory.secrets)

/-! ## Keys -/

theorem performSecurityOperation_follows (card : Card σ)
    (instruction : cmd.instruction = .performSecurityOperation) :
    (performSecurityOperation cmd).Leads card fun r final =>
      FollowsOrFails card.memory cmd r final.memory := by
  have failed : ∀ keys : KeySlots, Follows card.memory cmd false
      { card.memory with keys } := fun _ => .failed (by simp [instruction]) rfl rfl
  unfold performSecurityOperation
  split
  · rename_i mode
    refine leads_require_bind (fun _ => .inl (failed card.memory.keys)) fun granted => ?_
    refine Kept.leads_onPart_bind (fun _ _ _ => .inl (failed _)) fun _ _ _ => .inl ?_
    exact .uses .pw1Signing ⟨instruction, mode⟩ granted
      (fun _ => Security.holds_afterSigning) rfl
  · split
    · rename_i mode
      refine leads_require_bind (fun _ => .inl (failed card.memory.keys)) fun granted => ?_
      refine Kept.leads_onPart_bind (fun _ _ _ => .inl (failed _)) fun _ _ _ => .inl ?_
      exact .uses .pw1Other (.inl ⟨instruction, mode⟩) granted
        (fun _ => Security.holds_afterOther) rfl
    · exact .inl (failed card.memory.keys)

theorem internalAuthenticate_follows (card : Card σ)
    (instruction : cmd.instruction = .internalAuthenticate) :
    (internalAuthenticate cmd).Leads card fun r final =>
      FollowsOrFails card.memory cmd r final.memory := by
  have failed : ∀ keys : KeySlots, Follows card.memory cmd false
      { card.memory with keys } := fun _ => .failed (by simp [instruction]) rfl rfl
  refine leads_require_bind (fun _ => .inl (failed card.memory.keys)) fun granted => ?_
  refine Kept.leads_onPart_bind (fun _ _ _ => .inl (failed _)) fun _ _ _ => .inl ?_
  exact .uses .pw1Other (.inr instruction) granted
    (fun _ => Security.holds_afterOther) rfl

theorem generateKeyPair_follows (card : Card σ) (instruction : cmd.instruction = .generateKeyPair) :
    (generateKeyPair env cmd).Leads card fun r final =>
      FollowsOrFails card.memory cmd r final.memory := by
  have follows : ∀ (succeeds : Bool) (keys : KeySlots), Follows card.memory cmd succeeds
      { card.memory with keys } := fun _ _ =>
    Neutral.follows (by simp [Neutral, instruction]) (fun _ _ => rfl) rfl
  unfold generateKeyPair
  dsimp only
  split
  · exact .inl (follows _ card.memory.keys)
  · split
    · exact .inl (follows _ card.memory.keys)
    · split
      · rw [leads_bind, Kept.leads_held]
        exact leads_ofExcept.mpr (.inl (follows _ card.memory.keys))
      · refine leads_require_bind (fun _ => .inl (follows _ card.memory.keys)) fun _ => ?_
        rw [onKeys, Kept.leads_onPart]
        exact leads_any fun _ _ => .inl (follows _ _)

theorem importKey_follows (card : Card σ) (instruction : cmd.instruction = .importKey) :
    (importKey cmd).Leads card fun r final => FollowsOrFails card.memory cmd r final.memory := by
  have follows : ∀ (succeeds : Bool) (keys : KeySlots), Follows card.memory cmd succeeds
      { card.memory with keys } := fun _ _ =>
    Neutral.follows (by simp [Neutral, instruction]) (fun _ _ => rfl) rfl
  unfold importKey
  dsimp only
  split
  · exact .inl (follows _ card.memory.keys)
  · refine leads_require_bind (fun _ => .inl (follows _ card.memory.keys)) fun _ => ?_
    exact Kept.leads_onPart_bind (fun _ _ _ => .inl (follows _ _)) fun _ _ _ => .inl (follows _ _)

/-! ## Data objects -/

theorem sameSession_put (card : Card σ) {object : DataObject} {value : Bytes}
    (other : Card.write value object =
      (onObjects (DataObjects.put object value) : Attempt CardError (Card σ) Unit)) :
    (Card.write value object).Leads card fun _ final => SameSession card final := by
  rw [other, onObjects]
  refine sameSession_onPart ?_ card _
  exact fun _ _ => ⟨rfl, rfl⟩

theorem sameSession_write (card : Card σ) (object : DataObject) (value : Bytes) :
    (Card.write value object).Leads card fun _ final => SameSession card final := by
  have part : ∀ {γ : Type} {part : Memory → γ} {put : γ → Memory → Memory}
      (act : Attempt StoreError (Kept γ σ) Unit),
      (∀ inner memory, (put inner memory).security = memory.security ∧
        (put inner memory).terminated = memory.terminated) →
      ((Kept.onPart part put act).mapError CardError.storage).Leads card
        fun _ final => SameSession card final := fun act session => by
    rw [leads_mapError]
    exact sameSession_onPart session card act
  cases object with
  | passwordStatus =>
    refine leads_bind.mpr (leads_mapError.mpr (Kept.leads_onStore.mpr (leads_any ?_)))
    rintro (e | ⟨⟩) store
    · exact ⟨fun _ => rfl, rfl⟩
    · exact ⟨fun _ => Security.holds_setLasting _, rfl⟩
  | fingerprint id | caFingerprint id | generationTime id =>
    exact part _ fun _ _ => ⟨rfl, rfl⟩
  | resettingCode =>
    change (if value.isEmpty = true then _ else _ : Attempt CardError (Card σ) Unit).Leads _ _
    split
    · exact part _ fun _ _ => ⟨rfl, rfl⟩
    · exact part _ fun _ _ => ⟨rfl, rfl⟩
  | _ => exact sameSession_put card rfl

omit [Backend σ] in
theorem getData_follows (card : Card σ) (instruction : cmd.instruction = .getData) :
    (getData cmd).Leads card fun r final => FollowsOrFails card.memory cmd r final.memory := by
  have follows : ∀ succeeds : Bool, Follows card.memory cmd succeeds card.memory := fun _ =>
    Neutral.follows (by simp [Neutral, instruction]) (fun _ _ => rfl) rfl
  unfold getData requireObject
  cases DataObject.ofTag? cmd.p1p2 with
  | none => exact .inl (follows _)
  | some object =>
    refine leads_bind.mpr (leads_pure.mpr ?_)
    refine leads_bind.mpr ((leads_requireAccess card _).mono ?_)
    rintro (e | ⟨⟩) final rfl
    · exact .inl (follows _)
    · refine leads_bind.mpr (Kept.leads_held.mpr ?_)
      dsimp only
      cases final.memory.value? object with
      | none => exact .inl (follows _)
      | some value => exact .inl (follows _)

theorem putData_follows (card : Card σ) (instruction : cmd.instruction = .putData) :
    (putData cmd).Leads card fun r final => FollowsOrFails card.memory cmd r final.memory := by
  have follows : ∀ (succeeds : Bool) (final : Card σ), SameSession card final →
      Follows card.memory cmd succeeds final.memory := fun _ _ same =>
    Neutral.follows (by simp [Neutral, instruction]) (fun _ _ => same.1 _) same.2
  have failed : ∀ succeeds, Follows card.memory cmd succeeds card.memory := fun succeeds =>
    follows succeeds card ⟨fun _ => rfl, rfl⟩
  unfold putData requireObject
  cases DataObject.ofTag? cmd.p1p2 with
  | none => exact .inl (failed _)
  | some object =>
    refine leads_bind.mpr (leads_pure.mpr ?_)
    refine leads_bind.mpr ((leads_requireAccess card _).mono ?_)
    rintro (e | ⟨⟩) final rfl
    · exact .inl (failed _)
    · refine leads_bind.mpr (leads_ofExcept.mpr ?_)
      cases object.check cmd.data with
      | error e => exact .inl (failed _)
      | ok =>
        refine leads_bind.mpr ((sameSession_write final object cmd.data).mono ?_)
        rintro (e | ⟨⟩) final' same
        · exact .inl (follows _ _ same)
        · exact .inl (follows _ _ same)

/-! ## Limits and the life of the card -/

theorem makeFactory_leads (card : Card σ) :
    makeFactory.Leads card fun r final =>
      r = .ok () → final.memory.security = .initial := by
  unfold makeFactory
  refine leads_bind_any (fun _ _ => nofun) fun _ _ => ?_
  refine leads_bind_any (fun _ _ => nofun) fun _ _ => ?_
  refine leads_bind_any (fun _ _ => nofun) fun _ _ => ?_
  refine leads_bind_any (fun _ _ => nofun) fun _ _ => ?_
  refine leads_bind_any (fun _ _ => nofun) fun _ _ => ?_
  refine leads_bind_any (fun _ _ => nofun) fun _ _ => ?_
  refine leads_bind_any (fun _ _ => nofun) fun _ _ => ?_
  exact fun _ => rfl

theorem activate_follows (card : Card σ) (instruction : cmd.instruction = .activate) :
    activate.Leads card fun r final => FollowsOrFails card.memory cmd r final.memory := by
  have unused : ∀ condition, ¬ UsesKey cmd condition := fun _ =>
    not_usesKey (by simp [instruction])
  unfold activate
  rw [leads_bind, Kept.leads_held]
  dsimp only
  split
  · exact .inl (.failed (by simp [instruction]) rfl rfl)
  · refine leads_bind.mpr (leads_mapError.mpr ((makeFactory_leads card).mono ?_))
    rintro (e | ⟨⟩) final made
    · exact .inr ⟨e, rfl⟩
    · refine .inl (.clears (fun _ _ => ?_) unused)
      rw [made rfl]
      exact Security.holds_initial

theorem terminate_follows (card : Card σ) (instruction : cmd.instruction = .terminate) :
    terminate.Leads card fun r final => FollowsOrFails card.memory cmd r final.memory := by
  have unused : ∀ condition, ¬ UsesKey cmd condition := fun _ =>
    not_usesKey (by simp [instruction])
  unfold terminate
  rw [leads_bind, Kept.leads_held]
  dsimp only
  split
  · exact .inl (.failed (by simp [instruction]) rfl rfl)
  · refine leads_bind.mpr (leads_mapError.mpr (Kept.leads_onStore.mpr (leads_any ?_)))
    rintro (e | ⟨⟩) store
    · exact .inr ⟨e, rfl⟩
    · exact .inl (.clears (fun _ _ => Security.holds_revokeAll) unused)

theorem setLimit_leads (card : Card σ) (id : SecretId) (limit : UInt8) :
    (setLimit id limit).Leads card fun r final =>
      match r with
      | .ok () => ∃ secrets, final.memory =
          { card.memory with
            secrets
            security := if id = .pw1 ∧ limit ≠ 0 then
              (card.memory.security.setLasting false).revokePw1 else card.memory.security }
      | .error e => ∃ e', e = .storage e' := by
  unfold setLimit
  split
  · rename_i nonzero
    refine leads_bind.mpr (leads_mapError.mpr (Kept.leads_onPart.mpr (leads_any ?_)))
    rintro (e | ⟨⟩) inner
    · exact ⟨e, rfl⟩
    · by_cases pw1 : id = .pw1
      · simp only [if_pos pw1]
        refine leads_bind.mpr (leads_mapError.mpr (Kept.leads_onStore.mpr (leads_any ?_)))
        rintro (e | ⟨⟩) store
        · exact ⟨e, rfl⟩
        · exact ⟨inner.memory, by rw [if_pos ⟨pw1, nonzero⟩]⟩
      · simp only [if_neg pw1]
        exact ⟨inner.memory, by rw [if_neg fun same => pw1 same.1]⟩
  · rename_i zero
    exact ⟨card.memory.secrets, by rw [if_neg fun same => zero same.2]⟩

theorem setLimit_bind {α : Type} {card : Card σ} {id : SecretId} {limit : UInt8}
    {next : Unit → Attempt CardError (Card σ) α} {post : Except CardError α → Card σ → Prop}
    (failed : ∀ e final, post (.error (.storage e)) final)
    (rest : ∀ secrets store, (next ()).Leads
      ⟨{ card.memory with
          secrets
          security := if id = .pw1 ∧ limit ≠ 0 then
            (card.memory.security.setLasting false).revokePw1 else card.memory.security },
        store⟩ post) : (setLimit id limit >>= next).Leads card post := by
  refine leads_bind.mpr ((setLimit_leads card id limit).mono ?_)
  rintro (e | ⟨⟩) ⟨memory, store⟩ ended
  · obtain ⟨e', rfl⟩ := ended
    exact failed e' _
  · obtain ⟨secrets, rfl⟩ := ended
    exact rest secrets store

theorem setRetries_follows (card : Card σ) (instruction : cmd.instruction = .setRetries) :
    (setRetries cmd).Leads card fun r final =>
      FollowsOrFails card.memory cmd r final.memory := by
  have unused : ∀ condition, ¬ UsesKey cmd condition := fun _ =>
    not_usesKey (by simp [instruction])
  have quiet : ∀ succeeds, (∀ pw1 rc pw3, cmd.data = [pw1, rc, pw3] →
      card.memory.security.pw3 = true → pw1 = 0) →
      ∀ condition, ¬ Ends card.memory.security cmd succeeds condition := by
    intro succeeds zero condition ends
    cases ends with
    | limit _ data nonzero granted => exact nonzero (zero _ _ _ data granted)
    | use uses => exact unused _ uses
    | _ => simp_all
  unfold setRetries
  split
  · rename_i pw1 rc pw3 data
    have follows : ∀ secrets, Follows card.memory cmd true
        { card.memory with
          secrets
          security := if SecretId.pw1 = .pw1 ∧ pw1 ≠ 0 then
            (card.memory.security.setLasting false).revokePw1 else card.memory.security } := by
      intro secrets
      by_cases zero : pw1 = 0
      · refine .stays (quiet _ fun _ _ _ data' _ => ?_) (fun _ uses => absurd uses (unused _))
          (fun _ _ => by simp [zero]) rfl
        rw [data] at data'
        cases data'
        exact zero
      · refine .clears (fun condition pw1 => ?_) unused
        simp only [zero, ne_eq, not_false_eq_true, and_self, ↓reduceIte]
        exact Security.holds_revokePw1 pw1
    refine leads_require_bind (fun denied => .inl ?_) fun _ => ?_
    · refine .stays (quiet _ fun _ _ _ _ granted => ?_) nofun (fun _ _ => rfl) rfl
      cases denied.symm.trans granted
    · have failed : ∀ (e : StoreError) (final : Card σ),
          FollowsOrFails card.memory cmd (.error (.storage e)) final.memory :=
        fun e _ => .inr ⟨e, rfl⟩
      refine setLimit_bind failed fun _ _ => ?_
      refine setLimit_bind failed fun _ _ => ?_
      refine setLimit_bind failed fun secrets _ => ?_
      exact .inl (follows secrets)
  · rename_i malformed
    exact .inl (.stays (quiet _ fun _ _ _ data => absurd data (malformed _ _ _)) nofun
      (fun _ _ => rfl) rfl)

end Commands

/-! ## Every command -/

/-- Whatever the store refuses, every command follows the session, unless the store fails. -/
theorem dispatch_follows {σ : Type} [Backend σ] (env : Environment) (cmd : Command)
    (card : Card σ) :
    (dispatch env cmd).Leads card fun r final =>
      FollowsOrFails card.memory cmd r final.memory := by
  have quiet : Neutral cmd → ∀ r, FollowsOrFails card.memory cmd r card.memory :=
    fun neutral r => .inl (neutral.follows (fun _ _ => rfl) rfl)
  unfold dispatch
  split
  · exact verify_follows card ‹_›
  · exact changeReferenceData_follows card ‹_›
  · exact resetRetryCounter_follows card ‹_›
  · exact performSecurityOperation_follows card ‹_›
  · exact internalAuthenticate_follows card ‹_›
  · exact generateKeyPair_follows card ‹_›
  · rename_i instruction
    exact quiet (by simp [Neutral, instruction]) _
  · exact getData_follows card ‹_›
  · exact putData_follows card ‹_›
  · exact importKey_follows card ‹_›
  · exact terminate_follows card ‹_›
  · exact activate_follows card ‹_›
  · rename_i instruction
    exact quiet (by simp [Neutral, instruction]) _
  · exact setRetries_follows card ‹_›
  all_goals
    rename_i instruction
    exact quiet (by simp [Neutral, instruction]) _

end PgpCard.Card
