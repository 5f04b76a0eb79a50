import PgpCard.Proofs.Apdu.Response
import PgpCard.Proofs.Card.Reachable
import PgpCard.Proofs.Card.Session

/-!
# What a failed command leaves

A command that fails has changed nothing that survives, apart from what it pays before it knows
whether it will succeed: an attempt at the secret it tries, and the count of a signature.

* `Secrets.Spends` : no more than the attempts left of one secret differ;
* `Spares` : no more than those, and the count of a signature, differ in all that is kept;
* `Executes.spares`, `Answers.spares` : so it is after each command that fails, unless the store
  refused one of the later writes of a command that makes several (`WritesInParts`);
* `failed_frame_spares` : so it is for each frame that a card can receive, in the state in which
  the card goes on.
-/

set_option autoImplicit false

namespace PgpCard

namespace Secrets

/-- Nothing has changed but the attempts left of one secret. -/
def Spends (secrets : Secrets) (id : SecretId) (secrets' : Secrets) : Prop :=
  ∃ record, (secrets.record id).SameValue record ∧ secrets' = secrets.put id record

variable {secrets held durable : Secrets} {id : SecretId} {e : CardError}

theorem Spends.refl (secrets : Secrets) (id : SecretId) : secrets.Spends id secrets :=
  ⟨secrets.record id, .refl _, (put_record secrets id).symm⟩

theorem Spends.record (h : secrets.Spends id durable) (other : SecretId) :
    durable.record other = secrets.record other ∨
      (secrets.record other).SameValue (durable.record other) ∧ other = id := by
  obtain ⟨record, same, rfl⟩ := h
  rw [record_put]
  split
  · rename_i is_tried
    subst is_tried
    exact .inr ⟨same, rfl⟩
  · exact .inl rfl

theorem Tries.spends {record record' : SecretRecord} {candidate : Bytes}
    {r : Except CardError Bool} (id : SecretId)
    (h : Tries (secrets.record id) candidate r record record') :
    secrets.Spends id (secrets.put id record') :=
  ⟨record', h.sameValue.2, rfl⟩

theorem Verifies.spends {candidate : Bytes} {r : Except CardError Unit}
    (h : Verifies secrets id candidate r held durable) : secrets.Spends id durable := by
  cases h with
  | inadmissible => exact .refl _ _
  | tried _ tries => exact tries.spends id

/-- A change that fails may have tried the secret, but has given it no new value. -/
theorem Changes.spends {old new : Bytes} (h : Changes secrets id old new (.error e) held durable) :
    secrets.Spends id durable := by
  generalize result : (.error e : Except CardError Unit) = r at h
  cases h with
  | malformed => exact .refl _ _
  | failed tries | mismatch tries => exact tries.spends id
  | matched _ tries replaces =>
    cases replaces with
    | done => cases result
    | refused => exact tries.spends id

/-- A reset of PW1 that fails has changed nothing in the store. -/
theorem ResetsPw1.unchanged {value : Bytes}
    (h : ResetsPw1 secrets value (.error e) held durable) : durable = secrets := by
  generalize result : (.error e : Except CardError Unit) = r at h
  cases h with
  | inadmissible => rfl
  | admissible _ replaces =>
    cases replaces with
    | done => cases result
    | refused => rfl

theorem ResetsWithCode.spends {code value : Bytes}
    (h : ResetsWithCode secrets code value (.error e) held durable) :
    secrets.Spends .rc durable := by
  cases h with
  | refused => exact .refl _ _
  | failed tries | mismatch _ tries => exact tries.spends .rc
  | matched _ tries resets =>
    rw [resets.unchanged]
    exact tries.spends .rc

end Secrets

namespace Card

/-- The secret that a command tries. -/
def triedSecret? (cmd : Command) : Option SecretId :=
  match cmd.instruction with
  | .verify => (verifyTarget? cmd.p2).map (·.1)
  | .changeReferenceData => changeTarget? cmd.p2
  | .resetRetryCounter => if cmd.p1 = 0x00 ∧ cmd.p2 = 0x81 then some .rc else none
  | _ => none

/-- A command that writes several cells one after another: a new key with its counter, three
secrets with their limits, or all that a new card keeps. -/
def WritesInParts (cmd : Command) : Prop :=
  cmd.instruction = .generateKeyPair ∧ cmd.p1 = 0x80 ∨ cmd.instruction = .setRetries ∨
    cmd.instruction = .activate

/-- Everything is kept as before, apart from the attempts left of a secret that a completed command
tried, and from the count of a signature that a completed command asked for. -/
structure Spares (completed : Command → Prop) (old kept : Persistent) : Prop where
  objects : kept.objects = old.objects
  terminated : kept.terminated = old.terminated
  lasting : kept.lasting = old.lasting
  secret : ∀ id, kept.secrets.record id = old.secrets.record id ∨
    (old.secrets.record id).SameValue (kept.secrets.record id) ∧
      ∃ cmd, completed cmd ∧ triedSecret? cmd = some id
  keys : kept.keys = old.keys ∨
    kept.keys = { old.keys with counter := old.keys.counter + 1 } ∧
      ∃ cmd, completed cmd ∧ UsesKey cmd .pw1Signing

namespace Spares

variable {completed : Command → Prop} {old kept : Persistent}

theorem refl (completed : Command → Prop) (old : Persistent) : Spares completed old old where
  objects := rfl
  terminated := rfl
  lasting := rfl
  secret _ := .inl rfl
  keys := .inl rfl

theorem withSecrets {cmd : Command} (done : completed cmd) {id : SecretId}
    (tried : triedSecret? cmd = some id) {secrets : Secrets}
    (spends : old.secrets.Spends id secrets) : Spares completed old { old with secrets } where
  objects := rfl
  terminated := rfl
  lasting := rfl
  secret other := by
    rcases spends.record other with same | ⟨same, rfl⟩
    · exact .inl same
    · exact .inr ⟨same, cmd, done, tried⟩
  keys := .inl rfl

theorem withKeys {cmd : Command} (done : completed cmd) (signs : UsesKey cmd .pw1Signing)
    {keys : KeySlots}
    (counted : keys = old.keys ∨ keys = { old.keys with counter := old.keys.counter + 1 }) :
    Spares completed old { old with keys } where
  objects := rfl
  terminated := rfl
  lasting := rfl
  secret _ := .inl rfl
  keys := counted.imp id fun raised => ⟨raised, cmd, done, signs⟩

/-- Keys can be rebuilt as before. -/
theorem coherent (h : Spares completed old kept) (before : old.keys.Coherent) :
    kept.keys.Coherent := by
  rcases h.keys with same | ⟨raised, -⟩
  · rw [same]
    exact before
  · rw [raised]
    exact before.withCounter _

end Spares

/-! ## Commands -/

variable {memory memory' : Memory} {kept' : Persistent} {e : CardError}

/-- New limits fail only where the store does. -/
theorem SetsLimit.isStorage {id : SecretId} {limit : UInt8}
    (h : SetsLimit memory id limit (.error e) memory' kept') : e.isStorage = true := by
  cases h <;> rfl

theorem SetsRetries.isStorage {pw1 rc pw3 : UInt8}
    (h : SetsRetries memory pw1 rc pw3 (.error e) memory' kept') : e.isStorage = true := by
  generalize result : (.error e : Except CardError Bytes) = r at h
  cases h with
  | first failed | second _ failed =>
    cases result
    exact failed.isStorage
  | @third r _ _ _ _ _ _ last =>
    cases r with
    | ok => cases result
    | error =>
      cases result
      exact last.isStorage

/-- A write of an object that fails has changed nothing in the store. -/
theorem Writes.unchanged {value : Bytes} {object : DataObject}
    (h : Writes memory value object (.error e) memory' kept') : kept' = memory.persistent := by
  generalize result : (.error e : Except CardError Unit) = r at h
  cases h with
  | status saved | stored _ saved =>
    cases saved with
    | done => cases result
    | refused => rfl
  | fingerprint commits | caFingerprint commits | generationTime commits =>
    cases commits with
    | done => cases result
    | refused => rfl
  | resettingCode replaces =>
    cases replaces with
    | done => cases result
    | refused => rfl
  | unknown => rfl

/-- A command that fails leaves what the store holds as it was, apart from what it paid, unless
the store refused a later write of a command that makes several. -/
theorem Executes.spares {env : Environment} {cmd : Command} {completed : Command → Prop}
    (h : Executes env cmd memory (.error e) memory' kept') (done : completed cmd) :
    WritesInParts cmd ∧ e.isStorage = true ∨ Spares completed memory.persistent kept' := by
  generalize result : (.error e : Except CardError Bytes) = r at h
  cases h with
  | leaves | uses => exact .inr (.refl _ _)
  | @verifies id condition r held durable instruction target verifies =>
    have tried : triedSecret? cmd = some id := by simp [triedSecret?, instruction, target]
    exact .inr (.withSecrets done tried verifies.spends)
  | @changes id r held durable instruction target changes =>
    cases r with
    | ok => cases result
    | error =>
      have tried : triedSecret? cmd = some id := by simp [triedSecret?, instruction, target]
      exact .inr (.withSecrets done tried changes.spends)
  | @resetsWithCode r held durable instruction p1 p2 resets =>
    cases r with
    | ok => cases result
    | error =>
      have tried : triedSecret? cmd = some .rc := by simp [triedSecret?, instruction, p1, p2]
      exact .inr (.withSecrets done tried resets.spends)
  | @resetsPw1 r held durable _ _ _ _ resets =>
    cases r with
    | ok => cases result
    | error =>
      rw [resets.unchanged]
      exact .inr (.refl _ _)
  | setsRetries instruction _ _ sets =>
    cases result
    exact .inl ⟨.inr (.inl instruction), sets.isStorage⟩
  | signs instruction mode _ signs =>
    exact .inr (.withKeys done ⟨instruction, mode⟩ signs.counter)
  | generates instruction p1 _ _ generates =>
    cases generates with
    | failed | refused => exact .inr (.refl _ _)
    | uncounted =>
      cases result
      exact .inl ⟨.inl ⟨instruction, p1⟩, rfl⟩
    | done => cases result
  | imports _ _ imports =>
    cases imports with
    | failed | refused => exact .inr (.refl _ _)
    | done => cases result
  | @puts _ _ r _ _ _ _ _ _ _ writes =>
    cases r with
    | ok => cases result
    | error =>
      rw [writes.unchanged]
      exact .inr (.refl _ _)
  | terminates _ _ saved =>
    cases saved with
    | done => cases result
    | refused => exact .inr (.refl _ _)
  | @activates r _ _ instruction _ _ =>
    cases r with
    | ok => cases result
    | error =>
      cases result
      exact .inl ⟨.inr (.inr instruction), rfl⟩

/-! ## Frames -/

theorem Answers.spares {env : Environment} {cmd : Command} {frame : Bytes} {response : Response}
    (h : Answers env cmd memory response memory' kept')
    (parses : Command.ofFrame? frame = .ok cmd) (failed : response.isOkay = false) :
    (∃ whole, Completes memory frame whole ∧ WritesInParts whole ∧ memory'.stale = true) ∨
      Spares (Completes memory frame) memory.persistent kept' := by
  cases h with
  | @executes chain whole r _ _ passes accepts live executes =>
    have completes : Completes memory frame whole := ⟨cmd, chain, parses, passes, accepts⟩
    cases r with
    | ok data =>
      rw [reply, Outgoing.send, Outgoing.isOkay_next] at failed
      cases failed
    | error e =>
      rcases executes.spares completes with ⟨parts, kind⟩ | spares
      · exact .inl ⟨whole, completes, parts, by simp [conclude, kind]⟩
      · exact .inr spares
  | _ => exact .inr (.refl _ _)

/-- A frame that is not answered with success leaves everything that survives as it was, apart from
the attempts left of the secret that was tried, and, for COMPUTE DIGITAL SIGNATURE, the counter
raised by one: the store holds all this, memory agrees with it unless it is stale, and a reload
reads it, as far as the outside makes no key that is not accepted again.  The exceptions are
GENERATE ASYMMETRIC KEY PAIR for a new key, SET RETRIES and ACTIVATE, and they are exceptions only
where the store has refused a write. -/
theorem failed_frame_spares {outside : Environment → Prop} {card : Card FlakyStore}
    (reached : Reached outside (.on card)) (fresh : card.memory.stale = false)
    (env : Environment) (frame : Bytes)
    (failed : Response.reportsSuccess (process env frame card).1 = false) :
    (∃ whole, Completes card.memory frame whole ∧ WritesInParts whole ∧
        (process env frame card).2.memory.stale = true) ∨
      ∃ kept, Spares (Completes card.memory frame) card.memory.persistent kept ∧
        Holds (process env frame card).2.store.inner kept ∧
        ((process env frame card).2.memory.stale = false →
          (process env frame card).2.memory.persistent = kept) ∧
        ((∀ env, outside env → env.SoundKeys) → load (process env frame card).2.store.inner =
          .ok kept (process env frame card).2.store.inner) := by
  have sound : SoundOn (∀ env, outside env → env.SoundKeys) card :=
    sound_of_reached (fun trust => trust) reached
  have durable := sound.fresh fresh
  -- what a reload reads is what the store holds, since keys can be rebuilt as before
  have reloads : ∀ {store : MemoryStore} {kept : Persistent}, Holds store kept →
      Spares (Completes card.memory frame) card.memory.persistent kept →
      (∀ env, outside env → env.SoundKeys) → load store = .ok kept store :=
    fun holds spares trust => load_of_holds holds (spares.coherent (durable.coherent trust))
  unfold process at failed ⊢
  split at failed
  · have spares := Spares.refl (Completes card.memory frame) card.memory.persistent
    exact .inr ⟨_, spares, durable.holds, fun _ => rfl, reloads durable.holds spares⟩
  · rename_i cmd parses
    rw [respond, if_neg (by simp [fresh])] at failed ⊢
    dsimp only at failed ⊢
    rw [Response.reportsSuccess_toFrame] at failed
    obtain ⟨kept, holds, answers⟩ := answer_answers env cmd durable.holds
    rcases answers.spares parses failed with excepted | spares
    · exact .inl excepted
    · exact .inr ⟨kept, spares, holds, fun settled => (answers.settled settled).symm,
        reloads holds spares⟩

/-- CHANGE REFERENCE DATA of PW1 with a wrong present value. -/
def wrongChangeFrame : Bytes :=
  [0x00, 0x24, 0x00, 0x81, 0x0C] ++ List.replicate 6 0x30 ++ Secrets.defaultPw1

theorem failed_frame_spares_change :
    verifiedCard.memory.stale = false ∧
      Response.reportsSuccess (process (.ofSeed [] 0) wrongChangeFrame verifiedCard).1 = false ∧
      ∃ kept, Spares (Completes verifiedCard.memory wrongChangeFrame)
          verifiedCard.memory.persistent kept ∧
        load (process (.ofSeed [] 0) wrongChangeFrame verifiedCard).2.store.inner =
          .ok kept (process (.ofSeed [] 0) wrongChangeFrame verifiedCard).2.store.inner := by
  have fresh : verifiedCard.memory.stale = false := by decide +kernel
  have failed : Response.reportsSuccess
      (process (.ofSeed [] 0) wrongChangeFrame verifiedCard).1 = false := by decide +kernel
  have settled : (process (.ofSeed [] 0) wrongChangeFrame verifiedCard).2.memory.stale = false := by
    decide +kernel
  refine ⟨fresh, failed, ?_⟩
  rcases failed_frame_spares reached_verifiedCard fresh (.ofSeed [] 0) wrongChangeFrame failed with
    ⟨whole, -, -, stale⟩ | ⟨kept, spares, -, -, reloads⟩
  · cases settled.symm.trans stale
  · exact ⟨kept, spares, reloads fun _ made => made⟩

end Card

end PgpCard
