import PgpCard.Proofs.Apdu.Response
import PgpCard.Proofs.Card.Reachable
import PgpCard.Proofs.Card.Session

/-!
# Every use of a key goes back to a verification

What PW1 is verified for is not written down with the time at which it was verified, so the history
of a card says it: the list of its steps so far, each with the card that the frame found.

* `Step.Verifies`, `Step.Ends`, `Step.Uses` : what a step is for a verification of PW1, as told by
  its frame and its answer;
* `Since` : a verification lies in the history, and no step after it ended it;
* `Vouched` is the invariant: whatever memory that is not stale says to be verified was verified
  since.  `vouched_after` carries it over one step, and `since_of_history` along a whole run;
* `key_use_follows_verification` : a key is used only while a verification for that use lasts.
-/

set_option autoImplicit false

namespace PgpCard.Card

open Attempt

/-- One frame that a card processes: what the outside gives during it, and the card it finds. -/
structure Step (σ : Type) where
  env : Environment
  frame : Bytes
  card : Card σ

/-- The steps in which a card processes some frames. -/
def history {σ : Type} [Backend σ] : List (Environment × Bytes) → Card σ → List (Step σ)
  | [], _ => []
  | (env, frame) :: rest, card => ⟨env, frame, card⟩ :: history rest (process env frame card).2

variable {σ : Type} [Backend σ]

/-- The card on which a command is answered: one that is stale is reloaded first. -/
def ready? (card : Card σ) : Option (Card σ) :=
  if card.memory.stale then
    match reload card with
    | .ok () card => some (card.markStale false)
    | .error _ _ => none
  else some card

/-! ## What a step is for a verification -/

namespace Step

/-- The answer reports success. -/
def succeeds (step : Step σ) : Bool :=
  Response.reportsSuccess (process step.env step.frame step.card).1

/-- The card afterwards. -/
def after (step : Step σ) : Card σ := (process step.env step.frame step.card).2

/-- The frame makes a command whole, on the card on which it is answered. -/
def Carries (step : Step σ) (ready : Card σ) (whole : Command) : Prop :=
  ready? step.card = some ready ∧ Completes ready.memory step.frame whole

/-- A VERIFY that grants a condition. -/
def Verifies (step : Step σ) (condition : Condition) : Prop :=
  ∃ ready whole, step.Carries ready whole ∧ Grants whole condition ∧ step.succeeds = true

/-- A command that uses a key under a condition. -/
def Uses (step : Step σ) (condition : Condition) : Prop :=
  ∃ ready whole, step.Carries ready whole ∧ UsesKey whole condition ∧ step.succeeds = true

/-- The step ends a verification of PW1. -/
inductive Ends (step : Step σ) (condition : Condition) : Prop
  /-- Memory was stale and is what the store holds again. -/
  | reloads {ready : Card σ} {cmd : Command} (parses : Command.ofFrame? step.frame = .ok cmd)
    (stale : step.card.memory.stale = true) (reloaded : ready? step.card = some ready)
  | session {cmd : Command} (parses : Command.ofFrame? step.frame = .ok cmd)
    (instruction : cmd.instruction = .select ∨ cmd.instruction = .invalidate)
    (done : step.succeeds = true)
  | command {ready : Card σ} {whole : Command} (carries : step.Carries ready whole)
    (ends : Card.Ends ready.memory.security whole step.succeeds condition)

end Step

/-- A verification for a condition lies in the history, and no step after it ended it. -/
def Since (steps : List (Step σ)) (condition : Condition) : Prop :=
  ∃ before verification between, steps = before ++ verification :: between ∧
    verification.Verifies condition ∧ ∀ step ∈ between, ¬ step.Ends condition

theorem since_snoc {steps : List (Step σ)} {step : Step σ} {condition : Condition}
    (h : step.Verifies condition ∨ Since steps condition ∧ ¬ step.Ends condition) :
    Since (steps ++ [step]) condition := by
  rcases h with verifies | ⟨⟨before, verification, between, rfl, verifies, lasts⟩, goes⟩
  · exact ⟨steps, step, [], rfl, verifies, fun _ mem => by cases mem⟩
  · refine ⟨before, verification, between ++ [step], by simp, verifies, fun other mem => ?_⟩
    rcases List.mem_append.mp mem with mem | mem
    · exact lasts other mem
    · rwa [List.mem_singleton.mp mem]

/-! ## One step -/

/-- What a command makes of the session, as its response and the memory afterwards tell. -/
structure Continues (memory : Memory) (cmd : Command) (succeeds : Bool) (memory' : Memory) :
    Prop where
  verified : ∀ condition, memory'.stale = false → Verified memory' condition →
    Grants cmd condition ∧ succeeds = true ∨
      Verified memory condition ∧ ¬ Ends memory.security cmd succeeds condition
  used : ∀ condition, UsesKey cmd condition → succeeds = true → Verified memory condition

theorem UsesKey.pw1 {cmd : Command} {condition : Condition} (uses : UsesKey cmd condition) :
    condition ≠ .pw3 := by
  rintro rfl
  exact uses

theorem Follows.continues {memory memory' : Memory} {cmd : Command} {succeeds : Bool}
    (follows : Follows memory cmd succeeds memory')
    (live : memory.terminated = false ∨ cmd.instruction = .activate) :
    Continues memory cmd succeeds memory' where
  verified condition _ after := follows.verified condition after
  used condition uses done := by
    refine ⟨uses.pw1, live.resolve_right fun activate => ?_, follows.used condition uses done⟩
    have instruction := uses.instruction
    simp [activate] at instruction

/-- A terminated card gives nothing away. -/
theorem Continues.refused {memory memory' : Memory} {cmd : Command}
    (terminated : memory'.terminated = true) :
    Continues memory cmd (Response.error CardError.conditionsNotSatisfied.status).isOkay memory' := by
  rw [Response.isOkay_error]
  refine ⟨fun condition _ after => ?_, fun condition _ done => by cases done⟩
  cases terminated.symm.trans after.2.1

theorem execute_continues (env : Environment) (whole : Command) (card : Card σ) :
    Continues card.memory whole (execute env whole card).1.isOkay
      (execute env whole card).2.memory := by
  unfold execute
  split
  · rename_i instruction
    have neutral : Neutral whole := by simp [Neutral, instruction]
    split
    · rename_i terminated
      exact Continues.refused terminated
    · rename_i active
      have continues : ∀ succeeds, Continues card.memory whole succeeds card.memory := fun _ =>
        (neutral.follows (fun _ _ => rfl) rfl).continues (.inl (by simpa using active))
      cases card.memory.outgoing.next with
      | mk response outgoing => exact ⟨(continues _).verified, (continues _).used⟩
  · dsimp only
    split
    · rename_i terminated
      exact Continues.refused terminated.1
    · rename_i live
      have live : card.memory.terminated = false ∨ whole.instruction = .activate :=
        live_of_not_refused live
      have follows := dispatch_follows env whole (card.withOutgoing .empty)
      split
      · rename_i data final ended
        obtain follows | ⟨e, failed⟩ := follows.of_ok ended
        · have sent : (Outgoing.send data).1.isOkay = true := Outgoing.isOkay_next _
          dsimp only
          rw [sent]
          have continues := follows.continues live
          exact ⟨continues.verified, continues.used⟩
        · cases failed
      · rename_i e final ended
        dsimp only
        rw [Response.isOkay_error]
        obtain follows | ⟨e, failed⟩ := follows.of_error ended
        · have continues := follows.continues live
          split
          · exact ⟨fun _ fresh => (by cases fresh), continues.used⟩
          · exact ⟨continues.verified, continues.used⟩
        · cases failed
          exact ⟨fun _ fresh => (by cases fresh), fun _ _ done => by cases done⟩

/-! ## The card on which a command is answered -/

theorem ready?_of_fresh {card : Card σ} (fresh : card.memory.stale = false) :
    ready? card = some card := by
  simp [ready?, fresh]

/-- A card that cannot be reloaded keeps its memory. -/
theorem memory_of_not_ready {card : Card σ} (env : Environment) (frame : Bytes)
    (found : ready? card = none) : (process env frame card).2.memory = card.memory := by
  unfold process
  split
  · rfl
  · cases stale : card.memory.stale with
    | false => cases (ready?_of_fresh stale).symm.trans found
    | true =>
      rw [ready?, if_pos stale, reload_eq] at found
      simp only [respond, if_pos stale, reload_eq]
      cases loaded : load card.store with
      | ok kept store => simp [loaded] at found
      | error e store => rfl

/-- It stays stale. -/
theorem stale_of_not_ready {card : Card σ} (env : Environment) (frame : Bytes)
    (found : ready? card = none) : (process env frame card).2.memory.stale = true := by
  rw [memory_of_not_ready env frame found]
  cases stale : card.memory.stale with
  | false => cases (ready?_of_fresh stale).symm.trans found
  | true => rfl

/-- The card on which a command is answered is not stale, and its store is as it was. -/
theorem store_ready {card ready : Card FlakyStore} (found : ready? card = some ready) :
    ready.memory.stale = false ∧ ∃ reads, ready.store = { card.store with reads } := by
  unfold ready? at found
  split at found
  · split at found
    · rename_i reloaded
      cases found
      exact ⟨rfl, ((reload_leads card).of_ok reloaded).1⟩
    · cases found
  · rename_i fresh
    cases found
    exact ⟨by simpa using fresh, card.store.reads, rfl⟩

/-- A card that cannot be reloaded keeps what is in its store. -/
theorem store_of_not_ready {card : Card FlakyStore} (env : Environment) (frame : Bytes)
    (found : ready? card = none) :
    ∃ reads, (process env frame card).2.store = { card.store with reads } := by
  unfold ready? at found
  split at found
  · rename_i stale
    split at found
    · cases found
    · rename_i e failed ended
      have spared := (reload_leads card).of_error ended
      unfold process
      split
      · exact ⟨card.store.reads, rfl⟩
      · simp only [respond, stale, ended, ↓reduceIte]
        exact spared.1
  · cases found

/-- The card on which a command is answered is sound if the card was. -/
theorem sound_ready {trusted : Prop} {card ready : Card FlakyStore} (sound : SoundOn trusted card)
    (found : ready? card = some ready) : SoundOn trusted ready := by
  unfold ready? at found
  split at found
  · split at found
    · rename_i fresh reloaded
      obtain ⟨memory, store⟩ := fresh
      obtain ⟨⟨reads, rfl⟩, kept, loaded, rfl⟩ := (reload_leads card).of_ok reloaded
      obtain ⟨held, durable, -⟩ := sound.durable
      cases found
      exact ⟨sound.capacity, kept, durable.of_load loaded, fun _ => rfl⟩
    · cases found
  · cases found
    exact sound

theorem process_of_ready {card ready : Card σ} {frame : Bytes} {cmd : Command}
    (parses : Command.ofFrame? frame = .ok cmd) (found : ready? card = some ready)
    (env : Environment) :
    process env frame card = ((answer env cmd ready).1.toFrame, (answer env cmd ready).2) := by
  unfold ready? at found
  split at found
  · rename_i stale
    split at found
    · rename_i reloaded
      cases found
      simp only [process, parses, respond, stale, reloaded, ↓reduceIte]
    · cases found
  · rename_i fresh
    cases found
    simp only [process, parses, respond, fresh]
    rfl

/-- Nothing is verified in a new session. -/
theorem holds_adopt (kept : Persistent) (memory : Memory) (condition : Condition) :
    (memory.adopt kept).security.holds condition = false :=
  (Security.holds_setLasting _).trans Security.holds_initial

/-- Nothing is verified on a card that was just reloaded. -/
theorem holds_of_reloaded {card ready : Card σ} (stale : card.memory.stale = true)
    (found : ready? card = some ready) (condition : Condition) :
    ready.memory.security.holds condition = false := by
  rw [ready?, if_pos stale, reload_eq] at found
  cases loaded : load card.store with
  | ok kept store =>
    simp only [loaded, Option.some.injEq] at found
    subst found
    exact holds_adopt kept card.memory condition
  | error e store => simp [loaded] at found

theorem not_verified_of_reloaded {card ready : Card σ} {condition : Condition}
    (stale : card.memory.stale = true) (found : ready? card = some ready) :
    ¬ Verified ready.memory condition := by
  rintro ⟨-, -, holds⟩
  cases (holds_of_reloaded stale found condition).symm.trans holds

/-- What is verified on the card on which a command is answered was verified before. -/
theorem holds_of_ready {card ready : Card σ} {condition : Condition}
    (found : ready? card = some ready) (holds : ready.memory.security.holds condition = true) :
    card.memory.security.holds condition = true := by
  cases stale : card.memory.stale with
  | false =>
    cases (ready?_of_fresh stale).symm.trans found
    exact holds
  | true => cases (holds_of_reloaded stale found condition).symm.trans holds

/-- A frame that makes a command whole has it carried out, with nothing left in the chain. -/
theorem process_of_completes {card ready : Card σ} {frame : Bytes} {whole : Command}
    (found : ready? card = some ready) (completes : Completes ready.memory frame whole)
    (env : Environment) :
    process env frame card =
      (execute env whole ⟨{ ready.memory with chain := ready.memory.chain.reset }, ready.store⟩).map
        Response.toFrame id := by
  obtain ⟨cmd, chain, parses, ⟨not_select, not_invalidate⟩, accepts⟩ := completes
  rw [process_of_ready parses found, ← reset_of_complete accepts]
  unfold answer
  split
  · contradiction
  · contradiction
  · simp only [receive, accepts]
    rfl

/-- A frame that makes no command whole takes verifications away or leaves them. -/
theorem verified_of_not_completes {ready : Card σ} {frame : Bytes} {cmd : Command}
    (parses : Command.ofFrame? frame = .ok cmd)
    (incomplete : ∀ whole, ¬ Completes ready.memory frame whole) (env : Environment)
    {condition : Condition} (after : Verified (answer env cmd ready).2.memory condition) :
    (cmd.instruction ≠ .select ∧ cmd.instruction ≠ .invalidate) ∧
      Verified ready.memory condition := by
  unfold answer at after
  split at after
  · obtain ⟨pw1, -, holds⟩ := after
    cases (Security.holds_revokePw1 pw1).symm.trans holds
  · obtain ⟨-, -, holds⟩ := after
    cases Security.holds_revokeAll.symm.trans holds
  · rename_i not_select not_invalidate
    refine ⟨⟨not_select, not_invalidate⟩, ?_⟩
    unfold receive at after
    cases accepts : ready.memory.chain.accept cmd with
    | mk step chain =>
      rw [accepts] at after
      cases step with
      | awaiting => exact after
      | failed e => exact after
      | complete whole =>
        exact absurd ⟨cmd, chain, parses, ⟨not_select, not_invalidate⟩, accepts⟩ (incomplete whole)

theorem Step.continues {step : Step σ} {ready : Card σ} {whole : Command}
    (carries : step.Carries ready whole) :
    Continues ready.memory whole step.succeeds step.after.memory := by
  obtain ⟨found, completes⟩ := carries
  unfold succeeds after
  rw [process_of_completes found completes, Prod.map_fst, Response.reportsSuccess_toFrame]
  have continues := execute_continues step.env whole
    ⟨{ ready.memory with chain := ready.memory.chain.reset }, ready.store⟩
  exact ⟨continues.verified, continues.used⟩

/-- A frame that is no session command, on a card that is not stale, ends a verification only
through the command that it makes whole. -/
theorem Step.not_ends {step : Step σ} {ready : Card σ} {cmd : Command} {condition : Condition}
    (fresh : step.card.memory.stale = false) (parses : Command.ofFrame? step.frame = .ok cmd)
    (found : ready? step.card = some ready)
    (passes : cmd.instruction ≠ .select ∧ cmd.instruction ≠ .invalidate)
    (lasts : ∀ whole, Completes ready.memory step.frame whole →
      ¬ Card.Ends ready.memory.security whole step.succeeds condition) :
    ¬ step.Ends condition := by
  intro ends
  cases ends with
  | reloads _ stale => cases stale.symm.trans fresh
  | session parses' instruction =>
    cases parses.symm.trans parses'
    exact instruction.elim passes.1 passes.2
  | command carries ends =>
    obtain ⟨found', completes⟩ := carries
    cases found.symm.trans found'
    exact lasts _ completes ends

/-- A frame that is not a command changes nothing and ends nothing. -/
theorem Step.malformed {step : Step σ} {e : FrameError}
    (malformed : Command.ofFrame? step.frame = .error e) :
    step.after = step.card ∧ ∀ condition, ¬ step.Ends condition := by
  refine ⟨by simp only [Step.after, process, malformed], fun condition ends => ?_⟩
  cases ends with
  | reloads parses | session parses => cases malformed.symm.trans parses
  | command carries =>
    obtain ⟨-, _, _, parses, -⟩ := carries
    cases malformed.symm.trans parses

theorem Completes.unique {memory : Memory} {frame : Bytes} {whole whole' : Command}
    (completes : Completes memory frame whole) (completes' : Completes memory frame whole') :
    whole = whole' := by
  obtain ⟨_, _, parses, -, accepts⟩ := completes
  obtain ⟨_, _, parses', -, accepts'⟩ := completes'
  cases parses.symm.trans parses'
  cases accepts.symm.trans accepts'
  rfl

/-! ## Runs -/

/-- Whatever memory that is not stale says to be verified was verified since. -/
def Vouched (steps : List (Step σ)) (card : Card σ) : Prop :=
  card.memory.stale = false → ∀ condition, Verified card.memory condition → Since steps condition

theorem vouched_after {steps : List (Step σ)} {step : Step σ}
    (vouched : Vouched steps step.card) : Vouched (steps ++ [step]) step.after := by
  intro fresh condition verified
  refine since_snoc ?_
  cases parses : Command.ofFrame? step.frame with
  | error e =>
    obtain ⟨same, lasts⟩ := Step.malformed parses
    rw [same] at fresh verified
    exact .inr ⟨vouched fresh condition verified, lasts condition⟩
  | ok cmd =>
    cases found : ready? step.card with
    | none => cases (stale_of_not_ready step.env step.frame found).symm.trans fresh
    | some ready =>
      -- what is verified on the card that was found ready was verified since
      have earlier : Verified ready.memory condition →
          step.card.memory.stale = false ∧ Since steps condition := by
        intro verified
        cases stale : step.card.memory.stale with
        | true => exact absurd verified (not_verified_of_reloaded stale found)
        | false =>
          cases (ready?_of_fresh stale).symm.trans found
          exact ⟨rfl, vouched stale condition verified⟩
      by_cases complete : ∃ whole, Completes ready.memory step.frame whole
      · obtain ⟨whole, completes⟩ := complete
        have carries : step.Carries ready whole := ⟨found, completes⟩
        rcases (Step.continues carries).verified condition fresh verified with
          ⟨grants, succeeds⟩ | ⟨before, goes⟩
        · exact .inl ⟨ready, whole, carries, grants, succeeds⟩
        · obtain ⟨fresh, since⟩ := earlier before
          obtain ⟨cmd, _, parses, passes, _⟩ := completes
          refine .inr ⟨since, Step.not_ends fresh parses found passes fun other completes' => ?_⟩
          rwa [completes'.unique carries.2]
      · have incomplete : ∀ whole, ¬ Completes ready.memory step.frame whole :=
          fun whole completes => complete ⟨whole, completes⟩
        unfold Step.after at verified
        rw [process_of_ready parses found] at verified
        obtain ⟨passes, before⟩ := verified_of_not_completes parses incomplete step.env verified
        obtain ⟨fresh, since⟩ := earlier before
        refine .inr ⟨since, Step.not_ends fresh parses found passes fun whole completes => ?_⟩
        exact absurd completes (incomplete whole)

/-- A key is used only where a verification lasts. -/
theorem since_of_uses {steps : List (Step σ)} {step : Step σ} {condition : Condition}
    (vouched : Vouched steps step.card) (uses : step.Uses condition) : Since steps condition := by
  obtain ⟨ready, whole, carries, uses, succeeds⟩ := uses
  have verified := (Step.continues carries).used condition uses succeeds
  cases stale : step.card.memory.stale with
  | true => exact absurd verified (not_verified_of_reloaded stale carries.1)
  | false =>
    cases (ready?_of_fresh stale).symm.trans carries.1
    exact vouched stale condition verified

/-- In a history that goes on from some steps, every use of a key goes back to a verification. -/
theorem since_of_history {frames : List (Environment × Bytes)} {condition : Condition}
    {use : Step σ} (uses : use.Uses condition) :
    ∀ {steps : List (Step σ)} {card : Card σ} {earlier later : List (Step σ)},
      Vouched steps card → history frames card = earlier ++ use :: later →
      Since (steps ++ earlier) condition := by
  induction frames with
  | nil =>
    intro steps card earlier later _ run
    cases earlier <;> cases run
  | cons input rest ih =>
    intro steps card earlier later vouched run
    obtain ⟨env, frame⟩ := input
    cases earlier with
    | nil =>
      cases run
      rw [List.append_nil]
      exact since_of_uses vouched uses
    | cons step earlier =>
      obtain ⟨rfl, later_run⟩ := List.cons.inj run
      have stepped : Vouched (steps ++ [⟨env, frame, card⟩]) _ := vouched_after vouched
      have since := ih stepped later_run
      rwa [List.append_assoc] at since

/-- Nothing is verified on a card that was just opened. -/
theorem holds_of_openOn {profile : Profile} {store store' : σ} {memory : Memory}
    (opened : openOn profile store = .ok memory store') (condition : Condition) :
    memory.security.holds condition = false := by
  have unverified : (openOn profile).Leads store fun r _ =>
      ∀ memory, r = .ok memory → memory.security.holds condition = false := by
    rw [openOn_leads]
    refine leads_any ?_
    rintro (e | mark) middle
    · exact fun _ ended => by cases ended
    · dsimp only
      split
      · rw [reload, leads_bind, Kept.leads_onStore]
        refine leads_any ?_
        rintro (e | kept) store
        · exact fun _ ended => by cases ended
        · intro memory ended
          cases ended
          exact holds_adopt kept { profile } condition
      · refine (makeFactory_leads _).mono ?_
        rintro (e | ⟨⟩) final made
        · exact fun _ ended => by cases ended
        · intro memory ended
          cases ended
          rw [made rfl]
          exact Security.holds_initial
  exact unverified.of_ok opened memory rfl

theorem vouched_of_openOn {profile : Profile} {store store' : σ} {memory : Memory}
    (opened : openOn profile store = .ok memory store') :
    Vouched [] (⟨memory, store'⟩ : Card σ) := by
  rintro - condition ⟨-, -, holds⟩
  cases (holds_of_openOn opened condition).symm.trans holds

/-- A key is used only while a verification for that use lasts: whatever frames a card processes
after it was opened, and whatever its store refuses, a COMPUTE DIGITAL SIGNATURE, DECIPHER or
INTERNAL AUTHENTICATE that succeeds comes after a VERIFY that succeeded and granted it, and no step
in between ended that verification. -/
theorem key_use_follows_verification {profile : Profile} {store store' : σ} {memory : Memory}
    (opened : openOn profile store = .ok memory store') {frames : List (Environment × Bytes)}
    {earlier later : List (Step σ)} {use : Step σ}
    (run : history frames ⟨memory, store'⟩ = earlier ++ use :: later) {condition : Condition}
    (uses : use.Uses condition) :
    ∃ before verification between, earlier = before ++ verification :: between ∧
      verification.Verifies condition ∧ ∀ step ∈ between, ¬ step.Ends condition :=
  since_of_history uses (vouched_of_openOn opened) run

/-- What the outside gives to a card that makes a small key. -/
def smallKey : Environment where
  random _ := 0
  newKey _ := .ok
    { modulus := 9903520314285505105239212107, publicExponent := 65537
      privateExponent := 3189702104062346243054045537, p := 70368744177679, q := 140737488355333 }
  now := 0

/-- VERIFY of PW3, GENERATE ASYMMETRIC KEY PAIR and VERIFY of PW1. -/
def keyedFrames : List (Environment × Bytes) :=
  [(smallKey, [0x00, 0x20, 0x00, 0x83, 0x08] ++ Secrets.defaultPw3),
    (smallKey, [0x00, 0x47, 0x80, 0x00, 0x02, 0xB6, 0x00]), (smallKey, verifyFrame)]

/-- COMPUTE DIGITAL SIGNATURE on a new card that has a key. -/
def signingStep : Step FlakyStore where
  env := smallKey
  frame := [0x00, 0x2A, 0x9E, 0x9A]
  card := keyedFrames.foldl (fun card (env, frame) => (process env frame card).2)
    (newCard fun _ => false)

theorem key_use_follows_verification_signing :
    signingStep.Uses .pw1Signing ∧ ∃ before verification between,
      history keyedFrames (newCard fun _ => false) = before ++ verification :: between ∧
      verification.Verifies .pw1Signing ∧ ∀ step ∈ between, ¬ step.Ends .pw1Signing := by
  have fresh : signingStep.card.memory.stale = false := by decide +kernel
  have unchained : signingStep.card.memory.chain = .idle CommandChain.cardCapacity := by
    decide +kernel
  have opened : openOn .default ({ inner := .empty } : FlakyStore) =
      .ok (newCard fun _ => false).memory (newCard fun _ => false).store := rfl
  have run : history (keyedFrames ++ [(signingStep.env, signingStep.frame)])
      (newCard fun _ => false) =
        history keyedFrames (newCard fun _ => false) ++ [signingStep] := rfl
  have uses : signingStep.Uses .pw1Signing := by
    refine ⟨signingStep.card, ⟨0x00, 0x2A, 0x9E, 0x9A, [], none⟩, ⟨ready?_of_fresh fresh, ?_⟩,
      ⟨rfl, rfl⟩, by decide +kernel⟩
    refine ⟨_, .idle CommandChain.cardCapacity, rfl, by decide, ?_⟩
    rw [unchained]
    rfl
  exact ⟨uses, key_use_follows_verification opened run uses⟩

end PgpCard.Card
