import PgpCard.Proofs.Card.Resting
import PgpCard.Proofs.Card.Stale

/-!
# What a verification vouches for

* `LastVerified` : the verification in a history that granted a condition last, and the steps since;
* `Vouches` is the invariant: what memory that is not stale says to be verified was verified, and
  the record of the secret accepts now what was given then, unless PW3 was reset by SET RETRIES
  since.  `vouches_after` is its step, and `vouches_of_history` carries it along a run;
* `verified_for_present_value` : so it is for every card that was opened, with what the commands
  that give PW1 or PW3 a new value leave of what was verified;
* `verified_for_former_value` : SET RETRIES leaves PW3 verified for a value that it no longer has.
-/

set_option autoImplicit false

namespace PgpCard.Card

variable {condition : Condition}

theorem run_singleton (env : Environment) (frame : Bytes) (card : Card FlakyStore) :
    (run [(env, frame)] card).2 = (process env frame card).2 := rfl

/-- The last verification that granted a condition: what it was given, and the steps since. -/
def LastVerified (steps : List (Step FlakyStore)) (condition : Condition) (candidate : Bytes)
    (between : List (Step FlakyStore)) : Prop :=
  ∃ before verification ready whole, steps = before ++ verification :: between ∧
    verification.Carries ready whole ∧ Grants whole condition ∧ whole.data = candidate ∧
    verification.succeeds = true ∧ ∀ step ∈ between, ¬ step.Verifies condition

/-- The record of a secret accepts what was last verified, or PW3 has its first value again since
a SET RETRIES. -/
def Accepted (record : SecretRecord) (condition : Condition) (candidate : Bytes)
    (between : List (Step FlakyStore)) : Prop :=
  record.accepts candidate = true ∨
    condition = .pw3 ∧ (∃ step ∈ between, step.ResetsAdmin) ∧
      record.accepts Secrets.defaultPw3 = true

/-- Whatever memory that is not stale says to be verified was verified, and what was given then is
accepted now. -/
def Vouches (steps : List (Step FlakyStore)) (card : Card FlakyStore) : Prop :=
  card.memory.stale = false → ∀ condition, card.memory.security.holds condition = true →
    ∃ candidate between, LastVerified steps condition candidate between ∧
      Accepted (card.memory.secrets.record condition.secret) condition candidate between

theorem LastVerified.snoc {steps : List (Step FlakyStore)} {candidate : Bytes}
    {between : List (Step FlakyStore)} (h : LastVerified steps condition candidate between)
    {step : Step FlakyStore} (quiet : ¬ step.Verifies condition) :
    LastVerified (steps ++ [step]) condition candidate (between ++ [step]) := by
  obtain ⟨before, verification, ready, whole, rfl, carries, grants, given, done, last⟩ := h
  refine ⟨before, verification, ready, whole, by simp, carries, grants, given, done, ?_⟩
  intro other member
  rcases List.mem_append.mp member with member | member
  · exact last other member
  · rwa [List.mem_singleton.mp member]

/-- What one step preserves. -/
theorem vouches_after {steps : List (Step FlakyStore)} {step : Step FlakyStore}
    (sound : SoundOn False step.card) (vouches : Vouches steps step.card) :
    Vouches (steps ++ [step]) step.after := by
  intro fresh condition holds
  by_cases verifies : step.Verifies condition
  · obtain ⟨ready, whole, carries, grants, done⟩ := verifies
    refine ⟨whole.data, [], ?_, .inl (Step.accepts sound carries grants done)⟩
    exact ⟨steps, step, ready, whole, rfl, carries, grants, rfl, done, List.forall_mem_nil _⟩
  · obtain ⟨fresh, held, value⟩ := (Step.rests sound fresh holds).resolve_left verifies
    obtain ⟨candidate, between, last, accepted⟩ := vouches fresh condition held
    refine ⟨candidate, between ++ [step], last.snoc verifies, ?_⟩
    rcases value with same | ⟨admin, resets, limit, first⟩
    · rcases accepted with accepts | ⟨admin, ⟨reset, member, resets⟩, accepts⟩
      · exact .inl ((same.accepts _).trans accepts)
      · exact .inr ⟨admin, ⟨reset, List.mem_append_left _ member, resets⟩,
          (same.accepts _).trans accepts⟩
    · refine .inr ⟨admin, ⟨step, by simp, resets⟩, ?_⟩
      subst admin
      change (step.after.memory.secrets.record .pw3).accepts _ = true
      rw [first]
      exact Secrets.accepts_factoryRecord limit

theorem vouches_of_history {frames : List (Environment × Bytes)} :
    ∀ {steps : List (Step FlakyStore)} {card : Card FlakyStore}, SoundOn False card →
      Vouches steps card → Vouches (steps ++ history frames card) (run frames card).2 := by
  induction frames with
  | nil =>
    intro steps card _ vouches
    rwa [history, List.append_nil]
  | cons input rest ih =>
    intro steps card sound vouches
    obtain ⟨env, frame⟩ := input
    have stepped : Vouches (steps ++ [⟨env, frame, card⟩]) _ := vouches_after sound vouches
    have later := ih (sound_process False.elim frame sound) stepped
    rwa [List.append_assoc] at later

/-- Nothing is verified on a card that was just opened. -/
theorem vouches_of_openOn {profile : Profile} {store store' : FlakyStore} {memory : Memory}
    (opened : openOn profile store = .ok memory store') : Vouches [] ⟨memory, store'⟩ := by
  intro _ condition holds
  cases (holds_of_openOn opened condition).symm.trans holds

/-! ## What a verification vouches for -/

/-- Whatever a card has gone through, and whatever its store refused since it was opened: what
memory that is not stale says to be verified was verified, and the candidate given last is accepted
by the record that the secret has now, unless PW3 was reset by SET RETRIES since and has its first
value.  For a command that gives PW1 or PW3 a new value takes what was verified of it, with that
exception. -/
theorem verified_for_present_value {outside : Environment → Prop} {store store' : FlakyStore}
    {profile : Profile} {memory : Memory} (before : Reached outside (.off store.inner))
    (opened : openOn profile store = .ok memory store') (frames : List (Environment × Bytes)) :
    Vouches (history frames ⟨memory, store'⟩) (run frames ⟨memory, store'⟩).2 ∧
      ∀ step ∈ history frames (⟨memory, store'⟩ : Card FlakyStore), ∀ ready whole condition,
        step.Carries ready whole → step.succeeds = true → GivesValue whole condition.secret →
          step.after.memory.security.holds condition =
            decide (condition = .pw3 ∧ whole.instruction = .setRetries) := by
  have sound : SoundOn False ⟨memory, store'⟩ :=
    sound_of_reached False.elim (before.opens opened)
  constructor
  · have vouches : Vouches ([] ++ history frames ⟨memory, store'⟩)
        (run frames ⟨memory, store'⟩).2 :=
      vouches_of_history sound (vouches_of_openOn opened)
    rwa [List.nil_append] at vouches
  · intro step _ ready whole condition carries done gives
    exact Step.holds_of_givesValue carries done gives

theorem verified_for_present_value_signing :
    verifiedCard.memory.security.holds .pw1Signing = true ∧ ∃ candidate between,
      LastVerified (history [(.ofSeed [] 0, verifyFrame)] (newCard fun _ => false)) .pw1Signing
          candidate between ∧
        Accepted verifiedCard.memory.secrets.pw1 .pw1Signing candidate between := by
  have opened : openOn .default ({ inner := .empty } : FlakyStore) =
      .ok (newCard fun _ => false).memory (newCard fun _ => false).store := rfl
  have fresh : verifiedCard.memory.stale = false := by decide +kernel
  have holds : verifiedCard.memory.security.holds .pw1Signing = true := by decide +kernel
  have empty : Reached (fun _ => True) (.off .empty) := .blank
  have vouches : Vouches (history [(.ofSeed [] 0, verifyFrame)] (newCard fun _ => false))
      verifiedCard := by
    unfold verifiedCard
    rw [← run_singleton]
    exact (verified_for_present_value empty opened _).1
  exact ⟨holds, vouches fresh .pw1Signing holds⟩

/-- A value for PW3 that is not the first one. -/
def laterPw3 : Bytes := Bytes.ascii "87654321"

/-- A card that processes a frame and draws nothing. -/
def stepOn (frame : Bytes) (card : Card FlakyStore) : Step FlakyStore := ⟨.ofSeed [] 0, frame, card⟩

theorem reached_stepOn {frame : Bytes} {card : Card FlakyStore}
    (before : Reached Environment.SoundKeys (.on card)) :
    Reached Environment.SoundKeys (.on (stepOn frame card).after) :=
  before.processes (Environment.soundKeys_ofRandom _ _) frame

/-- CHANGE REFERENCE DATA of PW3 on a new card. -/
def adminChange : Step FlakyStore :=
  stepOn ([0x00, 0x24, 0x00, 0x83, 0x10] ++ Secrets.defaultPw3 ++ laterPw3) (newCard fun _ => false)

/-- VERIFY of the new value. -/
def adminVerification : Step FlakyStore :=
  stepOn ([0x00, 0x20, 0x00, 0x83, 0x08] ++ laterPw3) adminChange.after

/-- SET RETRIES for PW3. -/
def adminReset : Step FlakyStore :=
  stepOn [0x00, 0xF2, 0x00, 0x00, 0x03, 0x00, 0x00, 0x03] adminVerification.after

/-- PW3 stays verified after SET RETRIES has reset it, for a value that it no longer has. -/
theorem verified_for_former_value :
    Reached Environment.SoundKeys (.on adminReset.after) ∧
      adminReset.after.memory.stale = false ∧
      adminReset.after.memory.security.holds .pw3 = true ∧
      LastVerified [adminChange, adminVerification, adminReset] .pw3 laterPw3 [adminReset] ∧
      (adminReset.after.memory.secrets.record .pw3).accepts laterPw3 = false := by
  have reached : Reached Environment.SoundKeys (.on adminReset.after) := by
    unfold adminReset adminVerification adminChange
    exact reached_stepOn (reached_stepOn (reached_stepOn (reached_newCard _)))
  have verifies : adminVerification.card.memory.stale = false ∧
      adminVerification.card.memory.chain.pending = none ∧
      adminVerification.succeeds = true := by decide +kernel
  have resets : adminReset.card.memory.stale = false ∧
      adminReset.card.memory.chain.pending = none := by decide +kernel
  have after : adminReset.after.memory.stale = false ∧
      adminReset.after.memory.security.holds .pw3 = true ∧
      (adminReset.after.memory.secrets.record .pw3).accepts laterPw3 = false := by decide +kernel
  have carries : adminVerification.Carries adminVerification.card
      ⟨0x00, 0x20, 0x00, 0x83, laterPw3, none⟩ :=
    Step.carries_of_idle rfl rfl (by decide) (ready?_of_fresh verifies.1) verifies.2.1
  have carries' : adminReset.Carries adminReset.card
      ⟨0x00, 0xF2, 0x00, 0x00, [0x00, 0x00, 0x03], none⟩ :=
    Step.carries_of_idle rfl rfl (by decide) (ready?_of_fresh resets.1) resets.2
  have quiet : ∀ step ∈ [adminReset], ¬ step.Verifies .pw3 := by
    rintro step member ⟨ready, whole, ⟨found, completes⟩, grants, -⟩
    rw [List.mem_singleton.mp member] at found completes
    rw [Option.some.inj (found.symm.trans carries'.1)] at completes
    rw [completes.unique carries'.2] at grants
    cases grants.1
  exact ⟨reached, after.1, after.2.1,
    ⟨[adminChange], adminVerification, _, _, rfl, carries, ⟨rfl, rfl⟩, rfl, verifies.2.2, quiet⟩,
    after.2.2⟩

end PgpCard.Card
