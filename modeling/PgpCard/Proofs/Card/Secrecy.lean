import PgpCard.Proofs.Card.Dropping
import PgpCard.Proofs.Card.Lookalike
import PgpCard.Proofs.Store.Scheduled

/-!
# Private objects do not leak

Two cards that differ in what the third and the fourth private object hold give the same answers to
all frames, as long as neither object is read by one who may read it.

* `Step.Reveals` : a step in which one of the two objects may be read;
* `process_alike` : one frame that reveals nothing is answered alike and leaves cards that look
  alike, and `run_alike` says so of any number of frames;
* `private_objects_hidden` : the same for two cards that can come about.
-/

set_option autoImplicit false

namespace PgpCard

namespace Card

open Attempt

/-! ## Frames -/

section Frames

variable {σ : Type} [Backend σ] {stores : σ → σ → Prop} {card card' : Card σ} {cmd : Command}

/-- A step that answers a GET DATA which reveals one of the two objects. -/
def Step.Reveals (step : Step σ) : Prop :=
  ∃ ready whole, step.Carries ready whole ∧ Card.Reveals ready.memory whole

/-- The same response is given, and the cards look alike afterwards. -/
structure AnswersAlike (stores : σ → σ → Prop) (ended ended' : Response × Card σ) : Prop where
  response : ended'.1 = ended.1
  card : Lookalike stores ended.2 ended'.2

section Session

omit [Backend σ]

/-- A change of the session that does not look at the data objects. -/
theorem Lookalike.adjust (alike : Lookalike stores card card') (change : Memory → Memory)
    (blind : ∀ memory objects, change { memory with objects } = { change memory with objects }) :
    Lookalike stores ⟨change card.memory, card.store⟩ ⟨change card'.memory, card'.store⟩ :=
  ⟨alike.memory.map change blind, alike.store⟩

theorem Lookalike.withOutgoing (alike : Lookalike stores card card') (outgoing : Outgoing) :
    Lookalike stores (card.withOutgoing outgoing) (card'.withOutgoing outgoing) :=
  alike.adjust (fun memory => { memory with outgoing }) fun _ _ => rfl

theorem Lookalike.markStale (alike : Lookalike stores card card') (stale : Bool) :
    Lookalike stores (card.markStale stale) (card'.markStale stale) :=
  alike.adjust (fun memory => { memory with stale }) fun _ _ => rfl

end Session

variable (discreet : Discreet stores)

include discreet

theorem execute_alike (alike : Lookalike stores card card') (hidden : ¬ Reveals card.memory cmd)
    (env : Environment) : AnswersAlike stores (execute env cmd card) (execute env cmd card') := by
  -- the flag and the response in progress are no part of the data objects
  have terminated : card'.memory.terminated = card.memory.terminated :=
    alike.memory.congr Memory.terminated fun _ _ => rfl
  have pending : card'.memory.outgoing = card.memory.outgoing :=
    alike.memory.congr Memory.outgoing fun _ _ => rfl
  unfold execute
  by_cases more : cmd.instruction = .getResponse
  · rw [if_pos more, if_pos more, terminated, pending]
    split
    · exact ⟨rfl, alike⟩
    · exact ⟨rfl, alike.withOutgoing _⟩
  · rw [if_neg more, if_neg more]
    dsimp only
    have begun : Lookalike stores (card.withOutgoing .empty) (card'.withOutgoing .empty) :=
      alike.withOutgoing .empty
    have terminated : (card'.withOutgoing .empty).memory.terminated =
        (card.withOutgoing .empty).memory.terminated := terminated
    rw [terminated]
    split
    · exact ⟨rfl, begun⟩
    · have ends := dispatch_matches discreet begun hidden env
      generalize dispatch env cmd (card.withOutgoing .empty) = result,
        dispatch env cmd (card'.withOutgoing .empty) = result' at ends
      cases ends with
      | ok value state =>
        cases value
        exact ⟨rfl, state.withOutgoing _⟩
      | error e state =>
        refine ⟨rfl, ?_⟩
        dsimp only
        split
        · exact state.markStale true
        · exact state

theorem receive_alike (alike : Lookalike stores card card')
    (hidden : ∀ whole chain, card.memory.chain.accept cmd = (.complete whole, chain) →
      ¬ Reveals card.memory whole)
    (env : Environment) : AnswersAlike stores (receive env cmd card) (receive env cmd card') := by
  have pending : card'.memory.chain = card.memory.chain :=
    alike.memory.congr Memory.chain fun _ _ => rfl
  unfold receive
  rw [pending]
  cases accepts : card.memory.chain.accept cmd with
  | mk step chain =>
    have chained : Lookalike stores { card with memory := { card.memory with chain } }
        { card' with memory := { card'.memory with chain } } :=
      alike.adjust (fun memory => { memory with chain }) fun _ _ => rfl
    cases step with
    | awaiting => exact ⟨rfl, chained⟩
    | failed e => exact ⟨rfl, chained.withOutgoing .empty⟩
    | complete whole => exact execute_alike discreet chained (hidden whole chain accepts) env

theorem answer_alike (alike : Lookalike stores card card')
    (hidden : cmd.instruction ≠ .select ∧ cmd.instruction ≠ .invalidate → ∀ whole chain,
      card.memory.chain.accept cmd = (.complete whole, chain) → ¬ Reveals card.memory whole)
    (env : Environment) : AnswersAlike stores (answer env cmd card) (answer env cmd card') := by
  unfold answer
  split
  · refine ⟨rfl, ?_⟩
    exact alike.adjust (fun memory => { memory with
      security := memory.security.revokePw1
      chain := memory.chain.reset
      outgoing := .empty }) fun _ _ => rfl
  · refine ⟨rfl, ?_⟩
    exact alike.adjust (fun memory => { memory with security := memory.security.revokeAll })
      fun _ _ => rfl
  · rename_i not_select not_invalidate
    exact receive_alike discreet alike (hidden ⟨not_select, not_invalidate⟩) env

/-- A stale card is reloaded first, on both sides or on neither. -/
theorem respond_alike (alike : Lookalike stores card card')
    (hidden : ∀ ready, ready? card = some ready →
      cmd.instruction ≠ .select ∧ cmd.instruction ≠ .invalidate → ∀ whole chain,
        ready.memory.chain.accept cmd = (.complete whole, chain) → ¬ Reveals ready.memory whole)
    (env : Environment) : AnswersAlike stores (respond env cmd card) (respond env cmd card') := by
  have stale : card'.memory.stale = card.memory.stale :=
    alike.memory.congr Memory.stale fun _ _ => rfl
  unfold respond
  unfold ready? at hidden
  rw [stale]
  split
  · rename_i reloads
    rw [if_pos reloads] at hidden
    have ends := reload_steady discreet card card' alike
    generalize reload card = result, reload card' = result' at ends hidden
    cases ends with
    | ok value state => exact answer_alike discreet (state.markStale false) (hidden _ rfl) env
    | error e state => exact ⟨rfl, state⟩
  · rename_i fresh
    rw [if_neg fresh] at hidden
    exact answer_alike discreet alike (hidden _ rfl) env

theorem process_alike {frame : Bytes} {env : Environment} (alike : Lookalike stores card card')
    (hidden : ¬ Step.Reveals ⟨env, frame, card⟩) :
    (process env frame card').1 = (process env frame card).1 ∧
      Lookalike stores (process env frame card).2 (process env frame card').2 := by
  cases parses : Command.ofFrame? frame with
  | error e =>
    simp only [process, parses]
    exact ⟨trivial, alike⟩
  | ok cmd =>
    have responds : AnswersAlike stores (respond env cmd card) (respond env cmd card') := by
      apply respond_alike discreet alike
      intro ready found passes whole chain accepts reveals
      exact hidden ⟨ready, whole, ⟨found, cmd, chain, parses, passes, accepts⟩, reveals⟩
    simp only [process, parses]
    exact ⟨congrArg Response.toFrame responds.response, responds.card⟩

theorem run_alike (frames : List (Environment × Bytes)) (alike : Lookalike stores card card')
    (hidden : ∀ step ∈ history frames card, ¬ step.Reveals) :
    (run frames card').1 = (run frames card).1 ∧
      Lookalike stores (run frames card).2 (run frames card').2 :=
  run_related (fun _ _ alike hidden => process_alike discreet alike hidden) frames alike hidden

end Frames

/-! ## Private objects -/

/-- Two cards are the same but for what private objects 0103 and 0104 hold: in memory, in the store
outside the record of the data objects, and in the reads and writes that the store will refuse. -/
structure Twins (card other : Card FlakyStore) : Prop where
  memory : ∃ private3 private4, other.memory =
    { card.memory with objects := { card.memory.objects with private3, private4 } }
  store : ∀ place, place ≠ .blob DataObjects.recordName →
    other.store.inner.at? place = card.store.inner.at? place
  reads : ∀ n, other.store.readFails (other.store.reads + n) =
    card.store.readFails (card.store.reads + n)
  writes : ∀ n, other.store.writeFails (other.store.writes + n) =
    card.store.writeFails (card.store.writes + n)

/-- What a store holds of the data objects is a record. -/
theorem Holds.readsObjects {store : MemoryStore} {kept : Persistent} (holds : Holds store kept) :
    ∃ text, store.blobs.find? DataObjects.recordName = some text ∧
      Record.decode? text = some kept.objects := by
  obtain ⟨content, found, denotes⟩ := holds .objects
  cases content with
  | inl text => exact ⟨text, MemoryStore.find?_blobs_of_at? found, denotes⟩
  | inr value => cases denotes

/-- Private objects do not leak.  Two cards that are the same but for what private objects 0103 and
0104 hold give the same answers to all frames, whatever the store refuses, as long as no GET DATA of
0103 comes while PW1 is verified for other uses and none of 0104 while PW3 is verified. -/
theorem private_objects_hidden {outside outside' : Environment → Prop}
    {card other : Card FlakyStore}
    (reached : Reached outside (.on card)) (reached' : Reached outside' (.on other))
    (fresh : card.memory.stale = false) (twins : Twins card other)
    (frames : List (Environment × Bytes))
    (hidden : ∀ step ∈ history frames card, ¬ step.Reveals) :
    (run frames other).1 = (run frames card).1 := by
  obtain ⟨private3, private4, same⟩ := twins.memory
  have fresh' : other.memory.stale = false := by
    rw [same]
    exact fresh
  -- what is in memory is what the store holds, so the texts in the two stores read alike as well
  have sound : SoundOn False card := sound_of_reached False.elim reached
  have sound' : SoundOn False other := sound_of_reached False.elim reached'
  obtain ⟨text, found, reads⟩ := (sound.fresh fresh).holds.readsObjects
  obtain ⟨text', found', reads'⟩ := (sound'.fresh fresh').holds.readsObjects
  have objects : card.memory.objects.LooksLike other.memory.objects := by
    rw [same]
    exact ⟨private3, private4, rfl⟩
  have stored : DataObjects.ReadsLike text text' :=
    ⟨card.memory.objects, other.memory.objects, reads, reads', objects⟩
  have below : card.store.inner.HoldsLike other.store.inner := by
    refine ⟨twins.store, ?_⟩
    rw [found, found']
    exact .some stored
  have alike : Lookalike (FaultyStore.Scheduled MemoryStore.HoldsLike) card other :=
    ⟨⟨_, ⟨private3, private4, rfl⟩, same⟩, twins.reads, twins.writes, below⟩
  have discreet := FaultyStore.discreet_scheduled MemoryStore.discreet_holdsLike
  exact (run_alike discreet frames alike hidden).1

/-! ### Two such cards -/

/-- On a card on which neither is verified, if it can be reloaded, nothing is revealed. -/
theorem not_reveals {σ : Type} [Backend σ] {step : Step σ}
    (unverified : (ready? step.card).all (fun ready =>
      !ready.memory.security.holds .pw1Other && !ready.memory.security.holds .pw3) = true) :
    ¬ step.Reveals := by
  rintro ⟨ready, whole, ⟨found, -⟩, -, verified⟩
  rw [found, Option.all_some, Bool.and_eq_true, Bool.not_eq_true', Bool.not_eq_true'] at unverified
  rcases verified with ⟨-, pw1⟩ | ⟨-, pw3⟩
  · cases unverified.1.symm.trans pw1
  · cases unverified.2.symm.trans pw3

/-- A store refuses what it was to refuse, whatever frames there are. -/
theorem schedule_run (frames : List (Environment × Bytes)) (card : Card FlakyStore) :
    (run frames card).2.store.readFails = card.store.readFails ∧
      (run frames card).2.store.writeFails = card.store.writeFails := by
  induction frames generalizing card with
  | nil => exact ⟨rfl, rfl⟩
  | cons input rest ih =>
    obtain ⟨env, frame⟩ := input
    obtain ⟨entries, grows, -⟩ := process_logs
      (fun cmd memory => (dispatch_trails env cmd memory).mono fun _ _ _ _ => trivial)
      (fun _ _ => trivial) frame card
    obtain ⟨reads, writes⟩ := ih (process env frame card).2
    exact ⟨reads.trans grows.schedule.1, writes.trans grows.schedule.2⟩

/-- A card with a value for object 0104 and with nothing verified.  Its store refuses the next
write. -/
def confidingCard (value : Bytes) : Card FlakyStore :=
  lived (· == 15) [adminFrame, [0x00, 0xDA, 0x01, 0x04, UInt8.ofNat value.length] ++ value,
    invalidateFrame]

/-- VERIFY of PW1, which the store cuts short, then GET DATA of object 0104 and of the cardholder
data. -/
def pryingFrames : List (Environment × Bytes) :=
  [(.ofSeed [] 0, verifyFrame), (.ofSeed [] 0, [0x00, 0xCA, 0x01, 0x04, 0x00]),
    (.ofSeed [] 0, [0x00, 0xCA, 0x00, 0x65, 0x00])]

theorem reached_confidingCard (value : Bytes) :
    Reached (fun _ => True) (.on (confidingCard value)) := by
  have opened : openOn .default ({ inner := .empty, writeFails := (· == 15) } : FlakyStore) =
      .ok (newCard (· == 15)).memory (newCard (· == 15)).store := rfl
  unfold confidingCard lived
  exact reached_run (fun _ _ => trivial) (.opens .blank opened)

theorem schedule_confidingCard (value : Bytes) :
    (confidingCard value).store.readFails = (newCard (· == 15)).store.readFails ∧
      (confidingCard value).store.writeFails = (newCard (· == 15)).store.writeFails := by
  unfold confidingCard lived
  exact schedule_run _ _

theorem twins_confidingCard : Twins (confidingCard [0x41]) (confidingCard [0x42, 0x43]) := by
  have memory : (confidingCard [0x42, 0x43]).memory = { (confidingCard [0x41]).memory with
      objects := { (confidingCard [0x41]).memory.objects with
        private3 := [], private4 := [0x42, 0x43] } } := by decide +kernel
  have written : (confidingCard [0x42, 0x43]).store.inner =
      (confidingCard [0x41]).store.inner.putBlob DataObjects.recordName
        (Record.encode (confidingCard [0x42, 0x43]).memory.objects) := by decide +kernel
  have counts : (confidingCard [0x42, 0x43]).store.reads = (confidingCard [0x41]).store.reads ∧
      (confidingCard [0x42, 0x43]).store.writes = (confidingCard [0x41]).store.writes := by
    decide +kernel
  obtain ⟨reads, writes⟩ := counts
  refine ⟨⟨_, _, memory⟩, fun place apart => ?_, fun n => ?_, fun n => ?_⟩
  · rw [written, MemoryStore.at?_putBlob, if_neg apart]
  · rw [reads, (schedule_confidingCard _).1, (schedule_confidingCard [0x41]).1]
  · rw [writes, (schedule_confidingCard _).2, (schedule_confidingCard [0x41]).2]

theorem private_objects_hidden_reload :
    (confidingCard [0x41]).memory.objects.private4 = [0x41] ∧
      (confidingCard [0x42, 0x43]).memory.objects.private4 = [0x42, 0x43] ∧
      (run pryingFrames (confidingCard [0x42, 0x43])).1 =
        (run pryingFrames (confidingCard [0x41])).1 := by
  have found : (confidingCard [0x41]).memory.stale = false ∧
      (confidingCard [0x41]).memory.objects.private4 = [0x41] ∧
      (confidingCard [0x42, 0x43]).memory.objects.private4 = [0x42, 0x43] := by decide +kernel
  obtain ⟨fresh, value, value'⟩ := found
  have hidden : ∀ step ∈ history pryingFrames (confidingCard [0x41]), ¬ step.Reveals := by
    intro step member
    apply not_reveals
    simp only [pryingFrames, history, List.mem_cons, List.not_mem_nil, or_false] at member
    rcases member with rfl | rfl | rfl
    · decide +kernel
    · decide +kernel
    · decide +kernel
  exact ⟨value, value', private_objects_hidden (reached_confidingCard _) (reached_confidingCard _)
    fresh twins_confidingCard pryingFrames hidden⟩

end Card

end PgpCard
