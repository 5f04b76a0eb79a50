import PgpCard.Proofs.Card.Counting
import PgpCard.Proofs.Card.Guessing
import PgpCard.Proofs.Card.Sealing

/-!
# Signatures are accounted for

The counter in the store accounts for every signature that a card returns, whatever the store
refuses and however often the card loses power.

* `signatures`, `finish` : how many signatures a stretch returns, and the situation at its end;
* `Settled` : what holds all along the life of a card.  `Settled.run` is its step, and
  `Settled.finish` carries it along;
* `Occurrence.accounts` : an event that gives the card no other key raises the counter for each
  signature, and `signatures_le` adds this up along a stretch;
* `Accounted` : what holds of the counter in a situation;
* `signatures_accounted` : it holds in every situation that comes about.
-/

set_option autoImplicit false

namespace PgpCard.Card

open JournalEntry

/-! ## Stretches -/

/-- The event returns a signature of COMPUTE DIGITAL SIGNATURE. -/
def Occurrence.signs : Occurrence → Bool
  | ⟨.frame env frame, .on card⟩ => Step.signs ⟨env, frame, card⟩
  | _ => false

/-- How many signatures a stretch returns. -/
def signatures (os : List Occurrence) : Nat := os.countP Occurrence.signs

/-- The situation at the end of a stretch. -/
def finish : List Event → Situation → Situation
  | [], situation => situation
  | event :: rest, situation => finish rest (event.run situation).2

/-! ## The invariant -/

/-- A situation is sound, a store that is still to be set up has counted nothing, and nothing is
verified on a terminated card. -/
structure Settled (situation : Situation) : Prop where
  sound : Sound False situation
  blank : Unmarked situation.store → situation.store.counter = 0
  closed : ∀ card, situation = .on card → card.memory.Sealed

/-- A setup that does not come to its end counts nothing. -/
theorem counter_of_begun {store store' : MemoryStore} (begun : Begun store store')
    (zero : store.counter = 0) : store'.counter = 0 := by
  rcases begun .counter with same | fresh
  · rw [MemoryStore.counter_congr same, zero]
  · have value : Bytes.toNat (Bytes.ofNat KeySlots.counterLength 0) = 0 := toNat_counter (by decide)
    rw [MemoryStore.counter_of_at? fresh, value]

theorem settled_of_holds {store : MemoryStore} {kept : Persistent} (holds : Holds store kept) :
    Settled (.off store) where
  sound := .inr ⟨kept, holds, False.elim⟩
  blank unmarked := absurd unmarked holds.not_unmarked
  closed _ same := by cases same

/-- An empty store, or one with everything that survives on a card. -/
def Begins (store : MemoryStore) : Prop :=
  store = .empty ∨ ∃ kept, Holds store kept

theorem Begins.settled {store : MemoryStore} (begins : Begins store) : Settled (.off store) := by
  rcases begins with rfl | ⟨kept, holds⟩
  · exact ⟨.inl rfl, fun _ => rfl, fun _ same => by cases same⟩
  · exact settled_of_holds holds

namespace Settled

variable {situation : Situation}

theorem run_frame {card : Card FlakyStore} (settled : Settled (.on card)) (env : Environment)
    (frame : Bytes) : Settled (.on (process env frame card).2) := by
  have sound : SoundOn False card := settled.sound
  have after : SoundOn False (process env frame card).2 := sound_process False.elim frame sound
  refine ⟨after, fun unmarked => absurd unmarked after.not_unmarked, ?_⟩
  rintro _ ⟨⟩
  exact sealed_process sound (settled.closed card rfl) env frame

/-- A loss of power leaves the counter as it was; where the store is still to be set up, it has
counted nothing. -/
theorem restart_counter (settled : Settled situation) (profile : Profile)
    (readFails writeFails : Nat → Bool) {after : Situation}
    (ran : (Event.run (.restart profile readFails writeFails) situation).2 = after) :
    (Unmarked after.store → after.store.counter = 0) ∧
      situation.store.counter ≤ after.store.counter := by
  subst ran
  apply Card.run_restart fun ran => (Unmarked ran.2.store → ran.2.store.counter = 0) ∧
    situation.store.counter ≤ ran.2.store.counter
  by_cases unmarked : Unmarked situation.store
  · have zero := settled.blank unmarked
    have least : ∀ counter, situation.store.counter ≤ counter := by
      rw [zero]
      exact Nat.zero_le
    refine (openOn_of_unmarked profile (by exact unmarked)).mono ?_
    rintro (e | memory) final ends
    · exact ⟨fun _ => counter_of_begun ends.2.2 zero, least _⟩
    · exact ⟨fun unmarked' => absurd unmarked' ends.2.holds.not_unmarked, least _⟩
  · obtain ⟨kept, holds⟩ := settled.sound.holds unmarked
    refine (openOn_of_holds profile (by exact holds)).mono ?_
    rintro r final ⟨unchanged, -⟩
    have unchanged : final.inner = situation.store := unchanged
    have same : (Unmarked final.inner → final.inner.counter = 0) ∧
        situation.store.counter ≤ final.inner.counter := by
      rw [unchanged]
      exact ⟨fun unmarked' => absurd unmarked' unmarked, le_rfl⟩
    cases r with
    | ok | error => exact same

theorem run_restart (settled : Settled situation) (profile : Profile)
    (readFails writeFails : Nat → Bool) :
    Settled (Event.run (.restart profile readFails writeFails) situation).2 := by
  refine ⟨sound_run _ settled.sound, (settled.restart_counter profile _ _ rfl).1, ?_⟩
  intro card same
  simp only [Event.run] at same
  split at same
  · rename_i opened
    cases same
    exact fun _ condition => holds_of_openOn opened condition
  · cases same

theorem run (settled : Settled situation) (event : Event) : Settled (event.run situation).2 := by
  cases event with
  | restart profile readFails writeFails =>
    exact settled.run_restart profile readFails writeFails
  | frame env frame =>
    cases situation with
    | off store => exact settled
    | on card => exact settled.run_frame env frame

theorem finish {events : List Event} :
    ∀ {situation : Situation}, Settled situation → Settled (Card.finish events situation) := by
  induction events with
  | nil => exact id
  | cons event rest ih => exact fun settled => ih (settled.run event)

/-- Three bytes do not count further. -/
theorem counter_le (settled : Settled situation) :
    situation.store.counter ≤ KeySlots.counterMax := by
  by_cases unmarked : Unmarked situation.store
  · rw [settled.blank unmarked]
    exact Nat.zero_le _
  · obtain ⟨kept, holds⟩ := settled.sound.holds unmarked
    exact holds.counter_le

end Settled

/-! ## One event -/

/-- A frame that returns a signature has raised the counter and used the key. -/
theorem grows_of_signs {step : Step FlakyStore} (sound : SoundOn False step.card)
    (signs : step.signs = true) :
    step.card.store.inner.counter < KeySlots.counterMax ∧
      Grows step.card.store (KeySlots.countedEntries step.card.store.inner.counter)
        step.after.store := by
  obtain ⟨ready, whole, carries, uses, done⟩ := Step.signs_eq_true.mp signs
  have active : ready.memory.terminated = false :=
    (Step.active_of_succeeds carries done).resolve_right (by simp [uses.1])
  obtain ⟨r, memory, entries, computes, grows, replied, -⟩ := Step.computes carries uses active
  have okay : r.isOk = true := by
    rw [← reportsSuccess_reply, ← replied]
    exact done
  obtain ⟨room, rfl⟩ := computes.of_ok okay
  rw [counter_begun sound carries.1]
  exact ⟨room, grows⟩

/-- An event that gives the card no other key raises the counter for each signature. -/
theorem Occurrence.accounts {o : Occurrence} (settled : Settled o.situation)
    (keeps : ¬ o.Carries RenewsKey) :
    o.situation.store.counter + (if o.signs then 1 else 0) ≤ o.after.store.counter := by
  obtain ⟨event, situation⟩ := o
  cases event with
  | restart profile readFails writeFails =>
    exact (settled.restart_counter profile readFails writeFails rfl).2
  | frame env frame =>
    cases situation with
    | off store => exact le_rfl
    | on card =>
      have sound : SoundOn False card := settled.sound
      change card.store.inner.counter + (if Step.signs ⟨env, frame, card⟩ then 1 else 0) ≤
        (process env frame card).2.store.inner.counter
      cases signs : Step.signs (⟨env, frame, card⟩ : Step FlakyStore) with
      | true =>
        obtain ⟨room, grows⟩ := grows_of_signs sound signs
        exact (counter_of_counted grows room).ge
      | false =>
        obtain ⟨entries, grows, -, counts⟩ := frame_counts sound env frame rfl
        exact counts.le grows keeps

/-- A signature that is returned was counted and took one use of the key. -/
theorem Occurrence.trail_of_signs {o : Occurrence} (settled : Settled o.situation)
    (signs : o.signs = true) :
    o.trail = KeySlots.countedEntries o.situation.store.counter := by
  obtain ⟨event, situation⟩ := o
  cases event with
  | restart profile readFails writeFails => cases signs
  | frame env frame =>
    cases situation with
    | off store => cases signs
    | on card =>
      have sound : SoundOn False card := settled.sound
      have signs : Step.signs ⟨env, frame, card⟩ = true := signs
      exact (grows_of_signs sound signs).2.since

/-- The signature key is used right after the counter was written, raised by one. -/
theorem Occurrence.counted {o : Occurrence} (settled : Settled o.situation)
    {earlier later : List JournalEntry}
    (order : o.trail = earlier ++ .audit (.keyUsed .signature) :: later) :
    o.situation.store.counter < KeySlots.counterMax ∧
      earlier = [.blob KeySlots.counterName
        (Bytes.ofNat KeySlots.counterLength (o.situation.store.counter + 1))] ∧ later = [] := by
  obtain ⟨event, situation⟩ := o
  cases event with
  | restart profile readFails writeFails =>
    have member : .audit (.keyUsed .signature) ∈
        (Event.run (.restart profile readFails writeFails) situation).1 := by
      change (Event.run (.restart profile readFails writeFails) situation).1 = _ at order
      rw [order]
      simp
    exact (restart_emits _ member).elim
  | frame env frame =>
    cases situation with
    | off store =>
      have nothing : [] = earlier ++ .audit (.keyUsed .signature) :: later := order
      simp at nothing
    | on card =>
      obtain ⟨entries, -, trail, counts⟩ := frame_counts settled.sound env frame rfl
      rw [trail] at order
      exact counts.order order

/-! ## A whole stretch -/

/-- In a stretch that gives the card no other key, the counter grows at least by the number of
signatures. -/
theorem signatures_le {events : List Event} :
    ∀ {situation : Situation}, Settled situation →
      (∀ o ∈ trace events situation, ¬ o.Carries RenewsKey) →
      situation.store.counter + signatures (trace events situation) ≤
        (finish events situation).store.counter := by
  induction events with
  | nil => exact fun _ _ => le_rfl
  | cons event rest ih =>
    intro situation settled keeps
    have first : situation.store.counter +
        (if Occurrence.signs ⟨event, situation⟩ then 1 else 0) ≤
          (event.run situation).2.store.counter :=
      Occurrence.accounts settled (keeps _ List.mem_cons_self)
    have later := ih (settled.run event) fun o member => keeps o (List.mem_cons_of_mem _ member)
    calc
      situation.store.counter + signatures (trace (event :: rest) situation) =
          situation.store.counter + (if Occurrence.signs ⟨event, situation⟩ then 1 else 0) +
            signatures (trace rest (event.run situation).2) := by
        rw [trace, signatures, List.countP_cons, signatures]
        omega
      _ ≤ (event.run situation).2.store.counter +
            signatures (trace rest (event.run situation).2) := by omega
      _ ≤ (finish (event :: rest) situation).store.counter := later

/-! ## Counting -/

/-- A COMPUTE DIGITAL SIGNATURE that could be counted no further changes nothing that lasts. -/
theorem saturated {card ready : Card FlakyStore} {env : Environment} {frame : Bytes}
    {whole : Command} (settled : Settled (.on card))
    (carries : Step.Carries ⟨env, frame, card⟩ ready whole) (uses : UsesKey whole .pw1Signing)
    (verified : ready.memory.security.holds .pw1Signing = true)
    (present : ready.memory.keys.signature.key ≠ none)
    (short : whole.data.length ≤ Rsa.maxMessageLength)
    (full : card.store.inner.counter = KeySlots.counterMax) {after : Card FlakyStore}
    (left : (process env frame card).2 = after) :
    (process env frame card).1 = (Response.error .stateUnchanged).toFrame ∧
      (∀ place, after.store.inner.at? place = card.store.inner.at? place) ∧
      after.memory.persistent = card.memory.persistent ∧
      after.memory.security = card.memory.security ∧
      after.memory.stale = card.memory.stale := by
  subst left
  have sound : SoundOn False card := settled.sound
  -- what is verified does not outlast a reload
  have fresh : card.memory.stale = false := by
    cases stale : card.memory.stale with
    | false => rfl
    | true => cases (holds_of_reloaded stale carries.1 _).symm.trans verified
  cases (ready?_of_fresh fresh).symm.trans carries.1
  have active : card.memory.terminated = false := by
    cases terminated : card.memory.terminated with
    | false => rfl
    | true => cases (settled.closed card rfl terminated _).symm.trans verified
  have counted : card.memory.keys.counter = KeySlots.counterMax := by
    rw [← full, (sound.fresh fresh).holds.counter_eq]
    rfl
  obtain ⟨r, memory, entries, computes, grows, replied, concluded⟩ :=
    Step.computes carries uses active
  change (process env frame card).2.memory = conclude r memory at concluded
  cases computes with
  | denied denied => cases denied.symm.trans verified
  | spends spends =>
    cases spends with
    | keyless absent => exact absurd absent present
    | long long => exact absurd short (Nat.not_le_of_lt long)
    | refused room | counted _ _ room => exact absurd counted (Nat.ne_of_lt room)
    | full =>
      rw [concluded]
      exact ⟨replied, grows.content, rfl, rfl, Bool.or_false _⟩

/-- After an answer that comes before a signature is counted the counter is as it was. -/
theorem frame_early {card : Card FlakyStore} (sound : SoundOn False card) {env : Environment}
    {frame : Bytes} {status : StatusWord}
    (keeps : ¬ Occurrence.Carries ⟨.frame env frame, .on card⟩ RenewsKey)
    (answered : Response.statusOf? (process env frame card).1 = some status)
    (early : status ∈ earlyStatuses) :
    (process env frame card).2.store.inner.counter = card.store.inner.counter := by
  obtain ⟨entries, grows, -, counts⟩ := frame_counts sound env frame rfl
  cases counts with
  | spares only => exact counter_of_spared grows keeps only
  | raises signs =>
    obtain ⟨event, situation, carries, uses⟩ := signs
    cases event
    cases situation
    exact Step.counter_of_early carries uses answered early

/-- The counter accounts for what a card does in a situation and after it. -/
structure Accounted (situation : Situation) : Prop where
  /-- In a stretch that gives the card no other key, the counter grows at least by the number of
  signatures that are returned; so it never decreases. -/
  grows : ∀ events, (∀ o ∈ trace events situation, ¬ o.Carries RenewsKey) →
    situation.store.counter + signatures (trace events situation) ≤
      (finish events situation).store.counter
  bounded : situation.store.counter ≤ KeySlots.counterMax
  /-- A signature that is returned was counted and took one use of the key. -/
  signed : ∀ event, Occurrence.signs ⟨event, situation⟩ = true →
    Occurrence.trail ⟨event, situation⟩ = KeySlots.countedEntries situation.store.counter
  /-- The signature key is used at most once during an event, right after the counter was written,
  raised by one. -/
  paid : ∀ event earlier later,
    Occurrence.trail ⟨event, situation⟩ = earlier ++ .audit (.keyUsed .signature) :: later →
      situation.store.counter < KeySlots.counterMax ∧
        earlier = [.blob KeySlots.counterName
          (Bytes.ofNat KeySlots.counterLength (situation.store.counter + 1))] ∧ later = []
  /-- A COMPUTE DIGITAL SIGNATURE that could be counted no further changes nothing that lasts, and
  nothing of what is verified. -/
  saturated : ∀ card, situation = .on card → situation.store.counter = KeySlots.counterMax →
    ∀ env frame ready whole, Step.Carries ⟨env, frame, card⟩ ready whole →
      UsesKey whole .pw1Signing → ready.memory.security.holds .pw1Signing = true →
      ready.memory.keys.signature.key ≠ none → whole.data.length ≤ Rsa.maxMessageLength →
        ∀ after, (process env frame card).2 = after →
          (process env frame card).1 = (Response.error .stateUnchanged).toFrame ∧
          (∀ place, after.store.inner.at? place = card.store.inner.at? place) ∧
          after.memory.persistent = card.memory.persistent ∧
          after.memory.security = card.memory.security ∧
          after.memory.stale = card.memory.stale
  /-- A frame that is answered like a COMPUTE DIGITAL SIGNATURE that was not counted leaves the
  counter as it was. -/
  uncounted : ∀ card, situation = .on card → ∀ env frame status,
    ¬ Occurrence.Carries ⟨.frame env frame, situation⟩ RenewsKey →
      Response.statusOf? (process env frame card).1 = some status → status ∈ earlyStatuses →
        (process env frame card).2.store.inner.counter = situation.store.counter

/-- The counter accounts for every signature in whatever becomes of a card, whether its store is
empty at first or complete, whatever the store refuses and however often the card loses power. -/
theorem signatures_accounted {store : MemoryStore} (begins : Begins store) (before : List Event) :
    Accounted (finish before (.off store)) := by
  have settled : Settled (finish before (.off store)) := begins.settled.finish
  generalize finish before (.off store) = situation at settled
  constructor
  case grows => exact fun events keeps => signatures_le settled keeps
  case bounded => exact settled.counter_le
  case signed => exact fun event signs => Occurrence.trail_of_signs settled signs
  case paid => exact fun event earlier later order => Occurrence.counted settled order
  case saturated =>
    rintro card rfl full env frame ready whole carries uses verified present short after left
    exact saturated settled carries uses verified present short full left
  case uncounted =>
    rintro card rfl env frame status keeps answered early
    exact frame_early settled.sound keeps answered early

/-- The store of a card with a signature key that can make one more signature. -/
def lastStore : MemoryStore :=
  (signedCard fun _ => false).store.inner.putBlob KeySlots.counterName
    (Bytes.ofNat KeySlots.counterLength (KeySlots.counterMax - 1))

/-- The card is switched on, PW1 is verified and a signature is asked for; after a loss of power all
of it is done again. -/
def lastSignatures : List Event :=
  let opens : Event := .restart .default (fun _ => false) fun _ => false
  let signs : List Event := [.frame smallKey verifyFrame, .frame smallKey signingStep.frame]
  [opens] ++ signs ++ [opens] ++ signs

theorem begins_lastStore : Begins lastStore := by
  have reached : Reached Environment.SoundKeys (.on (signedCard fun _ => false)) :=
    reached_signedCard rfl
  have holds := holds_of_reached reached (by decide +kernel)
  have small : KeySlots.counterMax - 1 ≤ KeySlots.counterMax := by decide
  exact .inr ⟨_, holds.writeCounter small⟩

theorem signatures_accounted_last :
    Begins lastStore ∧ lastStore.counter = KeySlots.counterMax - 1 ∧
      signatures (trace lastSignatures (.off lastStore)) = 1 ∧
      (finish lastSignatures (.off lastStore)).store.counter = KeySlots.counterMax ∧
      Accounted (finish lastSignatures (.off lastStore)) := by
  refine ⟨begins_lastStore, ?_, ?_, ?_, signatures_accounted begins_lastStore _⟩
  · decide +kernel
  · decide +kernel
  · decide +kernel

end PgpCard.Card
