import PgpCard.Proofs.Card.Stretch
import PgpCard.Proofs.Card.Unpaid

/-!
# Guessing is bounded

A wrong guess costs an attempt, and the store has noted that before anything is compared; so
neither a write that is refused nor a loss of power gives the attempt back.

* `Occurrence.Replenishes` : the event gives attempts to a secret;
* `Finds` : the record of a secret with which the next attempt will find it.
  `Occurrence.spends` is the step: an event that gives no attempts takes one away for each
  comparison, and `comparisons_le` adds this up along a stretch;
* `Guarded` : what holds of guessing a secret in a situation;
* `guessing_bounded` : it holds in every situation that comes about.
-/

set_option autoImplicit false

namespace PgpCard.Card

/-- The event gives attempts to a secret. -/
inductive Occurrence.Replenishes (o : Occurrence) (id : SecretId) : Prop
  /-- The record was written again after a candidate was compared. -/
  | restores {earlier later : List JournalEntry} {data : Bytes}
    (trail : o.trail = earlier ++ .audit (.compared id) :: later)
    (written : .blob id.recordName data ∈ later)
  /-- A command that refills the secret has written its record. -/
  | refills {env : Environment} {frame : Bytes} {card ready : Card FlakyStore} {whole : Command}
    {data : Bytes} (event : o.event = .frame env frame) (situation : o.situation = .on card)
    (carries : Step.Carries ⟨env, frame, card⟩ ready whole) (refills : Refills whole id)
    (written : .blob id.recordName data ∈ o.trail)

/-- A VERIFY that writes nothing after its first write gives no attempts, and neither does a loss of
power. -/
theorem Occurrence.not_replenishes {o : Occurrence} {id : SecretId}
    (verifies : ∀ env frame, o.event = .frame env frame →
      ∃ cmd, Command.ofFrame? frame = .ok cmd ∧ cmd.instruction = .verify)
    (once : ∀ entry ∈ o.trail.tail, entry = .audit (.compared id)) : ¬ o.Replenishes id := by
  rintro (⟨trail, written⟩ | ⟨event, -, ⟨-, completes⟩, refills, -⟩)
  · rename_i earlier later data
    have after : .blob id.recordName data ∈ o.trail.tail := by
      rw [trail]
      cases earlier <;> simp [written]
    cases once _ after
  · obtain ⟨cmd, parses, verify⟩ := verifies _ _ event
    obtain ⟨_, chain, parses', -, accepts⟩ := completes
    cases parses.symm.trans parses'
    have same := (CommandChain.ins_of_complete accepts).2
    rw [Refills, Command.instruction, same, ← Command.instruction, verify] at refills
    exact refills

/-! ## The invariant -/

/-- The record of a secret with which the next attempt will find it: the one in the store, or that
of a new card if the store is still to be set up. -/
def Finds (id : SecretId) (record : SecretRecord) (situation : Situation) : Prop :=
  (∃ kept, Holds situation.store kept ∧ kept.secrets.record id = record) ∨
    Unmarked situation.store ∧ record = Secrets.factory.record id

variable {id : SecretId}

theorem finds_of_holds {situation : Situation} {kept : Persistent} {record : SecretRecord}
    (holds : Holds situation.store kept) (found : situation.store.secret? id = some record) :
    Finds id record situation := by
  refine .inl ⟨kept, holds, ?_⟩
  rw [holds.secret? id, Option.some.injEq] at found
  exact found

/-- On a card that is switched on, it is the record in the store. -/
theorem Finds.secret? {record : SecretRecord} {card : Card FlakyStore}
    (finds : Finds id record (.on card)) (sound : SoundOn False card) :
    card.store.inner.secret? id = some record := by
  rcases finds with ⟨kept, holds, rfl⟩ | ⟨unmarked, -⟩
  · exact holds.secret? id
  · obtain ⟨kept, durable, -⟩ := sound.durable
    exact absurd unmarked durable.holds.not_unmarked

/-! ## One event -/

/-- Where a command does not refill a secret, it neither compares anything with it nor writes its
record, or it pays for an attempt. -/
theorem Trails.quiet_or_paid {whole : Command} {secrets : Secrets} {entries : List JournalEntry}
    (trails : Trails whole secrets entries)
    (refilled : ∀ data, .blob id.recordName data ∈ entries → ¬ Refills whole id) :
    ((∀ data, .blob id.recordName data ∉ entries) ∧ comparisons id entries = 0) ∨
      secrets.Paid id (fun other => other = id ∨ Refills whole other) entries := by
  rcases trails with only | ⟨other, -, paid⟩
  · refine .inl ⟨fun data written => ?_, comparisons_of_writesOnly only⟩
    exact refilled data written (only _ written id rfl)
  · by_cases same : other = id
    · subst same
      exact .inr paid
    · have compared : comparisons id entries = if other = id then 1 else 0 :=
        comparisons_of_paid paid
      rw [if_neg same] at compared
      refine .inl ⟨fun data written => ?_, compared⟩
      obtain ⟨-, rest, rfl, only⟩ := paid
      rcases List.mem_cons.mp written with first | later
      · have names : id.recordName = other.recordName := by injection first
        exact same (SecretId.recordName_inj names).symm
      · have later : .blob id.recordName data ∈ rest := by simpa using later
        rcases only _ later id rfl with own | refills
        · exact same own.symm
        · exact refilled data written refills

/-- A frame that gives a secret no attempts takes one away if it has a candidate compared. -/
theorem frame_spends {card : Card FlakyStore} (sound : SoundOn False card) {record : SecretRecord}
    (stored : card.store.inner.secret? id = some record) {env : Environment} {frame : Bytes}
    (keeps : ¬ (⟨.frame env frame, .on card⟩ : Occurrence).Replenishes id) :
    ∃ record', (process env frame card).2.store.inner.secret? id = some record' ∧
      comparisons id (⟨.frame env frame, .on card⟩ : Occurrence).trail + record'.remaining.toNat ≤
        record.remaining.toNat := by
  obtain ⟨entries, grows, trail, trails⟩ := frame_trail sound env frame
  -- entries that neither write the record nor compare anything with it leave it as it was
  have stays : (∀ data, .blob id.recordName data ∉ entries) ∧ comparisons id entries = 0 →
      ∃ record', (process env frame card).2.store.inner.secret? id = some record' ∧
        comparisons id (⟨.frame env frame, .on card⟩ : Occurrence).trail +
          record'.remaining.toNat ≤ record.remaining.toNat := by
    rintro ⟨unwritten, uncompared⟩
    refine ⟨record, ?_, ?_⟩
    · rw [grows.secret?_of_not_written unwritten]
      exact stored
    · rw [trail, uncompared]
      omega
  rcases trails with rfl | ⟨ready, whole, carries, trails, secrets⟩
  · exact stays ⟨fun _ => List.not_mem_nil, rfl⟩
  · have refilled : ∀ data, .blob id.recordName data ∈ entries → ¬ Refills whole id := by
      intro data written refills
      rw [← trail] at written
      exact keeps (.refills rfl rfl carries refills written)
    rcases trails.quiet_or_paid refilled with quiet | paid
    · exact stays quiet
    · have compared : comparisons id entries = if id = id then 1 else 0 := comparisons_of_paid paid
      obtain ⟨some_left, rest, rfl, only⟩ := paid
      cases stored.symm.trans (secrets id)
      have unwritten : ∀ data, .blob id.recordName data ∉ .audit (.compared id) :: rest := by
        intro data written
        have written : .blob id.recordName data ∈ rest := by simpa using written
        have order : (⟨.frame env frame, .on card⟩ : Occurrence).trail =
          [_] ++ .audit (.compared id) :: rest := trail
        exact keeps (.restores order written)
      refine ⟨_, grows.secret?_of_written unwritten, ?_⟩
      have once := SecretRecord.toNat_spent some_left
      rw [trail, compared, if_pos rfl]
      omega

/-- A loss of power changes no record. -/
theorem restart_finds {profile : Profile} {readFails writeFails : Nat → Bool}
    {situation : Situation} {record : SecretRecord} (finds : Finds id record situation) :
    Finds id record (Event.run (.restart profile readFails writeFails) situation).2 := by
  apply run_restart fun ran => Finds id record ran.2
  rcases finds with ⟨kept, holds, same⟩ | ⟨unmarked, rfl⟩
  · refine (openOn_of_holds profile (by exact holds)).mono ?_
    rintro r final ⟨unchanged, -⟩
    have unchanged : final.inner = situation.store := unchanged
    rw [← unchanged] at holds
    cases r with
    | ok | error => exact .inl ⟨kept, holds, same⟩
  · refine (openOn_of_unmarked profile (by exact unmarked)).mono ?_
    rintro (e | memory) final opened
    · exact .inr ⟨opened.1, rfl⟩
    · exact .inl ⟨_, opened.2.holds, rfl⟩

/-- An event that gives a secret no attempts takes one away for each comparison. -/
theorem Occurrence.spends {o : Occurrence} (sound : Sound False o.situation)
    {record : SecretRecord} (finds : Finds id record o.situation) (keeps : ¬ o.Replenishes id) :
    ∃ record', Finds id record' o.after ∧
      comparisons id o.trail + record'.remaining.toNat ≤ record.remaining.toNat := by
  obtain ⟨event, situation⟩ := o
  cases event with
  | frame env frame =>
    cases situation with
    | off store => exact ⟨record, finds, by simp [trail, Event.run, comparisons]⟩
    | on card =>
      obtain ⟨record', stored, spends⟩ := frame_spends sound (finds.secret? sound) keeps
      have after : SoundOn False (process env frame card).2 := sound_process False.elim frame sound
      obtain ⟨kept, durable, -⟩ := after.durable
      exact ⟨record', finds_of_holds durable.holds stored, spends⟩
  | restart profile readFails writeFails =>
    refine ⟨record, restart_finds finds, ?_⟩
    rw [trail, restart_trail]
    omega

/-! ## A whole stretch -/

/-- In a stretch that gives a secret no attempts, there are no more comparisons than attempts at its
start. -/
theorem comparisons_le {events : List Event} :
    ∀ {situation : Situation} {record : SecretRecord}, Sound False situation →
      Finds id record situation → (∀ o ∈ trace events situation, ¬ o.Replenishes id) →
      comparisons id ((trace events situation).flatMap Occurrence.trail) ≤
        record.remaining.toNat := by
  induction events with
  | nil => exact fun _ _ _ => Nat.zero_le _
  | cons event rest ih =>
    intro situation record sound finds keeps
    have first : ¬ (⟨event, situation⟩ : Occurrence).Replenishes id :=
      keeps _ List.mem_cons_self
    have later : ∀ o ∈ trace rest (event.run situation).2, ¬ o.Replenishes id :=
      fun o member => keeps o (List.mem_cons_of_mem _ member)
    obtain ⟨record', finds', spends⟩ := Occurrence.spends sound finds first
    have rest_bounded := ih (sound_run event sound) finds' later
    calc
      comparisons id ((trace (event :: rest) situation).flatMap Occurrence.trail) =
          comparisons id (Occurrence.trail ⟨event, situation⟩) +
            comparisons id ((trace rest (event.run situation).2).flatMap Occurrence.trail) := by
        rw [trace, List.flatMap_cons]
        exact List.count_append
      _ ≤ record.remaining.toNat := by omega

/-- Every comparison comes right after the write of the stored record with one attempt less. -/
theorem Occurrence.paid {o : Occurrence} (sound : Sound False o.situation)
    {earlier later : List JournalEntry}
    (order : o.trail = earlier ++ .audit (.compared id) :: later) :
    ∃ record, o.situation.store.secret? id = some record ∧ record.remaining ≠ 0 ∧
      earlier = [.blob id.recordName (Record.encode record.spent)] := by
  have compared : comparisons id o.trail ≠ 0 := by
    intro none
    exact List.count_eq_zero.mp none (by simp [order])
  obtain ⟨event, situation⟩ := o
  cases event with
  | restart profile readFails writeFails =>
    exact absurd restart_trail compared
  | frame env frame =>
    cases situation with
    | off store => exact absurd rfl compared
    | on card =>
      obtain ⟨entries, -, trail, trails⟩ := frame_trail sound env frame
      rw [trail] at order compared
      rcases trails with rfl | ⟨ready, whole, -, only | ⟨other, -, paid⟩, secrets⟩
      · exact absurd rfl compared
      · exact absurd (comparisons_of_writesOnly only) compared
      · obtain ⟨rfl, before⟩ := eq_of_paid paid order
        refine ⟨_, secrets other, ?_, before⟩
        simpa [SecretRecord.isBlocked] using paid.some_left

/-! ## The beginning -/

/-- A store that is still to be set up has at most what was written of a new card. -/
theorem begun_of_reached {outside : Environment → Prop} {situation : Situation}
    (reached : Reached outside situation) (unmarked : Unmarked situation.store) :
    Begun .empty situation.store := by
  have marked : ∀ {card : Card FlakyStore}, Reached outside (.on card) →
      ¬ Unmarked card.store.inner := by
    intro card reached
    have sound : SoundOn False card := sound_of_reached False.elim reached
    exact sound.not_unmarked
  induction reached with
  | blank => exact .refl _
  | opens before opened => exact absurd unmarked (marked (before.opens opened))
  | processes before draws frame => exact absurd unmarked (marked (before.processes draws frame))
  | stops before => exact absurd unmarked (marked before)
  | @fails store store' profile e before failed ih =>
    have sound : Sound False (.off store.inner) := sound_of_reached False.elim before
    rcases sound with unmarked' | ⟨kept, durable⟩
    · have begun := ((openOn_of_unmarked profile unmarked').of_error failed).2.2
      exact (ih unmarked').trans begun
    · have unchanged := ((openOn_of_holds profile durable.holds).of_error failed).1
      have unmarked : Unmarked store'.inner := unmarked
      rw [unchanged] at unmarked
      exact absurd unmarked durable.holds.not_unmarked

theorem finds_of_reached {outside : Environment → Prop} {situation : Situation}
    (reached : Reached outside situation) {record : SecretRecord}
    (stored : situation.store.secret? id = some record) : Finds id record situation := by
  by_cases unmarked : Unmarked situation.store
  · refine .inr ⟨unmarked, ?_⟩
    rcases begun_of_reached reached unmarked (.secret id) with absent | fresh
    · rw [MemoryStore.secret?_congr absent] at stored
      cases stored
    · rw [MemoryStore.secret?_of_at? fresh, Record.decode?_encode, Option.some.injEq] at stored
      exact stored.symm
  · have sound : Sound False situation := sound_of_reached False.elim reached
    obtain ⟨kept, holds⟩ := sound.holds unmarked
    exact finds_of_holds holds stored

/-! ## Guessing -/

/-- A frame that carries out nothing but an attempt at a secret: a command that it makes whole tries
that secret. -/
def OnlyTries (id : SecretId) (card : Card FlakyStore) (frame : Bytes) : Prop :=
  ∀ ready whole, ready? card = some ready → Completes ready.memory frame whole →
    triedSecret? whole = some id

/-- An attempt at a secret without attempts leaves its record as it was and grants nothing. -/
theorem process_locked {card : Card FlakyStore} (sound : SoundOn False card)
    {record : SecretRecord} (stored : card.store.inner.secret? id = some record)
    (none_left : record.remaining = 0) (env : Environment) {frame : Bytes}
    (tries : OnlyTries id card frame) :
    (process env frame card).2.store.inner.secret? id = some record ∧
      ∀ condition, (process env frame card).2.memory.security.holds condition = true →
        card.memory.security.holds condition = true := by
  cases parses : Command.ofFrame? frame with
  | error e =>
    have same : (process env frame card).2 = card := by simp only [process, parses]
    rw [same]
    exact ⟨stored, fun _ granted => granted⟩
  | ok cmd =>
    cases found : ready? card with
    | none =>
      obtain ⟨entries, grows, -, nothing | ⟨ready, whole, ⟨found', -⟩, -⟩⟩ :=
        frame_trail sound env frame
      · subst nothing
        have unwritten : ∀ data, JournalEntry.blob id.recordName data ∉ [] :=
          fun _ => List.not_mem_nil
        rw [memory_of_not_ready env frame found, grows.secret?_of_not_written unwritten]
        exact ⟨stored, fun _ granted => granted⟩
      · cases found.symm.trans found'
    | some ready =>
      obtain ⟨holds, same⟩ := holds_ready sound found
      rw [← same, holds.secret? id, Option.some.injEq] at stored
      have none_left : (ready.memory.secrets.record id).remaining = 0 := by
        rw [← stored] at none_left
        exact none_left
      have blocked : (ready.memory.secrets.record id).isBlocked = true := by
        simp [SecretRecord.isBlocked, none_left]
      obtain ⟨kept, holds', answers⟩ := answer_answers env cmd holds
      obtain ⟨rfl, granted⟩ := answers.of_blocked parses (tries ready · found) blocked
      rw [process_of_ready parses found]
      constructor
      · rw [holds'.secret? id, ← stored]
      · intro condition holds
        exact holds_of_ready found (granted condition holds)

/-- What memory has of a secret, unless it is stale, is what the store has. -/
theorem record_of_fresh {card : Card FlakyStore} (sound : SoundOn False card)
    {record : SecretRecord} (stored : card.store.inner.secret? id = some record)
    (fresh : card.memory.stale = false) : card.memory.secrets.record id = record := by
  have held := (sound.fresh fresh).holds.secret? id
  rw [stored, Option.some.injEq] at held
  exact held.symm

/-- Guessing a secret is of no use, in whatever a situation leads to. -/
structure Guarded (id : SecretId) (situation : Situation) : Prop where
  /-- In a stretch that gives the secret no attempts, candidates are compared at most as often as
  the store allowed at its start. -/
  bounded : ∀ record, situation.store.secret? id = some record → ∀ events,
    (∀ o ∈ trace events situation, ¬ o.Replenishes id) →
      comparisons id ((trace events situation).flatMap Occurrence.trail) ≤ record.remaining.toNat
  /-- Every comparison comes right after the write of the stored record with one attempt less. -/
  paid : ∀ events, ∀ o ∈ trace events situation, ∀ earlier later,
    o.trail = earlier ++ .audit (.compared id) :: later →
      ∃ record, o.situation.store.secret? id = some record ∧ record.remaining ≠ 0 ∧
        earlier = [.blob id.recordName (Record.encode record.spent)]
  /-- If that write is refused, the answer and the card are the same for all candidates. -/
  unpaid : ∀ card ready, situation = .on card → ready? card = some ready →
    ready.store.writeFails ready.store.writes = true → ∀ frame frame' cmd cmd',
      Completes ready.memory frame cmd → Completes ready.memory frame' cmd' →
      SameHeader cmd cmd' → Attempts ready.memory.secrets id cmd →
      Attempts ready.memory.secrets id cmd' →
        ∀ env, process env frame' card = process env frame card
  /-- Without attempts, nothing that tries the secret changes its record or grants anything. -/
  locked : ∀ card record, situation = .on card → card.store.inner.secret? id = some record →
    record.remaining = 0 → ∀ frame, OnlyTries id card frame → ∀ env after,
      (process env frame card).2 = after → after.store.inner.secret? id = some record ∧
        (after.memory.stale = false → after.memory.secrets.record id = record) ∧
        ∀ condition, after.memory.security.holds condition = true →
          card.memory.security.holds condition = true

/-- Guessing is bounded for each secret, whatever the store refuses and however often the card
loses power. -/
theorem guessing_bounded {outside : Environment → Prop} {situation : Situation}
    (reached : Reached outside situation) (id : SecretId) : Guarded id situation := by
  have sound : Sound False situation := sound_of_reached False.elim reached
  constructor
  case bounded =>
    intro record stored events keeps
    exact comparisons_le sound (finds_of_reached reached stored) keeps
  case paid =>
    intro events o member earlier later order
    exact Occurrence.paid (sound_of_mem_trace sound member) order
  case unpaid =>
    rintro card ready rfl found refuses frame frame' cmd cmd' completes completes' same attempts
      attempts' env
    exact process_congr found refuses completes completes' same attempts attempts' env
  case locked =>
    rintro card record rfl stored none_left frame tries env after rfl
    obtain ⟨stored', granted⟩ := process_locked sound stored none_left env tries
    exact ⟨stored', record_of_fresh (sound_process False.elim frame sound) stored', granted⟩

/-- A VERIFY of PW1 with a wrong value. -/
def wrongVerify : Event :=
  .frame (.ofSeed [] 0) ([0x00, 0x20, 0x00, 0x81, 0x06] ++ List.replicate 6 0x30)

/-- Wrong values with a loss of power between them, more often than PW1 allows. -/
def wrongGuesses : List Event :=
  [wrongVerify, .restart .default (fun _ => false) (fun _ => false)] ++ List.replicate 4 wrongVerify

theorem verifies_wrongGuesses (event : Event) (member : event ∈ wrongGuesses) (env : Environment)
    (frame : Bytes) (same : event = .frame env frame) :
    ∃ cmd, Command.ofFrame? frame = .ok cmd ∧ cmd.instruction = .verify := by
  have verify : event = wrongVerify ∨ event = .restart .default (fun _ => false) fun _ => false := by
    simp only [wrongGuesses, List.mem_append, List.mem_cons, List.not_mem_nil, or_false,
      List.mem_replicate] at member
    tauto
  obtain rfl | rfl := verify
  · cases same
    exact ⟨_, rfl, rfl⟩
  · cases same

/-- The stretch gives no attempts, and so the three attempts of a new card bound the comparisons in
it; all three are used up. -/
theorem guessing_bounded_wrong_values :
    let start : Situation := .on (newCard fun _ => false)
    (∀ o ∈ trace wrongGuesses start, ¬ o.Replenishes .pw1) ∧
      comparisons .pw1 ((trace wrongGuesses start).flatMap Occurrence.trail) = 3 ∧
      comparisons .pw1 ((trace wrongGuesses start).flatMap Occurrence.trail) ≤
        (Secrets.factory.record .pw1).remaining.toNat ∧
      ∀ events, (∀ o ∈ trace events start, ¬ o.Replenishes .pw1) →
        comparisons .pw1 ((trace events start).flatMap Occurrence.trail) ≤ 3 := by
  intro start
  have reached := reached_newCard fun _ => True
  have holds := holds_of_reached reached rfl
  have bounded := (guessing_bounded reached .pw1).bounded _ (holds.secret? .pw1)
  have once : ∀ o ∈ trace wrongGuesses start, ∀ entry ∈ o.trail.tail,
      entry = .audit (.compared .pw1) := by
    decide +kernel
  have keeps : ∀ o ∈ trace wrongGuesses start, ¬ o.Replenishes .pw1 := fun o member =>
    Occurrence.not_replenishes (verifies_wrongGuesses o.event (event_of_mem_trace member))
      (once o member)
  refine ⟨keeps, ?_, bounded _ keeps, bounded⟩
  decide +kernel

end PgpCard.Card
