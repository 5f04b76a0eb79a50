import PgpCard.Proofs.Card.Accounting
import PgpCard.Proofs.Card.Delivery
import PgpCard.Proofs.Card.Leaving

/-!
# A host reads back what was written last

Whatever the store refuses and however often the card loses power, an object has the value that it
was given last, and where it was given none, the one that it has on a new card.

* `Remembered` : what a stretch of a card's life leaves of an object, as told by its events alone;
* `Recalls` is the invariant: on a card that takes commands the store has every value that is
  remembered.  `Recalls.run` is its step, and `Recalls.finish` carries it along;
* `getData_returns` : what GET DATA returns;
* `Recalled` : what holds of reading and writing in every situation that comes about, and
  `data_objects_recalled` says that it does;
* `cut_short_changes` : a command that fails can change values.
-/

set_option autoImplicit false

namespace PgpCard.Card

open Attempt

variable {os : List Occurrence} {o : Occurrence} {object : DataObject} {value : Bytes}

/-! ## What is remembered -/

/-- An event gives an object a value. -/
inductive Occurrence.Gives (o : Occurrence) (object : DataObject) (value : Bytes) : Prop
  | step {env : Environment} {frame : Bytes} {card : Card FlakyStore}
    (event : o.event = .frame env frame) (situation : o.situation = .on card)
    (gives : Step.Gives ⟨env, frame, card⟩ object value)

theorem Occurrence.Gives.unique {value' : Bytes} (gives : o.Gives object value)
    (gives' : o.Gives object value') : value' = value := by
  obtain ⟨event, situation, gives⟩ := gives
  obtain ⟨event', situation', gives'⟩ := gives'
  cases event.symm.trans event'
  cases situation.symm.trans situation'
  exact Step.Gives.unique gives gives'

/-- What a stretch leaves of an object: the value that it was given last, or the one on a new card
where it was given none. -/
inductive Remembered (os : List Occurrence) (object : DataObject) (value : Bytes) : Prop
  | given {before later : List Occurrence} {o : Occurrence} (order : os = before ++ o :: later)
    (gives : o.Gives object value) (last : ∀ o ∈ later, ∀ other, ¬ o.Gives object other)
  | first (never : ∀ o ∈ os, ∀ other, ¬ o.Gives object other)
    (fresh : Persistent.factory.value? object = some value)

namespace Remembered

/-- An event that gives no value leaves the one that is remembered. -/
theorem snoc (h : Remembered os object value) (unchanged : ∀ other, ¬ o.Gives object other) :
    Remembered (os ++ [o]) object value := by
  have extend : ∀ {later : List Occurrence}, (∀ o ∈ later, ∀ other, ¬ o.Gives object other) →
      ∀ o' ∈ later ++ [o], ∀ other, ¬ o'.Gives object other := fun never =>
    List.forall_mem_append.mpr ⟨never, List.forall_mem_singleton.mpr unchanged⟩
  cases h with
  | @given before later o' order gives last =>
    have order : os ++ [o] = before ++ o' :: (later ++ [o]) := by
      rw [order, List.append_assoc, List.cons_append]
    exact .given order gives (extend last)
  | first never fresh => exact .first (extend never) fresh

/-- The last event gave the value, or it gave none and the value was remembered before. -/
theorem of_snoc (h : Remembered (os ++ [o]) object value) :
    o.Gives object value ∨ (∀ other, ¬ o.Gives object other) ∧ Remembered os object value := by
  cases h with
  | @given before later o' order gives last =>
    rcases List.eq_nil_or_concat later with rfl | ⟨later', o'', rfl⟩
    · obtain ⟨-, same⟩ := List.append_inj' order rfl
      cases same
      exact .inl gives
    · rw [List.concat_eq_append, ← List.cons_append, ← List.append_assoc] at order
      obtain ⟨rfl, same⟩ := List.append_inj' order rfl
      cases same
      rw [List.concat_eq_append] at last
      refine .inr ⟨last o (by simp), .given rfl gives fun o member => last o ?_⟩
      exact List.mem_append_left _ member
  | first never fresh =>
    refine .inr ⟨never o (by simp), .first (fun o member => never o ?_) fresh⟩
    exact List.mem_append_left _ member

/-- One value is remembered. -/
theorem unique {value' : Bytes} (h : Remembered os object value)
    (h' : Remembered os object value') : value' = value := by
  induction os using List.reverseRecOn with
  | nil =>
    cases h with
    | given order => cases List.append_ne_nil_of_right_ne_nil _ (List.cons_ne_nil _ _) order.symm
    | first _ fresh =>
      cases h' with
      | given order => cases List.append_ne_nil_of_right_ne_nil _ (List.cons_ne_nil _ _) order.symm
      | first _ fresh' => exact Option.some.inj (fresh'.symm.trans fresh)
  | append_singleton os o ih =>
    rcases h.of_snoc with gives | ⟨unchanged, earlier⟩
    · rcases h'.of_snoc with gives' | ⟨unchanged, -⟩
      · exact gives.unique gives'
      · exact absurd gives (unchanged value)
    · rcases h'.of_snoc with gives' | ⟨-, earlier'⟩
      · exact absurd gives' (unchanged value')
      · exact ih earlier earlier'

end Remembered

/-- Something is remembered of every object that is read back. -/
theorem exists_remembered (readBack : object.isReadBack = true) (os : List Occurrence) :
    ∃ value, Remembered os object value := by
  induction os using List.reverseRecOn with
  | nil =>
    obtain ⟨value, fresh⟩ := Option.isSome_iff_exists.mp readBack
    exact ⟨value, .first (List.forall_mem_nil _) fresh⟩
  | append_singleton os o ih =>
    by_cases gives : ∃ value, o.Gives object value
    · obtain ⟨value, gives⟩ := gives
      exact ⟨value, .given rfl gives (List.forall_mem_nil _)⟩
    · obtain ⟨value, remembered⟩ := ih
      exact ⟨value, remembered.snoc (not_exists.mp gives)⟩

/-! ## The invariant -/

/-- A situation is sound, nothing was given to a store that is still to be set up, and the store of a
card that takes commands has every value that is remembered. -/
structure Recalls (os : List Occurrence) (situation : Situation) : Prop where
  sound : Sound False situation
  blank : Unmarked situation.store → ∀ o ∈ os, ∀ object value, ¬ o.Gives object value
  recalls : ∀ kept, Holds situation.store kept → kept.terminated = false → ∀ object value,
    object.isReadBack = true → Remembered os object value → kept.value? object = some value

namespace Recalls

variable {situation : Situation}

theorem begins {store : MemoryStore} (unmarked : Unmarked store) : Recalls [] (.off store) where
  sound := .inl unmarked
  blank _ := List.forall_mem_nil _
  recalls _ holds := absurd unmarked holds.not_unmarked

theorem run_frame {card : Card FlakyStore} (h : Recalls os (.on card)) (env : Environment)
    (frame : Bytes) :
    Recalls (os ++ [⟨.frame env frame, .on card⟩]) (.on (process env frame card).2) := by
  have sound : SoundOn False card := h.sound
  have after : SoundOn False (process env frame card).2 := sound_process False.elim frame sound
  obtain ⟨kept, durable, -⟩ := sound.durable
  refine ⟨after, fun unmarked => absurd unmarked after.not_unmarked, ?_⟩
  intro kept' holds live object value readBack remembered
  have leaves : Step.Leaves ⟨env, frame, card⟩ kept kept' :=
    Step.leaves sound durable.holds holds
  rcases remembered.of_snoc with ⟨⟨⟩, ⟨⟩, gives⟩ | ⟨unchanged, earlier⟩
  · exact leaves.given live object value gives readBack
  · have quiet : ∀ other, ¬ Step.Gives ⟨env, frame, card⟩ object other := fun other gives =>
      unchanged other (.step rfl rfl gives)
    have alive : kept.terminated = false := by
      cases terminated : kept.terminated with
      | false => rfl
      | true =>
        obtain ⟨other, gives⟩ := leaves.revived live terminated object readBack
        exact absurd gives (quiet other)
    rcases leaves.keeps object with same | ⟨other, gives, -⟩
    · rw [same]
      exact h.recalls kept durable.holds alive object value readBack earlier
    · exact absurd gives (quiet other)

/-- An event that gives nothing and leaves the store alone leaves what is remembered. -/
theorem idle {situation' : Situation} (h : Recalls os situation) (sound : Sound False situation')
    (nothing : ∀ object value, ¬ o.Gives object value)
    (same : situation'.store = situation.store) : Recalls (os ++ [o]) situation' := by
  refine ⟨sound, fun unmarked => ?_, fun kept holds live object value readBack remembered => ?_⟩
  · rw [same] at unmarked
    exact List.forall_mem_append.mpr ⟨h.blank unmarked, List.forall_mem_singleton.mpr nothing⟩
  · rw [same] at holds
    rcases remembered.of_snoc with gives | ⟨-, earlier⟩
    · exact absurd gives (nothing object value)
    · exact h.recalls kept holds live object value readBack earlier

theorem run_restart (h : Recalls os situation) (profile : Profile)
    (readFails writeFails : Nat → Bool) :
    Recalls (os ++ [⟨.restart profile readFails writeFails, situation⟩])
      (Event.run (.restart profile readFails writeFails) situation).2 := by
  have sound := sound_run (.restart profile readFails writeFails) h.sound
  have nothing : ∀ object value,
      ¬ Occurrence.Gives ⟨.restart profile readFails writeFails, situation⟩ object value := by
    rintro object value ⟨⟨⟩⟩
  by_cases unmarked : Unmarked situation.store
  · -- the setup comes to its end, or the store is still to be set up
    have never : ∀ o ∈ os ++ [⟨.restart profile readFails writeFails, situation⟩],
        ∀ object value, ¬ o.Gives object value :=
      List.forall_mem_append.mpr ⟨h.blank unmarked, List.forall_mem_singleton.mpr nothing⟩
    have ends : Unmarked (Event.run (.restart profile readFails writeFails) situation).2.store ∨
        Pristine (Event.run (.restart profile readFails writeFails) situation).2.store := by
      apply Card.run_restart fun ran => Unmarked ran.2.store ∨ Pristine ran.2.store
      refine (openOn_of_unmarked profile (by exact unmarked)).mono ?_
      rintro (e | memory) final ends
      · exact .inl ends.1
      · exact .inr ends.2
    refine ⟨sound, fun _ => never, fun kept holds _ object value _ remembered => ?_⟩
    have pristine := ends.resolve_left holds.not_unmarked
    have first : kept.value? object = Persistent.factory.value? object :=
      pristine.holds.value?_eq holds rfl
    cases remembered with
    | given order gives => exact absurd gives (never _ (by simp [order]) object value)
    | first _ fresh => rw [first, fresh]
  · obtain ⟨kept, holds⟩ := h.sound.holds unmarked
    have same : (Event.run (.restart profile readFails writeFails) situation).2.store =
        situation.store := by
      apply Card.run_restart fun ran => ran.2.store = situation.store
      refine (openOn_of_holds profile (by exact holds)).mono ?_
      rintro (e | memory) final ⟨unchanged, -⟩
      · exact unchanged
      · exact unchanged
    exact h.idle sound nothing same

theorem run (h : Recalls os situation) (event : Event) :
    Recalls (os ++ [⟨event, situation⟩]) (event.run situation).2 := by
  cases event with
  | restart profile readFails writeFails => exact h.run_restart profile readFails writeFails
  | frame env frame =>
    cases situation with
    | on card => exact h.run_frame env frame
    | off store =>
      have nothing : ∀ object value,
          ¬ Occurrence.Gives ⟨.frame env frame, .off store⟩ object value := by
        rintro object value ⟨-, ⟨⟩, -⟩
      exact h.idle h.sound nothing rfl

theorem finish {events : List Event} : ∀ {os : List Occurrence} {situation : Situation},
    Recalls os situation →
      Recalls (os ++ trace events situation) (Card.finish events situation) := by
  induction events with
  | nil =>
    intro os situation recalls
    rw [trace, List.append_nil]
    exact recalls
  | cons event rest ih =>
    intro os situation recalls
    have next := ih (recalls.run event)
    rwa [List.append_assoc] at next

end Recalls

/-! ## Reading -/

/-- A command is a GET DATA of an object that may be read. -/
structure Reads (memory : Memory) (cmd : Command) (object : DataObject) : Prop where
  instruction : cmd.instruction = .getData
  named : cmd.p1p2 = object.tag
  granted : ∃ access, object.readAccess? = some access ∧ access.granted memory.security = true

/-- It returns what is shown of the object, and leaves the card as it was. -/
theorem getData_returns {σ : Type} [Backend σ] {env : Environment} {cmd : Command} {card : Card σ}
    {data : Bytes} (reads : Reads card.memory cmd object)
    (shown : card.memory.value? object = some data) : dispatch env cmd card = .ok data card := by
  obtain ⟨instruction, named, access, readable, granted⟩ := reads
  have held : (Kept.held : Attempt CardError (Card σ) Memory) card = .ok card.memory card := rfl
  have allowed : (requireAccess object.readAccess? : Attempt CardError (Card σ) Unit) card =
      .ok () card := by
    unfold requireAccess
    rw [readable]
    dsimp only
    rw [bind_of_ok held, granted]
    rfl
  unfold dispatch
  rw [instruction]
  dsimp only
  unfold getData requireObject
  rw [named, DataObject.ofTag?_tag]
  dsimp only
  rw [pure_bind, bind_of_ok allowed, bind_of_ok held, shown]
  rfl

/-! ## Reading and writing -/

/-- An event sets an object to a value: the command succeeds, or it makes several writes, of which
the store has taken the first and refused a later one. -/
inductive Occurrence.Sets (o : Occurrence) (object : DataObject) (value : Bytes) : Prop
  | done {env : Environment} {frame : Bytes} {card : Card FlakyStore}
    (event : o.event = .frame env frame) (situation : o.situation = .on card)
    (gives : Step.Gives ⟨env, frame, card⟩ object value)
    (succeeds : Step.succeeds ⟨env, frame, card⟩ = true)
  | partly {env : Environment} {frame : Bytes} {card ready : Card FlakyStore} {whole : Command}
    (event : o.event = .frame env frame) (situation : o.situation = .on card)
    (gives : Step.Gives ⟨env, frame, card⟩ object value)
    (cut : Step.CutShort ⟨env, frame, card⟩)
    (carries : Step.Carries ⟨env, frame, card⟩ ready whole)
    (parts : WritesParts ready.memory whole)

/-- What holds of reading and writing on a card after some events. -/
structure Recalled (os : List Occurrence) (card : Card FlakyStore) : Prop where
  /-- One value is remembered of every object that is read back. -/
  remembers : ∀ object : DataObject, object.isReadBack = true →
    ∃ value, Remembered os object value ∧ ∀ other, Remembered os object other → other = value
  /-- On a card that takes commands, a GET DATA that may be read and the GET RESPONSE frames after
  it fetch that value, in its place among the data. -/
  fetches : ∀ env frame ready whole, Step.Carries ⟨env, frame, card⟩ ready whole →
    ready.memory.terminated = false → ∀ object value, object.isReadBack = true →
      Reads ready.memory whole object.shownIn → Remembered os object value →
        ∃ data, Fetched env frame card data ∧ object.portion data = value
  /-- Whatever the card meets next, every value in its store is as it was or was set. -/
  changes : ∃ kept, Holds card.store.inner kept ∧ ∀ event, ∃ kept',
    Holds (Event.run event (.on card)).2.store kept' ∧ ∀ object,
      kept'.value? object = kept.value? object ∨ ∃ value,
        Occurrence.Sets ⟨event, .on card⟩ object value ∧ kept'.value? object = some value

/-- Whatever an event leaves in the store of a card is as it was or was set. -/
theorem keeps_or_sets {card : Card FlakyStore} (sound : SoundOn False card) {kept : Persistent}
    (before : Holds card.store.inner kept) (event : Event) :
    ∃ kept', Holds (Event.run event (.on card)).2.store kept' ∧ ∀ object,
      kept'.value? object = kept.value? object ∨ ∃ value,
        Occurrence.Sets ⟨event, .on card⟩ object value ∧ kept'.value? object = some value := by
  cases event with
  | restart profile readFails writeFails =>
    refine ⟨kept, ?_, fun object => .inl rfl⟩
    apply run_restart fun ran => Holds ran.2.store kept
    refine (openOn_of_holds profile (by exact before)).mono ?_
    rintro (e | memory) final ⟨unchanged, -⟩
    all_goals
      show Holds final.inner kept
      rw [unchanged]
      exact before
  | frame env frame =>
    have after : SoundOn False (process env frame card).2 := sound_process False.elim frame sound
    obtain ⟨kept', durable, -⟩ := after.durable
    have leaves : Step.Leaves ⟨env, frame, card⟩ kept kept' :=
      Step.leaves sound before durable.holds
    refine ⟨kept', durable.holds, fun object => ?_⟩
    by_cases same : kept'.value? object = kept.value? object
    · exact .inl same
    · obtain ⟨value, gives, present⟩ := (leaves.keeps object).resolve_left same
      refine .inr ⟨value, ?_, present⟩
      cases succeeds : Step.succeeds ⟨env, frame, card⟩ with
      | true => exact .done rfl rfl gives succeeds
      | false =>
        obtain ⟨cut, ready, whole, carries, parts⟩ := leaves.failed succeeds object same
        exact .partly rfl rfl gives cut carries parts

/-- An object is read back as it was written last.  Whatever a card meets since it was opened on a
store that was to be set up, whatever its store refuses and however often it loses power, GET DATA
fetches the value that the object was given last, or the one that it has on a new card where it was
given none; and no event but those that give a value changes one, nor does a command that fails
unless it was cut short between two writes. -/
theorem data_objects_recalled {store : MemoryStore} (unmarked : Unmarked store)
    {events : List Event} {card : Card FlakyStore} (runs : finish events (.off store) = .on card) :
    Recalled (trace events (.off store)) card := by
  have recalls : Recalls (trace events (.off store)) (.on card) := by
    rw [← runs]
    exact (Recalls.begins unmarked).finish
  have sound : SoundOn False card := recalls.sound
  constructor
  case remembers =>
    intro object readBack
    obtain ⟨value, remembered⟩ := exists_remembered readBack (trace events (.off store))
    exact ⟨value, remembered, fun other => remembered.unique⟩
  case fetches =>
    intro env frame ready whole carries active object value readBack reads remembered
    obtain ⟨holds, inner⟩ := holds_ready sound carries.1
    rw [inner] at holds
    have present : (begun ready).memory.persistent.value? object = some value :=
      recalls.recalls _ holds active object value readBack remembered
    obtain ⟨data, shown, portion⟩ := portion_value? _ present
    have reads' : Reads (begun ready).memory whole object.shownIn :=
      ⟨reads.instruction, reads.named, reads.granted⟩
    have other : whole.instruction ≠ .getResponse := by simp [reads.instruction]
    exact ⟨data, Step.fetched_of_carries carries other active (getData_returns reads' shown), portion⟩
  case changes =>
    obtain ⟨kept, durable, -⟩ := sound.durable
    exact ⟨kept, durable.holds, keeps_or_sets sound durable.holds⟩

/-! ## Lives of a card -/

theorem trace_snoc (events : List Event) (event : Event) (situation : Situation) :
    trace (events ++ [event]) situation =
      trace events situation ++ [⟨event, finish events situation⟩] := by
  induction events generalizing situation with
  | nil => rfl
  | cons first rest ih => exact congrArg _ (ih _)

/-- A card is opened on an empty store that refuses some writes, and processes some frames. -/
def lifeOf (writeFails : Nat → Bool) (frames : List Bytes) : List Event :=
  .restart .default (fun _ => false) writeFails :: frames.map (.frame (.ofSeed [] 0))

/-- The card afterwards.  Only the kernel is to compute with it. -/
@[irreducible] def lived (writeFails : Nat → Bool) (frames : List Bytes) : Card FlakyStore :=
  (run (frames.map (.ofSeed [] 0, ·)) (newCard writeFails)).2

section Lives

variable {writeFails : Nat → Bool}
  (opened : openOn .default ({ inner := .empty, writeFails } : FlakyStore) =
    .ok (newCard writeFails).memory (newCard writeFails).store)

include opened

theorem run_opens : (Event.run (.restart .default (fun _ => false) writeFails) (.off .empty)).2 =
    .on (newCard writeFails) := by
  simp only [Event.run, Situation.store, opened]

theorem finish_lifeOf (frames : List Bytes) :
    finish (lifeOf writeFails frames) (.off .empty) = .on (lived writeFails frames) := by
  have frames_run : ∀ card, finish (frames.map (.frame (.ofSeed [] 0))) (.on card) =
      .on (run (frames.map (.ofSeed [] 0, ·)) card).2 := by
    induction frames with
    | nil => exact fun _ => rfl
    | cons frame rest ih => exact fun card => ih _
  rw [lifeOf, finish, run_opens opened, frames_run, lived]

end Lives

/-- VERIFY of PW3. -/
def adminFrame : Bytes := [0x00, 0x20, 0x00, 0x83, 0x08] ++ Secrets.defaultPw3

/-- PUT DATA of a name. -/
def nameFrame : Bytes := [0x00, 0xDA, 0x00, 0x5B, 0x01, 0x41]

/-- GET DATA of the name. -/
def readNameFrame : Bytes := [0x00, 0xCA, 0x00, 0x5B, 0x00]

/-- A name is written on a new card. -/
def namingLife : List Event := lifeOf (fun _ => false) [adminFrame, nameFrame]

/-- The card with the name. -/
def namedCard : Card FlakyStore := lived (fun _ => false) [adminFrame, nameFrame]

theorem remembered_name : Remembered (trace namingLife (.off .empty)) .name [0x41] := by
  let naming : Step FlakyStore := ⟨.ofSeed [] 0, nameFrame, lived (fun _ => false) [adminFrame]⟩
  have found : naming.card.memory.stale = false ∧ naming.card.memory.terminated = false ∧
      naming.card.memory.chain.pending = none ∧ naming.succeeds = true := by decide +kernel
  obtain ⟨fresh, active, idle, done⟩ := found
  have carries : naming.Carries naming.card ⟨0x00, 0xDA, 0x00, 0x5B, [0x41], none⟩ :=
    Step.carries_of_idle rfl rfl (by decide) (ready?_of_fresh fresh) idle
  have gives : naming.Gives .name [0x41] := .changes carries active (.put rfl rfl rfl done)
  have opened : openOn .default ({ inner := .empty } : FlakyStore) =
      .ok (newCard fun _ => false).memory (newCard fun _ => false).store := rfl
  have order : trace namingLife (.off .empty) =
      trace (lifeOf (fun _ => false) [adminFrame]) (.off .empty) ++
        [⟨.frame (.ofSeed [] 0) nameFrame, .on naming.card⟩] := by
    have life : namingLife = lifeOf (fun _ => false) [adminFrame] ++
        [.frame (.ofSeed [] 0) nameFrame] := rfl
    rw [life, trace_snoc, finish_lifeOf opened]
  exact .given order (.step rfl rfl gives) (List.forall_mem_nil _)

theorem data_objects_recalled_name :
    Unmarked .empty ∧ finish namingLife (.off .empty) = .on namedCard ∧
      Recalled (trace namingLife (.off .empty)) namedCard ∧
      ∃ data, Fetched (.ofSeed [] 0) readNameFrame namedCard data ∧
        DataObject.name.portion data = [0x41] := by
  have unmarked : Unmarked .empty := rfl
  have opened : openOn .default ({ inner := .empty } : FlakyStore) =
      .ok (newCard fun _ => false).memory (newCard fun _ => false).store := rfl
  have runs : finish namingLife (.off .empty) = .on namedCard := finish_lifeOf opened _
  have recalled := data_objects_recalled unmarked runs
  have found : namedCard.memory.stale = false ∧ namedCard.memory.terminated = false ∧
      namedCard.memory.chain.pending = none := by decide +kernel
  obtain ⟨fresh, active, idle⟩ := found
  have carries : Step.Carries ⟨.ofSeed [] 0, readNameFrame, namedCard⟩ namedCard
      ⟨0x00, 0xCA, 0x00, 0x5B, [], some 0⟩ :=
    Step.carries_of_idle rfl rfl (by decide) (ready?_of_fresh fresh) idle
  have reads : Reads namedCard.memory ⟨0x00, 0xCA, 0x00, 0x5B, [], some 0⟩ .name :=
    ⟨rfl, rfl, .always, rfl, rfl⟩
  refine ⟨unmarked, runs, recalled, ?_⟩
  exact recalled.fetches _ _ _ _ carries active .name _ rfl reads remembered_name

/-! ## Commands that are cut short -/

/-- A card whose name was written before it was terminated; its store will take ten more writes and
refuse the next one. -/
def endedCard : Card FlakyStore :=
  lived (· == 32) ([adminFrame, nameFrame] ++ terminatingFrames.map Prod.snd)

/-- An ACTIVATE that has come as far as the layout. -/
def renewal : Step FlakyStore := ⟨.ofSeed [] 0, activateFrame, endedCard⟩

/-- PUT DATA of the PW1 status. -/
def lastingFrame : Bytes := [0x00, 0xDA, 0x00, 0xC4, 0x01, 0x01]

/-- SET RETRIES with a limit for PW1 alone, of which the store takes the record and refuses the
status. -/
def limiting : Step FlakyStore where
  env := .ofSeed [] 0
  frame := [0x00, 0xF2, 0x00, 0x00, 0x03, 0x05, 0x00, 0x00]
  card := lived (· == 16) [adminFrame, lastingFrame]

/-- What a card has in memory before a step, and what it finds in its store after it. -/
theorem holds_around {step : Step FlakyStore} {ready : Card FlakyStore} {events : List Event}
    (runs : finish events (.off .empty) = .on step.card) (fresh : step.card.memory.stale = false)
    (found : ready? step.after = some ready) :
    Holds step.card.store.inner step.card.memory.persistent ∧
      Holds step.after.store.inner ready.memory.persistent := by
  have recalls : Recalls (trace events (.off .empty)) (.on step.card) := by
    rw [← runs]
    exact (Recalls.begins (by exact rfl)).finish
  have sound : SoundOn False step.card := recalls.sound
  have after : SoundOn False step.after := sound_process False.elim step.frame sound
  obtain ⟨holds, inner⟩ := holds_ready after found
  rw [inner] at holds
  exact ⟨(sound.fresh fresh).holds, holds⟩

/-- An ACTIVATE that fails can give a terminated card its first values, and a SET RETRIES that fails
can give PW1 its first value and another limit and yet leave the PW1 status as it was. -/
theorem cut_short_changes :
    (∃ events whole kept kept', finish events (.off .empty) = .on renewal.card ∧
      renewal.Carries renewal.card whole ∧ whole.instruction = .activate ∧
      renewal.succeeds = false ∧ Holds renewal.card.store.inner kept ∧
      Holds renewal.after.store.inner kept' ∧
      kept.value? .name = some [0x41] ∧ kept'.value? .name = some []) ∧
    (∃ events whole kept kept', finish events (.off .empty) = .on limiting.card ∧
      limiting.Carries limiting.card whole ∧ whole.instruction = .setRetries ∧
      limiting.succeeds = false ∧ Holds limiting.card.store.inner kept ∧
      Holds limiting.after.store.inner kept' ∧
      kept.secrets.pw1.limit = 3 ∧ kept'.secrets.pw1.limit = 5 ∧
      kept'.value? .passwordStatus = some [1]) := by
  constructor
  · have run : renewal.card.memory.stale = false ∧ renewal.card.memory.chain.pending = none ∧
        renewal.succeeds = false ∧
        renewal.card.memory.persistent.value? .name = some [0x41] ∧
        (ready? renewal.after).map (fun ready => ready.memory.persistent.value? .name) =
          some (some []) := by decide +kernel
    obtain ⟨fresh, idle, failed, before, reloaded⟩ := run
    obtain ⟨ready, found, after⟩ := Option.map_eq_some_iff.mp reloaded
    have runs : finish (lifeOf (· == 32) ([adminFrame, nameFrame] ++
        terminatingFrames.map Prod.snd)) (.off .empty) = .on renewal.card :=
      finish_lifeOf (by exact rfl) _
    have carries : renewal.Carries renewal.card ⟨0x00, 0x44, 0x00, 0x00, [], none⟩ :=
      Step.carries_of_idle rfl rfl (by decide) (ready?_of_fresh fresh) idle
    obtain ⟨holds, holds'⟩ := holds_around runs fresh found
    exact ⟨_, _, _, _, runs, carries, rfl, failed, holds, holds', before, after⟩
  · have run : limiting.card.memory.stale = false ∧ limiting.card.memory.chain.pending = none ∧
        limiting.succeeds = false ∧ limiting.card.memory.persistent.secrets.pw1.limit = 3 ∧
        (ready? limiting.after).map (fun ready => (ready.memory.persistent.secrets.pw1.limit,
          ready.memory.persistent.value? .passwordStatus)) = some (5, some [1]) := by
      decide +kernel
    obtain ⟨fresh, idle, failed, before, reloaded⟩ := run
    obtain ⟨ready, found, after⟩ := Option.map_eq_some_iff.mp reloaded
    obtain ⟨limit, status⟩ := Prod.mk.inj after
    have runs : finish (lifeOf (· == 16) [adminFrame, lastingFrame]) (.off .empty) =
        .on limiting.card := finish_lifeOf (by exact rfl) _
    have carries : limiting.Carries limiting.card
        ⟨0x00, 0xF2, 0x00, 0x00, [0x05, 0x00, 0x00], none⟩ :=
      Step.carries_of_idle rfl rfl (by decide) (ready?_of_fresh fresh) idle
    obtain ⟨holds, holds'⟩ := holds_around runs fresh found
    exact ⟨_, _, _, _, runs, carries, rfl, failed, holds, holds', before, limit, status⟩

end PgpCard.Card
