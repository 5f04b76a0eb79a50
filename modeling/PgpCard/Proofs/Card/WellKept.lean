import PgpCard.Proofs.Card.Recalling
import PgpCard.Proofs.Card.Sealing
import PgpCard.Proofs.Secret.WellFormed

/-!
# The records of the secrets stay well-formed

Whatever a card meets, each of its three records has a limit, no more attempts than that, and the
length and the digest of one value, which is the first one or one that a command brought; so have
the records in its store, where the command has succeeded.

* `GivesSecret` : the value that a command brings for a secret;
* `Executes.wellFormed`, `Executes.full` : what one command does to records and to what is verified;
* `Known` : the values that a stretch brought for a secret;
* `Kempt` is the invariant, and `Kempt.run` its step;
* `secret_records_well_formed` : so it is after every stretch that begins with an empty store.
-/

set_option autoImplicit false

namespace PgpCard

/-- What is verified has all its attempts. -/
def Memory.Full (memory : Memory) : Prop :=
  ∀ condition : Condition, memory.security.holds condition = true →
    memory.secrets.Full condition.secret

namespace Card

open SecretRecord Secrets

/-! ## Commands -/

/-- The value that a command brings for a secret. -/
inductive GivesSecret (secrets : Secrets) (cmd : Command) : SecretId → Bytes → Prop
  /-- CHANGE REFERENCE DATA: what follows the recorded length. -/
  | change {id : SecretId} (instruction : cmd.instruction = .changeReferenceData)
    (target : changeTarget? cmd.p2 = some id) :
    GivesSecret secrets cmd id (cmd.data.drop (secrets.record id).length.toNat)
  /-- RESET RETRY COUNTER against the resetting code: what follows its recorded length. -/
  | resetWithCode (instruction : cmd.instruction = .resetRetryCounter) (p1 : cmd.p1 = 0x00) :
    GivesSecret secrets cmd .pw1 (cmd.data.drop secrets.rc.length.toNat)
  /-- RESET RETRY COUNTER with PW3 verified. -/
  | resetPw1 (instruction : cmd.instruction = .resetRetryCounter) (p1 : cmd.p1 = 0x02) :
    GivesSecret secrets cmd .pw1 cmd.data
  /-- PUT DATA of the resetting code. -/
  | code (instruction : cmd.instruction = .putData)
    (named : DataObject.ofTag? cmd.p1p2 = some .resettingCode) :
    GivesSecret secrets cmd .rc cmd.data

variable {env : Environment} {cmd : Command} {memory memory' : Memory} {kept' : Persistent}
  {inMemory inStore : SecretId → Bytes → Prop}

section WellFormed

variable (first : ∀ id value, id.IsFirstValue value → inMemory id value)
  (firstStored : ∀ id value, id.IsFirstValue value → inStore id value)

include first firstStored

theorem SetsLimit.wellFormed {id : SecretId} {limit : UInt8} {r : Except CardError Unit}
    (h : SetsLimit memory id limit r memory' kept') (before : memory.secrets.WellFormed inMemory)
    (stored : memory.secrets.WellFormed inStore) :
    memory'.secrets.WellFormed inMemory ∧ kept'.secrets.WellFormed inStore := by
  have new : ∀ (given : SecretId → Bytes → Prop),
      (∀ id value, id.IsFirstValue value → given id value) → memory.secrets.WellFormed given →
      limit ≠ 0 → (memory.secrets.put id (factoryRecord limit id)).WellFormed given :=
    fun given first before nonzero =>
      before.put (wellFormed_factoryRecord (one_le_of_ne_zero nonzero) (first id))
  cases h with
  | skipped => exact ⟨before, stored⟩
  | refused nonzero => exact ⟨new _ first before nonzero, stored⟩
  | done nonzero _ after | statusRefused nonzero _ _ after | statusReset nonzero _ after =>
    subst after
    exact ⟨new _ first before nonzero, new _ firstStored stored nonzero⟩

theorem SetsRetries.wellFormed {pw1 rc pw3 : UInt8} {r : Except CardError Bytes}
    (h : SetsRetries memory pw1 rc pw3 r memory' kept')
    (before : memory.secrets.WellFormed inMemory) (stored : memory.secrets.WellFormed inStore) :
    memory'.secrets.WellFormed inMemory ∧ kept'.secrets.WellFormed inStore := by
  cases h with
  | first limit => exact limit.wellFormed first firstStored before stored
  | second limit₁ limit₂ =>
    obtain ⟨before₁, stored₁⟩ := limit₁.wellFormed first firstStored before stored
    exact limit₂.wellFormed first firstStored before₁ stored₁
  | third limit₁ limit₂ limit₃ =>
    obtain ⟨before₁, stored₁⟩ := limit₁.wellFormed first firstStored before stored
    obtain ⟨before₂, stored₂⟩ := limit₂.wellFormed first firstStored before₁ stored₁
    exact limit₃.wellFormed first firstStored before₂ stored₂

/-- A setup leaves each record as it was, or as on a new card. -/
theorem MakesFactory.wellFormed {r : Except StoreError Unit}
    (h : MakesFactory memory r memory' kept') (before : memory.secrets.WellFormed inMemory)
    (stored : memory.secrets.WellFormed inStore) :
    memory'.secrets.WellFormed inMemory ∧ kept'.secrets.WellFormed inStore := by
  obtain ⟨held, durable⟩ := h.blends
  refine ⟨fun id => ?_, fun id => ?_⟩
  · rcases held.secret id with same | fresh
    · rw [show memory'.secrets.record id = _ from same]
      exact before id
    · rw [show memory'.secrets.record id = _ from fresh]
      exact wellFormed_factory first id
  · rcases durable.secret id with same | fresh
    · rw [same]
      exact stored id
    · rw [fresh]
      exact wellFormed_factory firstStored id

omit first firstStored in
/-- A value of the resetting code that was checked is of admissible length, or there is none. -/
theorem Writes.wellFormed {value : Bytes} {object : DataObject} {r : Except CardError Unit}
    (h : Writes memory value object r memory' kept') (checked : object.check value = .ok ())
    (before : memory.secrets.WellFormed inMemory) (stored : memory.secrets.WellFormed inStore)
    (known : object = .resettingCode → inMemory .rc value)
    (done : r = .ok () → object = .resettingCode → inStore .rc value) :
    memory'.secrets.WellFormed inMemory ∧ kept'.secrets.WellFormed inStore := by
  cases h with
  | status saved | stored _ saved => cases saved <;> exact ⟨before, stored⟩
  | @resettingCode r held durable replaces =>
    have limit := (before .rc).limit
    have new : ∀ given : Bytes → Prop, given value → (if value.isEmpty = true then
        unset memory.secrets.rc.limit else ofValue value memory.secrets.rc.limit).WellFormed .rc
          given := by
      intro given known
      split
      · exact wellFormed_unset limit
      · rename_i nonempty
        refine wellFormed_ofValue limit ?_ known
        simpa [DataObject.check, DataObject.demand, nonempty] using checked
    exact replaces.wellFormed before stored (new _ (known rfl))
      fun ok => new _ (done (by rw [ok]; rfl) rfl)
  | _ => exact ⟨before, stored⟩

/-- A command leaves well-formed records: a new value is one that it brought, and in the store only
if it succeeds. -/
theorem Executes.wellFormed {r : Except CardError Bytes}
    (h : Executes env cmd memory r memory' kept') (before : memory.secrets.WellFormed inMemory)
    (stored : memory.secrets.WellFormed inStore)
    (known : ∀ id value, GivesSecret memory.secrets cmd id value → inMemory id value)
    (done : r.isOk = true →
      ∀ id value, GivesSecret memory.secrets cmd id value → inStore id value) :
    memory'.secrets.WellFormed inMemory ∧ kept'.secrets.WellFormed inStore := by
  cases h with
  | leaves | signs | uses | generates | imports => exact ⟨before, stored⟩
  | verifies _ _ verifies => exact verifies.wellFormed before stored
  | changes instruction target changes =>
    have gives : GivesSecret memory.secrets cmd _ _ := .change instruction target
    exact changes.wellFormed before stored (known _ _ gives)
      fun ok => done (by rw [ok]; rfl) _ _ gives
  | resetsWithCode instruction p1 _ resets =>
    have gives : GivesSecret memory.secrets cmd _ _ := .resetWithCode instruction p1
    exact resets.wellFormed before stored (known _ _ gives)
      fun ok => done (by rw [ok]; rfl) _ _ gives
  | resetsPw1 instruction p1 _ _ resets =>
    have gives : GivesSecret memory.secrets cmd _ _ := .resetPw1 instruction p1
    exact resets.wellFormed before stored (known _ _ gives)
      fun ok => done (by rw [ok]; rfl) _ _ gives
  | setsRetries _ _ _ sets => exact sets.wellFormed first firstStored before stored
  | puts instruction named _ _ checked writes =>
    have gives : ∀ object, DataObject.ofTag? cmd.p1p2 = some object → object = .resettingCode →
        GivesSecret memory.secrets cmd .rc cmd.data := by
      rintro _ named rfl
      exact .code instruction named
    exact writes.wellFormed checked before stored (fun code => known _ _ (gives _ named code))
      fun ok code => done (by rw [ok]; rfl) _ _ (gives _ named code)
  | terminates _ _ saved => cases saved <;> exact ⟨before, stored⟩
  | activates _ _ makes => exact makes.wellFormed first firstStored before stored

end WellFormed

/-- Unless the store fails, what is verified after a command has all its attempts. -/
theorem Executes.full {r : Except CardError Bytes} (h : Executes env cmd memory r memory' kept')
    (kind : ∀ e, r = .error e → e.isStorage = false) (before : memory.Full) : memory'.Full := by
  intro condition holds
  have apart : condition.secret ≠ .rc := by cases condition <;> decide
  have keeps : ∀ {secrets : Secrets}, secrets.record condition.secret =
      memory.secrets.record condition.secret → memory.security.holds condition = true →
      secrets.Full condition.secret := by
    intro secrets same held
    rw [Secrets.Full, same]
    exact before condition held
  cases h with
  | leaves | generates | imports => exact before condition holds
  | @verifies id granted r _ _ _ target verifies =>
    cases r with
    | error =>
      exact keeps (verifies.record_other (Security.secret_ne_of_revokeSecret holds))
        (Security.holds_of_revokeSecret holds)
    | ok =>
      by_cases same : condition.secret = id
      · subst same
        exact verifies.full rfl
      · rw [afterVerify, Security.holds_grant, Bool.or_eq_true, decide_eq_true_eq] at holds
        refine keeps (verifies.record_other same) (holds.resolve_left ?_)
        rintro rfl
        exact same (secret_of_target target).2.symm
  | changes _ _ changes =>
    exact keeps (changes.record_other (Security.secret_ne_of_revokeSecret holds))
      (Security.holds_of_revokeSecret holds)
  | @resetsWithCode r _ _ _ _ _ resets =>
    cases r with
    | error e => exact keeps (resets.record_of_other apart (.inr ⟨e, rfl, kind e rfl⟩)) holds
    | ok =>
      exact keeps (resets.record_of_other apart (.inl (Security.secret_ne_of_revokePw1 holds)))
        (Security.holds_of_revokePw1 holds)
  | @resetsPw1 r _ _ _ _ _ _ resets =>
    cases r with
    | error e => exact keeps (resets.record_of_other (.inr ⟨e, rfl, kind e rfl⟩)) holds
    | ok =>
      exact keeps (resets.record_of_other (.inl (Security.secret_ne_of_revokePw1 holds)))
        (Security.holds_of_revokePw1 holds)
  | setsRetries _ _ _ sets =>
    cases r with
    | error e => cases (kind e rfl).symm.trans sets.isStorage
    | ok data =>
      rcases sets.record holds with same | ⟨rfl, -, new⟩
      · exact keeps same (sets.holds_before holds)
      · rw [Secrets.Full, Condition.secret, new]
        rfl
  | @signs r =>
    cases r with
    | error => exact before condition holds
    | ok => exact before condition (Security.holds_of_afterSigning holds)
  | @uses r =>
    cases r with
    | error => exact before condition holds
    | ok => exact before condition (Security.holds_of_afterOther holds)
  | puts _ _ _ _ _ writes => exact keeps (writes.record apart) (writes.holds_before holds)
  | terminates _ _ saved =>
    cases saved with
    | refused => exact before condition holds
    | done => cases Security.holds_revokeAll.symm.trans holds
  | activates _ _ makes =>
    cases makes with
    | refused e => cases kind _ rfl
    | done => cases Security.holds_initial.symm.trans holds

/-! ## Frames -/

/-- The same for a command that arrives: what is new was brought by the command that it makes
whole. -/
theorem Answers.wellFormed {frame : Bytes} {response : Response}
    (h : Answers env cmd memory response memory' kept')
    (parses : Command.ofFrame? frame = .ok cmd)
    (first : ∀ id value, id.IsFirstValue value → inMemory id value)
    (firstStored : ∀ id value, id.IsFirstValue value → inStore id value)
    (before : memory.secrets.WellFormed inMemory) (stored : memory.secrets.WellFormed inStore)
    (known : ∀ whole, Completes memory frame whole →
      ∀ id value, GivesSecret memory.secrets whole id value → inMemory id value)
    (done : response.isOkay = true → ∀ whole, Completes memory frame whole →
      ∀ id value, GivesSecret memory.secrets whole id value → inStore id value) :
    memory'.secrets.WellFormed inMemory ∧ kept'.secrets.WellFormed inStore := by
  cases h with
  | selects | invalidates | awaits | breaks | refuses | continues => exact ⟨before, stored⟩
  | @executes chain whole r final _ passes accepts _ executes =>
    have completes : Completes memory frame whole := ⟨cmd, chain, parses, passes, accepts⟩
    have secrets : (conclude r final).secrets = final.secrets := by cases r <;> rfl
    rw [secrets]
    refine executes.wellFormed first firstStored before stored (known whole completes) fun ok => ?_
    exact done (by rw [isOkay_reply, ok]) whole completes

/-- Unless the card is stale afterwards, what is verified has all its attempts. -/
theorem Answers.full {response : Response} (h : Answers env cmd memory response memory' kept')
    (fresh : memory'.stale = false) (before : memory.Full) : memory'.Full := by
  cases h with
  | selects => exact fun condition holds => before condition (Security.holds_of_revokePw1 holds)
  | invalidates =>
    intro condition holds
    cases Security.holds_revokeAll.symm.trans holds
  | awaits | breaks | refuses | continues => exact before
  | @executes chain whole r final _ _ _ _ executes =>
    have kind : ∀ e, r = .error e → e.isStorage = false := by
      rintro e rfl
      exact (Bool.or_eq_false_iff.mp fresh).2
    have full : final.Full := executes.full kind before
    cases r with
    | ok | error => exact full

/-- A step brings a value for a secret. -/
def Step.GivesSecret (step : Step FlakyStore) (id : SecretId) (value : Bytes) : Prop :=
  ∃ ready whole, step.Carries ready whole ∧ Card.GivesSecret ready.memory.secrets whole id value

/-- Every record of a secret that a store has can be read, and it is well-formed. -/
def StoresWell (given : SecretId → Bytes → Prop) (store : MemoryStore) : Prop :=
  ∀ (id : SecretId) (text : Bytes), store.at? (.blob id.recordName) = some (.inl text) →
    ∃ record : SecretRecord, Record.decode? text = some record ∧ record.WellFormed id (given id)

section Stores

variable {given : SecretId → Bytes → Prop} {store store' : MemoryStore} {kept : Persistent}

theorem StoresWell.secrets (h : StoresWell given store) (holds : Holds store kept) :
    kept.secrets.WellFormed given := by
  intro id
  obtain ⟨content, found, denotes⟩ := holds (.secret id)
  cases content with
  | inr => cases denotes
  | inl text =>
    obtain ⟨record, decoded, wellFormed⟩ := h id text found
    cases decoded.symm.trans denotes
    exact wellFormed

theorem storesWell_of_holds (holds : Holds store kept) (h : kept.secrets.WellFormed given) :
    StoresWell given store := by
  intro id text found
  obtain ⟨content, present, denotes⟩ := holds (.secret id)
  cases found.symm.trans present
  exact ⟨_, denotes, h id⟩

/-- A setup that has begun has written first records. -/
theorem StoresWell.begun (h : StoresWell given store) (begun : Begun store store')
    (first : ∀ id value, id.IsFirstValue value → given id value) : StoresWell given store' := by
  intro id text found
  rcases begun (.secret id) with same | fresh
  · exact h id text (same.symm.trans found)
  · cases found.symm.trans fresh
    exact ⟨_, Record.decode?_encode _, wellFormed_factory first id⟩

theorem StoresWell.congr (h : StoresWell given store) (same : store' = store) :
    StoresWell given store' := same ▸ h

end Stores

/-! ## Stretches -/

/-- A value is the first one of a secret, or a step of some kind brought it. -/
inductive Known (os : List Occurrence) (kind : Step FlakyStore → Prop) (id : SecretId)
    (value : Bytes) : Prop
  | first (first : id.IsFirstValue value)
  | brought {env : Environment} {frame : Bytes} {card : Card FlakyStore}
    (member : ⟨.frame env frame, .on card⟩ ∈ os) (kind : kind ⟨env, frame, card⟩)
    (gives : Step.GivesSecret ⟨env, frame, card⟩ id value)

theorem Known.mono {os os' : List Occurrence} {kind kind' : Step FlakyStore → Prop} {id : SecretId}
    {value : Bytes} (h : Known os kind id value) (more : os ⊆ os')
    (weaker : ∀ step, kind step → kind' step) : Known os' kind' id value := by
  cases h with
  | first first => exact .first first
  | brought member kind gives => exact .brought (more member) (weaker _ kind) gives

/-- The value is the first one of the secret, or a command brought it. -/
def Tried (os : List Occurrence) : SecretId → Bytes → Prop := Known os fun _ => True

/-- The value is the first one of the secret, or a command brought it and succeeded. -/
def Taken (os : List Occurrence) : SecretId → Bytes → Prop :=
  Known os fun step => step.succeeds = true

/-- The records in the store and in memory are well-formed, and, unless memory is stale, what is
verified has all its attempts. -/
structure Kempt (os : List Occurrence) (situation : Situation) : Prop where
  sound : Sound False situation
  stored : StoresWell (Taken os) situation.store
  held : ∀ card, situation = .on card → card.memory.secrets.WellFormed (Tried os)
  full : ∀ card, situation = .on card → card.memory.stale = false → card.memory.Full

namespace Kempt

variable {os os' : List Occurrence}

theorem tried_of_taken {id : SecretId} {value : Bytes} (more : os ⊆ os')
    (h : Taken os id value) : Tried os' id value :=
  Known.mono h more fun _ _ => trivial

theorem taken_mono {id : SecretId} {value : Bytes} (more : os ⊆ os') (h : Taken os id value) :
    Taken os' id value :=
  Known.mono h more fun _ done => done

/-- A longer stretch has brought what a shorter one has. -/
theorem mono {situation : Situation} (h : Kempt os situation) (more : os ⊆ os') :
    Kempt os' situation where
  sound := h.sound
  stored id text found := by
    obtain ⟨record, decoded, wellFormed⟩ := h.stored id text found
    exact ⟨record, decoded, wellFormed.mono fun _ => taken_mono more⟩
  held card same := (h.held card same).mono fun _ _ tried => tried.mono more fun _ any => any
  full := h.full

theorem blank : Kempt [] (.off .empty) where
  sound := .inl rfl
  stored _ _ found := by cases found
  held _ same := by cases same
  full _ same := by cases same

theorem run_frame {card : Card FlakyStore} (h : Kempt os (.on card)) (env : Environment)
    (frame : Bytes) :
    Kempt (os ++ [⟨.frame env frame, .on card⟩]) (.on (process env frame card).2) := by
  have h' : Kempt (os ++ [⟨.frame env frame, .on card⟩]) (.on card) :=
    h.mono (List.subset_append_left _ _)
  have sound : SoundOn False card := h.sound
  have sound' : SoundOn False (process env frame card).2 := sound_process False.elim frame sound
  cases parses : Command.ofFrame? frame with
  | error e =>
    have same : (process env frame card).2 = card := by simp only [process, parses]
    rw [same]
    exact h'
  | ok cmd =>
    cases found : ready? card with
    | none =>
      have memory := memory_of_not_ready env frame found
      obtain ⟨reads, store⟩ := store_of_not_ready env frame found
      refine ⟨sound', h'.stored.congr (by simp only [Situation.store, store]), ?_, ?_⟩
      · rintro _ ⟨⟩
        rw [memory]
        exact h'.held card rfl
      · rintro _ ⟨⟩ fresh
        cases (stale_of_not_ready env frame found).symm.trans fresh
    | some ready =>
      obtain ⟨holds, same⟩ := holds_ready sound found
      have stored : ready.memory.secrets.WellFormed (Taken os) :=
        StoresWell.secrets (h.stored.congr same) holds
      have first : ∀ kind id value, id.IsFirstValue value →
          Known (os ++ [⟨.frame env frame, .on card⟩]) kind id value :=
        fun _ _ _ first => .first first
      have member : (⟨.frame env frame, .on card⟩ : Occurrence) ∈
          os ++ [⟨.frame env frame, .on card⟩] := by simp
      obtain ⟨kept', holds', answers⟩ := answer_answers env cmd holds
      have processed := process_of_ready parses found env
      have succeeded : Step.succeeds ⟨env, frame, card⟩ = (answer env cmd ready).1.isOkay := by
        rw [Step.succeeds, processed, Response.reportsSuccess_toFrame]
      rw [processed] at sound' ⊢
      obtain ⟨held, durable⟩ := answers.wellFormed parses (first _) (first _)
        (stored.mono fun _ _ => tried_of_taken (List.subset_append_left _ _))
        (stored.mono fun _ _ => taken_mono (List.subset_append_left _ _))
        (fun whole completes _ _ gives =>
          .brought member trivial ⟨ready, whole, ⟨found, completes⟩, gives⟩)
        fun okay whole completes _ _ gives =>
          .brought member (succeeded.trans okay) ⟨ready, whole, ⟨found, completes⟩, gives⟩
      refine ⟨sound', storesWell_of_holds holds' durable, ?_, ?_⟩
      · rintro _ ⟨⟩
        exact held
      · rintro _ ⟨⟩ fresh
        -- what is verified before the answer was so before the frame: a reload verifies nothing
        refine answers.full fresh fun condition verified => ?_
        cases stale : card.memory.stale with
        | true => cases (holds_of_reloaded stale found condition).symm.trans verified
        | false =>
          cases (ready?_of_fresh stale).symm.trans found
          exact h.full card rfl stale condition verified

/-- The records are well-formed after an opening, which verifies nothing. -/
structure Opened (os : List Occurrence) (situation : Situation) : Prop where
  stored : StoresWell (Taken os) situation.store
  session : ∀ card, situation = .on card →
    card.memory.secrets.WellFormed (Tried os) ∧ card.memory.Full

/-- A loss of power keeps the records in the store, or it begins a setup with first ones. -/
theorem run_restart {situation : Situation} (h : Kempt os situation) (profile : Profile)
    (readFails writeFails : Nat → Bool) :
    Kempt os (Event.run (.restart profile readFails writeFails) situation).2 := by
  have sound := sound_run (.restart profile readFails writeFails) h.sound
  have tried : ∀ id value, id.IsFirstValue value → Tried os id value := fun _ _ => .first
  have taken : ∀ id value, id.IsFirstValue value → Taken os id value := fun _ _ => .first
  have opened : Opened os (Event.run (.restart profile readFails writeFails) situation).2 := by
    apply Card.run_restart fun ran => Opened os ran.2
    by_cases unmarked : Unmarked situation.store
    · refine (openOn_of_unmarked profile (by exact unmarked)).mono ?_
      rintro (e | memory) final ends
      · refine ⟨h.stored.begun ends.2.2 taken, fun card same => ?_⟩
        cases same
      · obtain ⟨rfl, pristine⟩ := ends
        have written : Persistent.factory.secrets.WellFormed (Taken os) := wellFormed_factory taken
        refine ⟨storesWell_of_holds pristine.holds written, ?_⟩
        rintro _ ⟨⟩
        refine ⟨wellFormed_factory tried, fun condition holds => ?_⟩
        cases Security.holds_initial.symm.trans holds
    · obtain ⟨kept, holds⟩ := h.sound.holds unmarked
      refine (openOn_of_holds profile (by exact holds)).mono ?_
      rintro (e | memory) final ⟨same, ends⟩
      · refine ⟨h.stored.congr same, fun card opened => ?_⟩
        cases opened
      · obtain ⟨kept', loaded, rfl⟩ := ends memory rfl
        refine ⟨h.stored.congr same, ?_⟩
        rintro _ ⟨⟩
        have read : kept'.secrets.WellFormed (Taken os) := h.stored.secrets (holds.of_load loaded)
        refine ⟨read.mono fun _ _ => tried_of_taken (List.Subset.refl _),
          fun condition verified => ?_⟩
        cases (holds_adopt kept' _ condition).symm.trans verified
  exact ⟨sound, opened.stored, fun card same => (opened.session card same).1,
    fun card same _ => (opened.session card same).2⟩

theorem run {situation : Situation} (h : Kempt os situation) (event : Event) :
    Kempt (os ++ [⟨event, situation⟩]) (event.run situation).2 := by
  cases event with
  | restart profile readFails writeFails =>
    exact (h.run_restart profile readFails writeFails).mono (List.subset_append_left _ _)
  | frame env frame =>
    cases situation with
    | on card => exact h.run_frame env frame
    | off store => exact h.mono (List.subset_append_left _ _)

theorem finish {events : List Event} : ∀ {os : List Occurrence} {situation : Situation},
    Kempt os situation →
      Kempt (os ++ trace events situation) (Card.finish events situation) := by
  induction events with
  | nil =>
    intro os situation kempt
    rw [trace, List.append_nil]
    exact kempt
  | cons event rest ih =>
    intro os situation kempt
    have next := ih (kempt.run event)
    rwa [List.append_assoc] at next

end Kempt

/-- The records of the secrets are well-formed in whatever becomes of a card: each has a limit of
one at least, no more attempts than that, and the length and the digest of one value of admissible
length, which is the first one of the secret or one that a command brought for it; a resetting code
may be missing instead.  For the records in the store the command has succeeded, also where a setup
or an activation was cut off.  Unless memory is stale, what is verified has all its attempts, and
nothing is verified on a terminated card. -/
theorem secret_records_well_formed (events : List Event) :
    let os := trace events (.off .empty)
    StoresWell (Taken os) (finish events (.off .empty)).store ∧
      ∀ card, finish events (.off .empty) = .on card →
        card.memory.secrets.WellFormed (Tried os) ∧
        (card.memory.stale = false → ∀ condition : Condition,
          card.memory.security.holds condition = true →
            card.memory.secrets.Full condition.secret ∧ card.memory.terminated = false) := by
  intro os
  have kempt : Kempt os (finish events (.off .empty)) := Kempt.blank.finish
  have settled : Settled (finish events (.off .empty)) := (Begins.settled (.inl rfl)).finish
  refine ⟨kempt.stored, fun card on => ⟨kempt.held card on, fun fresh condition holds => ?_⟩⟩
  refine ⟨kempt.full card on fresh condition holds, ?_⟩
  cases terminated : card.memory.terminated with
  | false => rfl
  | true => cases (settled.closed card on terminated condition).symm.trans holds

/-- CHANGE REFERENCE DATA: PW1 gets seven digits, one more than at first. -/
def longerPw1Frame : Bytes :=
  [0x00, 0x24, 0x00, 0x81, 0x0D] ++ Secrets.defaultPw1 ++ Bytes.ascii "1234567"

/-- The new PW1 is verified. -/
def longerPw1Frames : List Bytes :=
  [longerPw1Frame, [0x00, 0x20, 0x00, 0x81, 0x07] ++ Bytes.ascii "1234567"]

theorem secret_records_well_formed_change :
    let os := trace (lifeOf (fun _ => false) longerPw1Frames) (.off .empty)
    let card := lived (fun _ => false) longerPw1Frames
    card.memory.secrets.WellFormed (Tried os) ∧ StoresWell (Taken os) card.store.inner ∧
      card.memory.secrets.pw1.length = 7 ∧ card.memory.security.pw1Signing = true ∧
      card.memory.secrets.Full .pw1 := by
  intro os card
  have opened : openOn .default ({ inner := .empty } : FlakyStore) =
      .ok (newCard fun _ => false).memory (newCard fun _ => false).store := rfl
  have on : finish (lifeOf (fun _ => false) longerPw1Frames) (.off .empty) = .on card :=
    finish_lifeOf opened longerPw1Frames
  have found : card.memory.stale = false ∧ card.memory.secrets.pw1.length = 7 ∧
      card.memory.security.pw1Signing = true := by decide +kernel
  obtain ⟨fresh, length, verified⟩ := found
  obtain ⟨stored, session⟩ :=
    secret_records_well_formed (lifeOf (fun _ => false) longerPw1Frames)
  obtain ⟨held, full⟩ := session card on
  rw [on] at stored
  exact ⟨held, stored, length, verified, (full fresh .pw1Signing verified).1⟩

end Card

end PgpCard
