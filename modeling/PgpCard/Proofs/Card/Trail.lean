import PgpCard.Proofs.Card.Carried
import PgpCard.Proofs.Card.Failure
import PgpCard.Proofs.Card.History
import PgpCard.Proofs.Card.Setup
import PgpCard.Proofs.Card.Stale
import PgpCard.Proofs.Secret.Trail

/-!
# What a frame leaves in the journal

Only three commands compare anything with a secret, and each of them pays for it first.  Only four
commands give a secret new attempts without trying it.

* `Refills cmd id` : the command may give the secret all its attempts without trying it;
* `Trails cmd secrets entries` : what a command may leave in the journal;
* `dispatch_trails` : so it is for every command;
* `process_logs` : what is so for every command is so for every frame.
-/

set_option autoImplicit false

namespace PgpCard

open Card JournalEntry

namespace KeySlots

variable {names : String → Prop} {notes : Audit → Prop}

theorem setCounter_emits (counts : names counterName) (value : Nat) :
    Emits (Within names notes) (setCounter value) :=
  Emits.bind (Emits.writeBlob counts trivial) fun _ => Emits.adjust

theorem commit_emits {id : SlotId} (own : names id.recordName) (content : KeySlot) :
    Emits (Within names notes) (commit id content) :=
  Emits.bind (Emits.writeBlob own trivial) fun _ => Emits.adjust

theorem updateRecord_emits {id : SlotId} (own : names id.recordName)
    (change : KeyRecord → KeyRecord) : Emits (Within names notes) (updateRecord id change) :=
  Emits.bind Emits.held fun _ => commit_emits own _

theorem generate_emits {id : SlotId} (own : names id.recordName)
    (counts : id = .signature → names counterName) (env : Environment) :
    Emits (Within names notes) (generate env id) := by
  refine Emits.bind (Emits.mapError Emits.ofExcept) fun key => ?_
  refine Emits.bind (Emits.mapError Emits.ofExcept) fun components => ?_
  refine Emits.bind Emits.held fun keys => ?_
  refine Emits.bind (Emits.mapError (commit_emits own _)) fun _ => ?_
  split
  · rename_i signature
    have reset : Emits (Within names notes) (setCounter 0) := setCounter_emits (counts signature) 0
    exact Emits.bind (Emits.mapError reset) fun _ => Emits.pure
  · exact Emits.pure

theorem importKey_emits (slots : ∀ id : SlotId, names id.recordName) (data : Bytes) :
    Emits (Within names notes) (importKey data) := by
  unfold importKey
  split
  · exact Emits.throw
  · refine Emits.bind (Emits.mapError Emits.ofExcept) fun key => ?_
    refine Emits.bind (Emits.mapError Emits.ofExcept) fun components => ?_
    refine Emits.bind Emits.held fun keys => ?_
    exact Emits.bind (Emits.mapError (commit_emits (slots _) _)) fun _ => Emits.pure

theorem requireKey_emits (id : SlotId) : Emits (Within names notes) (requireKey id) := by
  refine Emits.bind Emits.held fun keys => ?_
  split
  · exact Emits.throw
  · exact Emits.pure

/-- The use of a key is noted, and nothing else. -/
theorem useKey_emits {id : SlotId} (uses : notes (.keyUsed id)) (result : Except Rsa.Error Bytes) :
    Emits (Within names notes) (do
      Kept.note (.keyUsed id)
      (Attempt.ofExcept result).mapError .crypto :
        Attempt CardError (Kept KeySlots FlakyStore) Bytes) :=
  Emits.bind (Emits.note uses) fun _ => Emits.mapError Emits.ofExcept

theorem sign_emits (counts : names counterName) (uses : notes (.keyUsed .signature))
    (message : Bytes) : Emits (Within names notes) (sign message) := by
  refine Emits.bind (requireKey_emits _) fun key => ?_
  dsimp only
  split
  · exact Emits.throw_bind
  · refine Emits.bind Emits.held fun keys => ?_
    split
    · exact Emits.throw_bind
    · exact Emits.bind (Emits.mapError (setCounter_emits counts _)) fun _ => useKey_emits uses _

theorem decipher_emits (uses : notes (.keyUsed .decryption)) (data : Bytes) :
    Emits (Within names notes) (decipher data) := by
  refine Emits.bind (requireKey_emits _) fun key => ?_
  dsimp only
  split
  · exact Emits.throw_bind
  · exact useKey_emits uses _

theorem authenticate_emits (uses : notes (.keyUsed .authentication)) (challenge : Bytes) :
    Emits (Within names notes) (authenticate challenge) := by
  refine Emits.bind (requireKey_emits _) fun key => ?_
  dsimp only
  split
  · exact Emits.throw_bind
  · exact useKey_emits uses _

end KeySlots

theorem DataObjects.put_emits {names : String → Prop} {notes : Audit → Prop}
    (own : names recordName) (object : DataObject) (value : Bytes) :
    Emits (Within names notes) (DataObjects.put object value) := by
  refine Emits.bind Emits.held fun objects => ?_
  split
  · exact Emits.throw
  · exact Emits.bind (Emits.mapError (Emits.writeBlob own trivial)) fun _ => Emits.adjust

namespace Card

variable {names : String → Prop} {notes : Audit → Prop}

/-! ## Commands about keys -/

theorem require_emits (condition : Condition) (otherwise : CardError) :
    Emits (Within names notes) (require condition otherwise) := by
  refine Emits.bind Emits.held fun memory => ?_
  split
  · exact Emits.throw
  · exact Emits.pure

theorem computeSignature_emits (counts : names KeySlots.counterName)
    (uses : notes (.keyUsed .signature)) (cmd : Command) :
    Emits (Within names notes) (computeSignature cmd) := by
  refine Emits.bind (require_emits _ _) fun _ => ?_
  refine Emits.bind (Emits.onPart (KeySlots.sign_emits counts uses _)) fun _ => ?_
  exact Emits.bind Emits.adjust fun _ => Emits.pure

theorem decipher_emits (uses : notes (.keyUsed .decryption)) (cmd : Command) :
    Emits (Within names notes) (decipher cmd) := by
  refine Emits.bind (require_emits _ _) fun _ => ?_
  refine Emits.bind (Emits.onPart (KeySlots.decipher_emits uses _)) fun _ => ?_
  exact Emits.bind Emits.adjust fun _ => Emits.pure

theorem performSecurityOperation_emits {cmd : Command}
    (signs : cmd.p1p2 = signatureMode →
      names KeySlots.counterName ∧ notes (.keyUsed .signature))
    (uses : notes (.keyUsed .decryption)) :
    Emits (Within names notes) (performSecurityOperation cmd) := by
  unfold performSecurityOperation
  split
  · rename_i mode
    exact computeSignature_emits (signs mode).1 (signs mode).2 cmd
  · split
    · exact decipher_emits uses cmd
    · exact Emits.throw

theorem internalAuthenticate_emits (uses : notes (.keyUsed .authentication)) (cmd : Command) :
    Emits (Within names notes) (internalAuthenticate cmd) := by
  refine Emits.bind (require_emits _ _) fun _ => ?_
  refine Emits.bind (Emits.onPart (KeySlots.authenticate_emits uses _)) fun _ => ?_
  exact Emits.bind Emits.adjust fun _ => Emits.pure

theorem generateKeyPair_emits {cmd : Command} (slots : ∀ id : SlotId, names id.recordName)
    (counts : cmd.p1 = 0x80 → templateSlot? cmd.data = some .signature →
      names KeySlots.counterName) (env : Environment) :
    Emits (Within names notes) (generateKeyPair env cmd) := by
  unfold generateKeyPair
  dsimp only
  split
  · exact Emits.throw_bind
  · rename_i known
    split
    · exact Emits.throw
    · rename_i id named
      split
      · exact Emits.bind Emits.held fun _ => Emits.ofExcept
      · rename_i new
        have mode : cmd.p1 = 0x80 := by
          by_contra other
          exact known ⟨other, new⟩
        have makes : Emits (Within names notes) (KeySlots.generate env id) :=
          KeySlots.generate_emits (slots id) (fun same => counts mode (same ▸ named)) env
        exact Emits.bind (require_emits _ _) fun _ => Emits.onPart makes

theorem importKey_emits (slots : ∀ id : SlotId, names id.recordName) (cmd : Command) :
    Emits (Within names notes) (importKey cmd) := by
  unfold importKey
  dsimp only
  split
  · exact Emits.throw_bind
  · refine Emits.bind (require_emits _ _) fun _ => ?_
    exact Emits.bind (Emits.onPart (KeySlots.importKey_emits slots _)) fun _ => Emits.pure

/-! ## Commands about data objects and the life of the card -/

theorem requireObject_emits (cmd : Command) : Emits (Within names notes) (requireObject cmd) := by
  unfold requireObject
  split
  · exact Emits.throw
  · exact Emits.pure

theorem requireAccess_emits (access : Option Access) :
    Emits (Within names notes) (requireAccess access) := by
  unfold requireAccess
  split
  · exact Emits.throw
  · refine Emits.bind Emits.held fun memory => ?_
    split
    · exact Emits.throw
    · exact Emits.pure

theorem getData_emits (cmd : Command) : Emits (Within names notes) (getData cmd) := by
  refine Emits.bind (requireObject_emits cmd) fun object => ?_
  refine Emits.bind (requireAccess_emits _) fun _ => ?_
  refine Emits.bind Emits.held fun memory => ?_
  split
  · exact Emits.throw
  · exact Emits.pure

theorem write_emits (object : DataObject) (slots : ∀ id : SlotId, names id.recordName)
    (objects : names DataObjects.recordName)
    (code : object = .resettingCode → names SecretId.rc.recordName) (value : Bytes) :
    Emits (Within names notes) (write value object) := by
  have put : Emits (Within names notes) (onObjects (DataObjects.put object value)) :=
    Emits.onPart (DataObjects.put_emits objects object value)
  cases object with
  | passwordStatus =>
    exact Emits.bind (Emits.mapError (Emits.writeByte (Cell.used .lasting) trivial))
      fun _ => Emits.adjust
  | fingerprint | caFingerprint | generationTime =>
    exact Emits.mapError (Emits.onPart (KeySlots.updateRecord_emits (slots _) _))
  | resettingCode =>
    change Emits _ (if value.isEmpty = true then _ else _)
    split
    · exact Emits.mapError (Emits.onPart (Secrets.clearCode_emits (code rfl)))
    · exact Emits.mapError (Emits.onPart (Secrets.setValue_emits (code rfl)))
  | _ => exact put

theorem putData_emits {cmd : Command} (slots : ∀ id : SlotId, names id.recordName)
    (objects : names DataObjects.recordName)
    (code : DataObject.ofTag? cmd.p1p2 = some .resettingCode → names SecretId.rc.recordName) :
    Emits (Within names notes) (putData cmd) := by
  unfold putData requireObject
  cases named : DataObject.ofTag? cmd.p1p2 with
  | none => exact Emits.throw_bind
  | some object =>
    have writes : Emits (Within names notes) (write cmd.data object) :=
      write_emits object slots objects (fun same => code (same ▸ named)) cmd.data
    change Emits _ (requireAccess object.writeAccess? >>= _)
    refine Emits.bind (requireAccess_emits _) fun _ => ?_
    exact Emits.bind Emits.ofExcept fun _ => Emits.bind writes fun _ => Emits.pure

theorem terminate_emits : Emits (Within names notes) terminate := by
  refine Emits.bind Emits.held fun memory => ?_
  dsimp only
  split
  · exact Emits.throw_bind
  · refine Emits.bind (Emits.mapError (Emits.writeByte (Cell.used .terminated) trivial)) fun _ => ?_
    exact Emits.bind Emits.adjust fun _ => Emits.pure

/-- A setup notes nothing. -/
theorem makeFactory_emits (all : ∀ name ∈ recordNames, names name) :
    Emits (Within names notes) makeFactory := by
  have written : ∀ cell : Cell, cell.setup.Within names notes := by
    intro cell
    have used : cell.place.Used := cell.used
    cases cell with
    | lasting | terminated | layout | ready => exact used
    | _ => exact all _ used
  intro memory
  refine (makeFactory_setsUp memory).mono ?_
  rintro (e | ⟨⟩) final entries ends entry member
  · obtain ⟨done, rest, refused, -, -, kind, rfl⟩ := ends
    rcases List.mem_append.mp member with member | member
    · obtain ⟨cell, -, rfl⟩ := List.mem_map.mp member
      exact written cell
    · rw [List.mem_singleton.mp member]
      exact within_of_isRefusal kind
  · obtain ⟨-, rfl⟩ := ends
    obtain ⟨cell, -, rfl⟩ := List.mem_map.mp member
    exact written cell

theorem activate_emits (all : ∀ name ∈ recordNames, names name) :
    Emits (Within names notes) activate := by
  refine Emits.bind Emits.held fun memory => ?_
  dsimp only
  split
  · exact Emits.throw_bind
  · exact Emits.bind (Emits.mapError (makeFactory_emits all)) fun _ => Emits.pure

/-! ## Commands about passwords -/

theorem verify_emits (secrets : ∀ id : SecretId, names id.recordName)
    (tries : ∀ id, notes (.compared id)) (cmd : Command) :
    Emits (Within names notes) (verify cmd) := by
  unfold verify
  split
  · exact Emits.throw
  · rename_i id condition _
    refine Emits.bind (Emits.outcome
      (Emits.onPart (Secrets.verify_emits (secrets id) (tries id) _))) ?_
    rintro (e | ⟨⟩)
    · exact Emits.bind Emits.adjust fun _ => Emits.throw
    · exact Emits.bind Emits.adjust fun _ => Emits.pure

theorem changeReferenceData_emits (secrets : ∀ id : SecretId, names id.recordName)
    (tries : ∀ id, notes (.compared id)) (cmd : Command) :
    Emits (Within names notes) (changeReferenceData cmd) := by
  unfold changeReferenceData
  split
  · exact Emits.throw
  · rename_i id _
    refine Emits.bind (Emits.outcome
      (Emits.onPart (Secrets.change_emits (secrets id) (tries id) _))) ?_
    rintro (e | ⟨⟩)
    · exact Emits.bind Emits.adjust fun _ => Emits.throw
    · exact Emits.bind Emits.adjust fun _ => Emits.pure

theorem resetRetryCounter_emits (secrets : ∀ id : SecretId, names id.recordName)
    (tries : ∀ id, notes (.compared id)) (cmd : Command) :
    Emits (Within names notes) (resetRetryCounter cmd) := by
  have revokes : Emits (Within names notes) (do
      adjustSecurity Security.revokePw1
      return [] : Attempt CardError (Card FlakyStore) Bytes) :=
    Emits.bind Emits.adjust fun _ => Emits.pure
  unfold resetRetryCounter
  dsimp only
  split
  · exact Emits.throw_bind
  · split
    · exact Emits.bind (Emits.onPart (Secrets.resetWithCode_emits secrets (tries .rc) _))
        fun _ => revokes
    · split
      · refine Emits.bind (require_emits _ _) fun _ => ?_
        exact Emits.bind (Emits.onPart (Secrets.resetPw1_emits (secrets .pw1))) fun _ => revokes
      · exact Emits.throw_bind

theorem setLimit_emits {id : SecretId} (own : names id.recordName) (limit : UInt8) :
    Emits (Within names notes) (setLimit id limit) := by
  unfold setLimit
  split
  · refine Emits.bind (Emits.mapError (Emits.onPart (Secrets.resetWithLimit_emits own))) fun _ => ?_
    split
    · exact Emits.bind (Emits.mapError (Emits.writeByte (Cell.used .lasting) trivial))
        fun _ => Emits.adjust
    · exact Emits.pure
  · exact Emits.pure

theorem setRetries_emits (secrets : ∀ id : SecretId, names id.recordName) (cmd : Command) :
    Emits (Within names notes) (setRetries cmd) := by
  unfold setRetries
  split
  · refine Emits.bind (require_emits _ _) fun _ => ?_
    refine Emits.bind (setLimit_emits (secrets _) _) fun _ => ?_
    refine Emits.bind (setLimit_emits (secrets _) _) fun _ => ?_
    exact Emits.bind (setLimit_emits (secrets _) _) fun _ => Emits.pure
  · exact Emits.throw

/-! ## Commands that refill secrets -/

/-- The command may give the secret all its attempts without trying it. -/
def Refills (cmd : Command) (id : SecretId) : Prop :=
  match cmd.instruction with
  | .resetRetryCounter => id = .pw1
  | .setRetries | .activate => True
  | .putData => DataObject.ofTag? cmd.p1p2 = some .resettingCode ∧ id = .rc
  | _ => False

section Names

variable {allowed : SecretId → Prop}

theorem spared_slot (id : SlotId) : Spared allowed id.recordName := by
  intro other same
  have apart : id.recordName ≠ other.recordName := by cases id <;> cases other <;> decide
  exact absurd same apart

theorem spared_counter : Spared allowed KeySlots.counterName := by
  intro other same
  have apart : KeySlots.counterName ≠ other.recordName := by cases other <;> decide
  exact absurd same apart

theorem spared_objects : Spared allowed DataObjects.recordName := by
  intro other same
  have apart : DataObjects.recordName ≠ other.recordName := by cases other <;> decide
  exact absurd same apart

theorem untried_keyUsed (id : SlotId) : Untried (.keyUsed id) := nofun

end Names

/-! ## Commands that try a secret -/

/-- What a command may leave in the journal: it refills secrets, or it pays for an attempt at the
secret that it tries. -/
def Trails (cmd : Command) (secrets : Secrets) (entries : List JournalEntry) : Prop :=
  (∀ entry ∈ entries, entry.WritesOnly (Refills cmd)) ∨
    ∃ id, triedSecret? cmd = some id ∧
      secrets.Paid id (fun other => other = id ∨ Refills cmd other) entries

section Tries

variable {cmd : Command} {secrets : Secrets} {entries : List JournalEntry}

theorem trails_of_pays {id : SecretId} {refills : SecretId → Prop}
    (tried : triedSecret? cmd = some id) (more : ∀ other, refills other → Refills cmd other)
    (h : secrets.Pays id refills entries) : Trails cmd secrets entries := by
  rcases h with only | paid
  · exact .inl fun entry member => (only entry member).mono more
  · exact .inr ⟨id, tried, paid.mono fun other => Or.imp_right (more other)⟩

theorem trails_of_emits {act : Attempt CardError (Card FlakyStore) Bytes}
    (h : Emits (Within (Spared (Refills cmd)) Untried) act) (memory : Memory) :
    Logs act memory fun _ _ entries => Trails cmd secrets entries :=
  (h.writesOnly memory).mono fun _ _ _ => .inl

theorem verify_trails (memory : Memory) (instruction : cmd.instruction = .verify) :
    Logs (verify cmd) memory fun _ _ entries => Trails cmd memory.secrets entries := by
  unfold verify
  cases target : verifyTarget? cmd.p2 with
  | none => exact Logs.throw (.inl (List.forall_mem_nil _))
  | some named =>
    obtain ⟨id, condition⟩ := named
    have tried : triedSecret? cmd = some id := by simp [triedSecret?, instruction, target]
    have none_else : ∀ other, False → Refills cmd other := fun _ => False.elim
    refine Logs.bind_quiet (Logs.outcome (Logs.onPart
      ((Secrets.verify_logs _ id cmd.data).mono fun _ _ _ => trails_of_pays tried none_else))) ?_
    rintro (e | ⟨⟩) memory'
    · exact Logs.adjust_bind (Logs.throw rfl)
    · exact Logs.adjust_bind (Logs.pure rfl)

theorem changeReferenceData_trails (memory : Memory)
    (instruction : cmd.instruction = .changeReferenceData) :
    Logs (changeReferenceData cmd) memory fun _ _ entries =>
      Trails cmd memory.secrets entries := by
  unfold changeReferenceData
  cases target : changeTarget? cmd.p2 with
  | none => exact Logs.throw (.inl (List.forall_mem_nil _))
  | some id =>
    have tried : triedSecret? cmd = some id := by simp [triedSecret?, instruction, target]
    have none_else : ∀ other, False → Refills cmd other := fun _ => False.elim
    refine Logs.bind_quiet (Logs.outcome (Logs.onPart
      ((Secrets.change_logs _ id cmd.data).mono fun _ _ _ => trails_of_pays tried none_else))) ?_
    rintro (e | ⟨⟩) memory'
    · exact Logs.adjust_bind (Logs.throw rfl)
    · exact Logs.adjust_bind (Logs.pure rfl)

theorem resetRetryCounter_trails (memory : Memory)
    (instruction : cmd.instruction = .resetRetryCounter) :
    Logs (resetRetryCounter cmd) memory fun _ _ entries => Trails cmd memory.secrets entries := by
  have refills : ∀ id, id = SecretId.pw1 → Refills cmd id := fun id same => by
    simpa only [Refills, instruction] using same
  unfold resetRetryCounter
  dsimp only
  split
  · exact Logs.throw_bind (.inl (List.forall_mem_nil _))
  · rename_i p2
    rw [Decidable.not_not] at p2
    split
    · rename_i p1
      have tried : triedSecret? cmd = some .rc := by simp [triedSecret?, instruction, p1, p2]
      refine Logs.bind_quiet (Logs.onPart ((Secrets.resetWithCode_logs _ cmd.data).mono
        fun _ _ _ => trails_of_pays tried refills)) fun _ memory' => ?_
      exact Logs.adjust_bind (Logs.pure rfl)
    · split
      · refine trails_of_emits ?_ memory
        refine Emits.bind (require_emits _ _) fun _ => ?_
        refine Emits.bind (Emits.onPart ?_) fun _ => ?_
        · exact Secrets.resetPw1_emits (spared_record (refills _ rfl))
        exact Emits.bind Emits.adjust fun _ => Emits.pure
      · exact Logs.throw_bind (.inl (List.forall_mem_nil _))

end Tries

/-! ## All commands -/

theorem dispatch_trails (env : Environment) (cmd : Command) (memory : Memory) :
    Logs (dispatch env cmd) memory fun _ _ entries => Trails cmd memory.secrets entries := by
  have counts : Spared (Refills cmd) KeySlots.counterName := spared_counter
  have signs := fun _ : cmd.p1p2 = signatureMode => And.intro counts (untried_keyUsed .signature)
  unfold dispatch
  split
  · exact verify_trails memory ‹_›
  · exact changeReferenceData_trails memory ‹_›
  · exact resetRetryCounter_trails memory ‹_›
  · exact trails_of_emits (performSecurityOperation_emits signs (untried_keyUsed _)) memory
  · exact trails_of_emits (internalAuthenticate_emits (untried_keyUsed _) cmd) memory
  · exact trails_of_emits (generateKeyPair_emits spared_slot (fun _ _ => spared_counter) env) memory
  · exact trails_of_emits Emits.pure memory
  · exact trails_of_emits (getData_emits cmd) memory
  · rename_i instruction
    refine trails_of_emits (putData_emits spared_slot spared_objects fun named => ?_) memory
    have refills : Refills cmd .rc := by simp only [Refills, instruction, named, and_self]
    exact spared_record refills
  · exact trails_of_emits (importKey_emits spared_slot cmd) memory
  · exact trails_of_emits terminate_emits memory
  · rename_i instruction
    have refills : ∀ id, Refills cmd id := fun id => by simp only [Refills, instruction]
    exact trails_of_emits (activate_emits fun _ _ id _ => refills id) memory
  · exact trails_of_emits Emits.pure memory
  · rename_i instruction
    have refills : ∀ id, Refills cmd id := fun id => by simp only [Refills, instruction]
    exact trails_of_emits (setRetries_emits (fun _ id _ => refills id) cmd) memory
  all_goals exact trails_of_emits Emits.throw memory

section Frames

variable {env : Environment} {post : Command → Memory → List JournalEntry → Prop}

/-- A command that is carried out leaves what it may leave; any other leaves nothing. -/
theorem execute_logs {cmd : Command} {memory : Memory}
    (run : Logs (dispatch env cmd) memory fun _ _ entries => post cmd memory entries)
    (nothing : post cmd memory []) {card : Card FlakyStore}
    (begins : { card.memory with outgoing := .empty } = memory) :
    ∃ entries, Grows card.store entries (execute env cmd card).2.store ∧
      post cmd memory entries := by
  have unwritten : ∃ entries, Grows card.store entries card.store ∧ post cmd memory entries :=
    ⟨[], .refl _, nothing⟩
  unfold execute
  split
  · split
    · exact unwritten
    · exact unwritten
  · dsimp only
    split
    · exact unwritten
    · subst begins
      have run : (dispatch env cmd).Leads (card.withOutgoing .empty) _ := run card.store
      split
      · rename_i data final ended
        obtain ⟨entries, grows, meets⟩ := run.of_ok ended
        exact ⟨entries, grows, meets⟩
      · rename_i e final ended
        obtain ⟨entries, grows, meets⟩ := run.of_error ended
        refine ⟨entries, ?_, meets⟩
        split
        · exact grows
        · exact grows

/-- A frame leaves something in the journal only if it makes a command whole, and then what the
command may leave. -/
theorem process_logs
    (run : ∀ cmd memory, Logs (dispatch env cmd) memory fun _ _ entries => post cmd memory entries)
    (nothing : ∀ cmd memory, post cmd memory []) (frame : Bytes) (card : Card FlakyStore) :
    ∃ entries, Grows card.store entries (process env frame card).2.store ∧
      (entries = [] ∨ ∃ ready whole, ready? card = some ready ∧
        Completes ready.memory frame whole ∧ post whole (begun ready).memory entries) := by
  cases parses : Command.ofFrame? frame with
  | error e =>
    refine ⟨[], ?_, .inl rfl⟩
    simp only [process, parses]
    exact .refl _
  | ok cmd =>
    cases found : ready? card with
    | none =>
      -- the reload was refused, and nothing else happened
      cases stale : card.memory.stale with
      | false => cases (ready?_of_fresh stale).symm.trans found
      | true =>
        cases ended : reload card with
        | ok fresh => simp [ready?, stale, ended] at found
        | error e failed =>
          obtain ⟨⟨reads, same⟩, answered⟩ := process_of_not_reloaded stale parses ended
          rw [answered]
          dsimp only
          rw [same]
          exact ⟨[], .read _ _, .inl rfl⟩
    | some ready =>
      obtain ⟨-, reads, same⟩ := store_ready found
      have reloaded : Grows card.store [] ready.store := by
        rw [same]
        exact .read _ _
      rw [process_of_ready parses found]
      dsimp only
      unfold answer
      split
      · exact ⟨[], reloaded, .inl rfl⟩
      · exact ⟨[], reloaded, .inl rfl⟩
      · rename_i not_select not_invalidate
        unfold receive
        cases accepts : ready.memory.chain.accept cmd with
        | mk step chain =>
          cases step with
          | awaiting => exact ⟨[], reloaded, .inl rfl⟩
          | failed e => exact ⟨[], reloaded, .inl rfl⟩
          | complete whole =>
            have idle : chain = ready.memory.chain.reset := reset_of_complete accepts
            let completed : Card FlakyStore := { ready with memory := { ready.memory with chain } }
            have begins : { completed.memory with outgoing := .empty } = (begun ready).memory := by
              subst idle
              rfl
            obtain ⟨entries, grows, meets⟩ := execute_logs (run whole _) (nothing whole _) begins
            exact ⟨entries, reloaded.trans grows, .inr ⟨ready, whole, rfl,
              ⟨cmd, chain, parses, ⟨not_select, not_invalidate⟩, accepts⟩, meets⟩⟩

end Frames

end Card

end PgpCard
