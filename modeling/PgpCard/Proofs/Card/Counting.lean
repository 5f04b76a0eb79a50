import PgpCard.Proofs.Card.Generation
import PgpCard.Proofs.Card.Stretch
import PgpCard.Proofs.Key.Counting

/-!
# What a frame leaves of the signature counter

COMPUTE DIGITAL SIGNATURE raises the counter before it uses the key, and no other command touches
either, apart from those that give the card another key.

* `RenewsKey` : those commands.  `dispatch_spares` says that the others spare the counter, and
  `Computes` lists the ways in which COMPUTE DIGITAL SIGNATURE ends;
* `Step.computes`, `Step.signs` : the same for a frame, and whether it returns a signature;
* `Counts` : what any frame may add to the journal, as `frame_counts` says;
* `counter_of_early` : the answers after which the counter is as it was.
-/

set_option autoImplicit false

namespace PgpCard.Card

open JournalEntry

/-! ## Commands -/

/-- The command may give the card another signature key, with a counter of its own: GENERATE
ASYMMETRIC KEY PAIR for the signature slot, and ACTIVATE. -/
def RenewsKey (cmd : Command) : Prop := MakesKey cmd .signature ∨ cmd.instruction = .activate

/-- The entry is no use of the signature key, and it writes the counter only if that is allowed. -/
def SparesCounter (allowed : Prop) : JournalEntry → Prop :=
  Within (fun name => name = KeySlots.counterName → allowed) (· ≠ .keyUsed .signature)

section Commands

variable {env : Environment} {cmd : Command}

/-- A command other than COMPUTE DIGITAL SIGNATURE does not use the signature key, and writes the
counter only for another key. -/
theorem dispatch_spares (other : ¬ UsesKey cmd .pw1Signing) :
    Emits (SparesCounter (RenewsKey cmd)) (dispatch env cmd) := by
  have secrets : ∀ id : SecretId, id.recordName = KeySlots.counterName → RenewsKey cmd := by
    intro id same
    have apart : id.recordName ≠ KeySlots.counterName := by cases id <;> decide
    exact absurd same apart
  have slots : ∀ id : SlotId, id.recordName = KeySlots.counterName → RenewsKey cmd := by
    intro id same
    have apart : id.recordName ≠ KeySlots.counterName := by cases id <;> decide
    exact absurd same apart
  have objects : DataObjects.recordName = KeySlots.counterName → RenewsKey cmd := by
    intro same
    have apart : DataObjects.recordName ≠ KeySlots.counterName := by decide
    exact absurd same apart
  have tries : ∀ id, Audit.compared id ≠ .keyUsed .signature := fun _ => nofun
  unfold dispatch SparesCounter
  split
  · exact verify_emits secrets tries cmd
  · exact changeReferenceData_emits secrets tries cmd
  · exact resetRetryCounter_emits secrets tries cmd
  · rename_i instruction
    exact performSecurityOperation_emits (fun mode => absurd ⟨instruction, mode⟩ other) (by decide)
  · exact internalAuthenticate_emits (by decide) cmd
  · rename_i instruction
    exact generateKeyPair_emits slots (fun mode named _ => .inl ⟨instruction, mode, named⟩) env
  · exact Emits.pure
  · exact getData_emits cmd
  · exact putData_emits slots objects fun _ => secrets .rc
  · exact importKey_emits slots cmd
  · exact terminate_emits
  · rename_i instruction
    exact activate_emits fun _ _ _ => .inr instruction
  · exact Emits.pure
  · exact setRetries_emits secrets cmd
  all_goals exact Emits.throw

/-- The ways in which COMPUTE DIGITAL SIGNATURE can end, with what it leaves in the journal. -/
inductive Computes (memory : Memory) (message : Bytes) :
    Except CardError Bytes → Memory → List JournalEntry → Prop
  | denied (denied : memory.security.pw1Signing = false) :
    Computes memory message (.error .securityStatusNotSatisfied) memory []
  | spends {r : Except CardError Bytes} {keys : KeySlots} {entries : List JournalEntry}
    (spends : KeySlots.Spends memory.keys message r keys entries) :
    Computes memory message r { memory with
      keys, security := afterSuccess Security.afterSigning r memory.security } entries

theorem dispatch_computes (uses : UsesKey cmd .pw1Signing) (memory : Memory) :
    Logs (dispatch env cmd) memory (Computes memory cmd.data) := by
  unfold dispatch
  rw [uses.1]
  dsimp only
  unfold performSecurityOperation
  rw [if_pos uses.2]
  intro store
  refine leads_require_bind (fun denied => ⟨[], .refl _, .denied denied⟩) fun _ => ?_
  have signs : Logs (onKeys (KeySlots.sign cmd.data)) memory fun r memory' entries =>
      ∃ keys, KeySlots.Spends memory.keys cmd.data r keys entries ∧
        memory' = { memory with keys } :=
    Logs.onPart ((KeySlots.sign_logs memory.keys cmd.data).mono fun _ keys _ spends =>
      ⟨keys, spends, rfl⟩)
  refine Logs.bind (signs.mono ?_) store
  rintro (e | signature) memory' entries ⟨keys, spends, rfl⟩
  · exact .spends spends
  · refine Logs.adjust_bind (Logs.pure ?_)
    rw [List.append_nil]
    exact .spends spends

/-- The answers to a COMPUTE DIGITAL SIGNATURE that ends before it is counted. -/
def earlyStatuses : List StatusWord :=
  [.stateUnchanged, .wrongLength, .securityStatusNotSatisfied, .referencedDataNotFound]

theorem isSuccess_of_early {status : StatusWord} (early : status ∈ earlyStatuses) :
    status.isSuccess = false := by
  simp only [earlyStatuses, List.mem_cons, List.not_mem_nil, or_false] at early
  rcases early with rfl | rfl | rfl | rfl <;> decide

section Computes

variable {memory memory' : Memory} {message : Bytes} {r : Except CardError Bytes}
  {entries : List JournalEntry}

/-- A signature that is returned was counted. -/
theorem Computes.of_ok (h : Computes memory message r memory' entries) (done : r.isOk = true) :
    memory.keys.counter < KeySlots.counterMax ∧
      entries = KeySlots.countedEntries memory.keys.counter := by
  cases h with
  | denied => cases done
  | spends spends =>
    cases spends with
    | keyless | long | full | refused => cases done
    | counted _ _ room => exact ⟨room, rfl⟩

/-- Before such an answer the counter is not written. -/
theorem Computes.of_early (h : Computes memory message r memory' entries)
    (early : (reply r).status ∈ earlyStatuses) :
    ∀ data, .blob KeySlots.counterName data ∉ entries := by
  cases h with
  | denied => exact fun _ => List.not_mem_nil
  | spends spends =>
    cases spends with
    | keyless | long | full => exact fun _ => List.not_mem_nil
    | refused => simp
    | @counted key =>
      cases signed : key.sign? message with
      | error e =>
        rw [signed] at early
        have late : CardError.status (.crypto e) ∉ earlyStatuses := by
          show StatusWord.unknown ∉ earlyStatuses
          decide
        exact absurd early late
      | ok signature =>
        rw [signed] at early
        have okay : (reply (.ok signature)).status.isSuccess = true := isOkay_reply (.ok signature)
        cases (isSuccess_of_early early).symm.trans okay

end Computes

end Commands

/-! ## Frames -/

namespace Step

variable {step : Step FlakyStore} {ready : Card FlakyStore} {whole : Command}

/-- A COMPUTE DIGITAL SIGNATURE that a card carries out. -/
theorem computes (carries : step.Carries ready whole) (uses : UsesKey whole .pw1Signing)
    (active : ready.memory.terminated = false) :
    ∃ r memory entries, Computes (begun ready).memory whole.data r memory entries ∧
      Grows step.card.store entries step.after.store ∧
      (process step.env step.frame step.card).1 = (reply r).toFrame ∧
      step.after.memory = conclude r memory := by
  have other : whole.instruction ≠ .getResponse := by simp [uses.1]
  obtain ⟨r, final, ⟨entries, grows, computes⟩, processed⟩ := process_of_carries carries other
    (.inl active) (dispatch_computes uses (begun ready).memory (begun ready).store)
  obtain ⟨-, reads, same⟩ := store_ready carries.1
  have begins : Grows step.card.store [] (begun ready).store := by
    rw [begun, same]
    exact .read _ _
  refine ⟨r, final.memory, entries, computes, ?_, ?_, ?_⟩
  · rw [after, processed]
    exact begins.trans grows
  · rw [processed]
  · rw [after, processed]

/-- After an answer that comes before a signature is counted the counter is as it was. -/
theorem counter_of_early {status : StatusWord} (carries : step.Carries ready whole)
    (uses : UsesKey whole .pw1Signing)
    (answered : Response.statusOf? (process step.env step.frame step.card).1 = some status)
    (early : status ∈ earlyStatuses) :
    step.after.store.inner.counter = step.card.store.inner.counter := by
  cases terminated : ready.memory.terminated with
  | true =>
    have inactive : whole.instruction ≠ .activate := by simp [uses.1]
    rw [carries.answer_of_terminated terminated inactive, Response.statusOf?_toFrame,
      Option.some.injEq] at answered
    subst answered
    exact absurd early (by decide)
  | false =>
    obtain ⟨r, memory, entries, computes, grows, replied, -⟩ := computes carries uses terminated
    rw [replied, Response.statusOf?_toFrame, Option.some.injEq] at answered
    subst answered
    exact grows.counter_of_not_written (computes.of_early early)

/-- The command that the frame makes whole. -/
def carried? {σ : Type} [Backend σ] (step : Step σ) : Option Command :=
  match ready? step.card, Command.ofFrame? step.frame with
  | some ready, .ok cmd =>
    if cmd.instruction = .select ∨ cmd.instruction = .invalidate then none
    else
      match ready.memory.chain.accept cmd with
      | (.complete whole, _) => some whole
      | _ => none
  | _, _ => none

theorem carried?_eq_some : step.carried? = some whole ↔ ∃ ready, step.Carries ready whole := by
  unfold carried?
  constructor
  · intro carried
    split at carried
    · rename_i ready cmd found parses
      split at carried
      · cases carried
      · rename_i passes
        split at carried
        · rename_i chain accepts
          cases carried
          exact ⟨ready, found, cmd, chain, parses, not_or.mp passes, accepts⟩
        · cases carried
    · cases carried
  · rintro ⟨ready, found, cmd, chain, parses, passes, accepts⟩
    rw [found, parses]
    dsimp only
    rw [if_neg (not_or.mpr passes), accepts]

/-- The step returns a signature of COMPUTE DIGITAL SIGNATURE. -/
def signs {σ : Type} [Backend σ] (step : Step σ) : Bool :=
  match step.carried? with
  | some whole =>
    decide (whole.instruction = .performSecurityOperation ∧ whole.p1p2 = signatureMode) &&
      step.succeeds
  | none => false

theorem signs_eq_true : step.signs = true ↔ step.Uses .pw1Signing := by
  unfold signs
  constructor
  · intro signed
    cases carried : step.carried? with
    | none => simp [carried] at signed
    | some whole =>
      simp only [carried, Bool.and_eq_true, decide_eq_true_eq] at signed
      obtain ⟨ready, carries⟩ := carried?_eq_some.mp carried
      exact ⟨ready, whole, carries, signed⟩
  · rintro ⟨ready, whole, carries, uses, done⟩
    rw [carried?_eq_some.mpr ⟨ready, carries⟩]
    simp only [Bool.and_eq_true, decide_eq_true_eq]
    exact ⟨uses, done⟩

end Step

/-! ## What a frame leaves -/

/-- The event is a frame that makes a command of some kind whole. -/
inductive Occurrence.Carries (o : Occurrence) (kind : Command → Prop) : Prop
  | command {env : Environment} {frame : Bytes} {card ready : Card FlakyStore} {whole : Command}
    (event : o.event = .frame env frame) (situation : o.situation = .on card)
    (carries : Step.Carries ⟨env, frame, card⟩ ready whole) (meets : kind whole)

/-- Entries that spare the counter, or those of a signature that was counted. -/
inductive Counts (counter : Nat) (renews signs : Prop) (entries : List JournalEntry) : Prop
  | spares (only : ∀ entry ∈ entries, SparesCounter renews entry)
  | raises (signs : signs) (room : counter < KeySlots.counterMax)
    (counted : entries = KeySlots.countedEntries counter)

section Counts

variable {counter : Nat} {renews renews' signs signs' : Prop} {entries : List JournalEntry}
  {store store' : FlakyStore}

theorem Counts.mono (h : Counts counter renews signs entries) (more : renews → renews')
    (more' : signs → signs') : Counts counter renews' signs' entries := by
  cases h with
  | raises signs room counted => exact .raises (more' signs) room counted
  | spares only =>
    refine .spares fun entry member => ?_
    have spares := only entry member
    cases entry with
    | blob name data => exact fun same => more (spares same)
    | audit step => exact spares
    | _ => trivial

theorem Computes.counts {memory memory' : Memory} {message : Bytes} {r : Except CardError Bytes}
    (h : Computes memory message r memory' entries) (used : signs) :
    Counts memory.keys.counter renews signs entries := by
  cases h with
  | denied => exact .spares (List.forall_mem_nil _)
  | spends spends =>
    cases spends with
    | keyless | long | full => exact .spares (List.forall_mem_nil _)
    | refused =>
      refine .spares fun entry member => ?_
      rw [List.mem_singleton.mp member]
      trivial
    | counted _ _ room => exact .raises used room rfl

theorem dispatch_counts (env : Environment) (cmd : Command) (memory : Memory) :
    Logs (dispatch env cmd) memory fun _ _ entries =>
      Counts memory.keys.counter (RenewsKey cmd) (UsesKey cmd .pw1Signing) entries := by
  by_cases uses : UsesKey cmd .pw1Signing
  · exact (dispatch_computes uses memory).mono fun _ _ _ computes => computes.counts uses
  · exact (dispatch_spares uses memory).mono fun _ _ _ only => .spares only

/-- A store that took what is written of a signature has the counter raised by one. -/
theorem counter_of_counted (grows : Grows store (KeySlots.countedEntries counter) store')
    (room : counter < KeySlots.counterMax) : store'.inner.counter = counter + 1 := by
  have unwritten : ∀ data, JournalEntry.blob KeySlots.counterName data ∉
      [.audit (.keyUsed .signature)] := by
    intro data written
    cases List.mem_singleton.mp written
  exact Grows.counter_of_written room grows unwritten

theorem counter_of_spared (grows : Grows store entries store') (keeps : ¬ renews)
    (only : ∀ entry ∈ entries, SparesCounter renews entry) :
    store'.inner.counter = store.inner.counter :=
  grows.counter_of_not_written fun _ written => keeps (only _ written rfl)

/-- Unless there is another key, the counter does not decrease. -/
theorem Counts.le (h : Counts store.inner.counter renews signs entries)
    (grows : Grows store entries store') (keeps : ¬ renews) :
    store.inner.counter ≤ store'.inner.counter := by
  cases h with
  | spares only => rw [counter_of_spared grows keeps only]
  | raises _ room counted =>
    subst counted
    rw [counter_of_counted grows room]
    omega

/-- The signature key is used right after the write of the counter, raised by one, and once. -/
theorem Counts.order {earlier later : List JournalEntry} (h : Counts counter renews signs entries)
    (order : entries = earlier ++ .audit (.keyUsed .signature) :: later) :
    counter < KeySlots.counterMax ∧
      earlier = [.blob KeySlots.counterName
        (Bytes.ofNat KeySlots.counterLength (counter + 1))] ∧ later = [] := by
  cases h with
  | spares only =>
    have spares := only (.audit (.keyUsed .signature)) (by simp [order])
    exact absurd rfl spares
  | raises _ room counted =>
    refine ⟨room, ?_⟩
    rw [counted, KeySlots.countedEntries] at order
    match earlier with
    | [] => cases order
    | [_] =>
      cases order
      exact ⟨rfl, rfl⟩
    | _ :: _ :: more =>
      have ends : [] = more ++ .audit (.keyUsed .signature) :: later := by
        simp only [List.cons_append, List.cons.injEq] at order
        exact order.2.2
      simp at ends

end Counts

/-- The card on which a command is carried out has the counter of the store in memory. -/
theorem counter_begun {card ready : Card FlakyStore} (sound : SoundOn False card)
    (found : ready? card = some ready) :
    card.store.inner.counter = (begun ready).memory.keys.counter := by
  obtain ⟨holds, same⟩ := holds_ready sound found
  rw [← same, holds.counter_eq]
  rfl

/-- What a frame leaves in the journal of a sound card. -/
theorem frame_counts {card : Card FlakyStore} (sound : SoundOn False card) (env : Environment)
    (frame : Bytes) {o : Occurrence} (occurs : o = ⟨.frame env frame, .on card⟩) :
    ∃ entries, Grows card.store entries (process env frame card).2.store ∧ o.trail = entries ∧
      Counts card.store.inner.counter (o.Carries RenewsKey) (o.Carries (UsesKey · .pw1Signing))
        entries := by
  subst occurs
  obtain ⟨entries, grows, counts⟩ := process_logs (dispatch_counts env)
    (fun _ _ => .spares (List.forall_mem_nil _)) frame card
  refine ⟨entries, grows, grows.since, ?_⟩
  rcases counts with rfl | ⟨ready, whole, found, completes, counts⟩
  · exact .spares (List.forall_mem_nil _)
  · rw [counter_begun sound found]
    refine counts.mono ?_ ?_
    · exact fun renews => .command rfl rfl ⟨found, completes⟩ renews
    · exact fun signs => .command rfl rfl ⟨found, completes⟩ signs

end PgpCard.Card
