import PgpCard.Proofs.Card.Parts
import PgpCard.Proofs.Card.Values

/-!
# What gives a value

Of all that a card processes, few commands give new values to the objects that are read back.

* `Step.Changes` : what PUT DATA, SET RETRIES, a new key and an imported key give, as their answer
  and the journal tell;
* `Step.Gives` : the same for a step, where ACTIVATE gives a terminated card its first values;
* `Step.updates` : on a card that takes commands, the values differ by what the command gives, and by
  nothing else.
-/

set_option autoImplicit false

namespace PgpCard.Card

open Attempt

/-- What a command gives an object in a step that carries it out. -/
inductive Step.Changes (step : Step FlakyStore) (whole : Command) (object : DataObject)
    (value : Bytes) : Prop
  | put (instruction : whole.instruction = .putData) (named : whole.p1p2 = object.tag)
    (data : value = whole.data) (done : step.succeeds = true)
  /-- A limit for PW1 ends its lasting status, even if the store refuses what is written after. -/
  | limit {pw1 rc pw3 : UInt8} (instruction : whole.instruction = .setRetries)
    (limits : whole.data = [pw1, rc, pw3]) (nonzero : pw1 ≠ 0) (status : object = .passwordStatus)
    (off : value = [0]) (done : step.succeeds = true ∨ step.CutShort ∧ step.Wrote .lasting)
  /-- A new key, even if the store refuses the counter of a new signature key. -/
  | generated {id : SlotId} {key : Rsa.PrivateKey} {components : Rsa.Components}
    (makes : MakesKey whole id) (offers : KeySlots.Offers step.env key components)
    (described : Describes id (fingerprint components.n components.e step.env.now) step.env.now
      object value)
    (done : step.succeeds = true ∨ step.CutShort ∧ id = .signature)
  | imported {template : ImportTemplate} (instruction : whole.instruction = .importKey)
    (read : ImportTemplate.parse? whole.data = some template)
    (described : Describes template.slot KeyRecord.blankFingerprint 0 object value)
    (done : step.succeeds = true)

/-- A step gives an object a value. -/
inductive Step.Gives (step : Step FlakyStore) (object : DataObject) (value : Bytes) : Prop
  | changes {ready : Card FlakyStore} {whole : Command} (carries : step.Carries ready whole)
    (active : ready.memory.terminated = false) (changes : step.Changes whole object value)
  /-- ACTIVATE finds the card terminated. -/
  | renews {ready : Card FlakyStore} {whole : Command} (carries : step.Carries ready whole)
    (activates : whole.instruction = .activate) (terminated : ready.memory.terminated = true)
    (fresh : Persistent.factory.value? object = some value)

/-! ## PUT DATA and imports -/

section Commands

variable {env : Environment} {cmd : Command} {id : SlotId}

theorem putData_updates (cmd : Command) (memory : Memory) :
    Durably (putData cmd) memory memory.persistent fun r _ kept' =>
      memory.persistent.Updates (fun object value =>
        r.isOk = true ∧ cmd.p1p2 = object.tag ∧ value = cmd.data) kept' := by
  have failed : ∀ e : CardError, memory.persistent.Updates (fun object value =>
      (Except.error e : Except CardError Bytes).isOk = true ∧ cmd.p1p2 = object.tag ∧
        value = cmd.data) memory.persistent := fun e =>
    .none (fun _ _ changed => nomatch changed.1) fun _ => rfl
  unfold putData requireObject
  cases named : DataObject.ofTag? cmd.p1p2 with
  | none => exact Durably.throw_bind (failed _)
  | some object =>
    refine Durably.bind (Durably.pure (Durably.bind ?_))
    unfold requireAccess
    cases writable : object.writeAccess? with
    | none => exact Durably.throw (failed _)
    | some access =>
      refine Durably.held_bind ?_
      cases granted : access.granted memory.security with
      | false => exact Durably.throw (failed _)
      | true =>
        refine Durably.pure (Durably.bind (Durably.ofExcept ?_))
        cases checked : object.check cmd.data with
        | error e => exact failed e
        | ok =>
          refine Durably.bind ((write_durably memory checked).mono ?_)
          rintro (e | ⟨⟩) memory' kept' writes
          · rw [writes.unchanged]
            exact failed e
          · refine Durably.pure ((writes.updates checked).congr fun other value => ?_)
            have same : other = object ↔ cmd.p1p2 = other.tag := by
              constructor
              · rintro rfl
                exact (DataObject.tag_of_ofTag? named).symm
              · intro tag
                rw [tag, DataObject.ofTag?_tag] at named
                exact Option.some.inj named
            rw [same]
            exact (and_iff_right rfl).symm

theorem importKey_updates (cmd : Command) (memory : Memory) :
    Durably (importKey cmd) memory memory.persistent fun r _ kept' =>
      memory.persistent.Updates (fun object value => r.isOk = true ∧ ∃ template,
        ImportTemplate.parse? cmd.data = some template ∧
          Describes template.slot KeyRecord.blankFingerprint 0 object value) kept' := by
  have failed : ∀ e : CardError, memory.persistent.Updates (fun object value =>
      (Except.error e : Except CardError Bytes).isOk = true ∧ ∃ template,
        ImportTemplate.parse? cmd.data = some template ∧
          Describes template.slot KeyRecord.blankFingerprint 0 object value)
      memory.persistent := fun e =>
    .none (fun _ _ changed => nomatch changed.1) fun _ => rfl
  unfold importKey
  dsimp only
  split
  · exact Durably.throw_bind (failed _)
  · refine Durably.require_bind (fun _ => failed _) fun granted => ?_
    refine Durably.bind ((onKeys_durably (KeySlots.importKey_does _ cmd.data)).mono ?_)
    rintro r memory' kept' ⟨held, durable, rfl, rfl, imports⟩
    cases imports with
    | failed | refused => exact failed _
    | @done template key components read made split =>
      have rewrites := memory.persistent.rewrites_putSlot template.slot
        (KeySlots.imported (memory.keys.record template.slot) key components)
      have blank : KeyRecord.blankFingerprint.length = 20 := List.length_replicate
      refine Durably.pure ((rewrites.updates blank).congr fun object value => ?_)
      constructor
      · exact fun described => ⟨rfl, template, read, described⟩
      · rintro ⟨-, other, read', described⟩
        cases read.symm.trans read'
        exact described

/-! ## New keys -/

theorem dispatch_makes (makes : MakesKey cmd id) (memory : Memory) :
    Logs (dispatch env cmd) memory fun r _ entries =>
      KeySlots.Makes env memory.keys id r entries := by
  have known : ¬ (cmd.p1 ≠ 0x80 ∧ cmd.p1 ≠ 0x81) := fun other => other.1 makes.mode
  have new : cmd.p1 ≠ 0x81 := by rw [makes.mode]; decide
  unfold dispatch
  rw [makes.instruction]
  dsimp only
  unfold generateKeyPair
  rw [if_neg known, makes.template]
  dsimp only
  rw [if_neg new]
  have made : Logs (onKeys (KeySlots.generate env id)) memory fun r _ entries =>
      KeySlots.Makes env memory.keys id r entries :=
    Logs.onPart (KeySlots.generate_logs env memory.keys id)
  intro store
  exact leads_require_bind (fun _ => ⟨[], .refl _, .failed _⟩) fun _ => made store

/-- A store that has taken the record of a slot, and nothing else but the counter, has rewritten that
slot. -/
theorem rewrites_of_grows {store store' : FlakyStore} {kept kept' : Persistent} {record : KeyRecord}
    {later : List JournalEntry}
    (grows : Grows store (.blob id.recordName (Record.encode record) :: later) store')
    (quiet : ∀ entry ∈ later, ∀ cell : Cell, cell ≠ .counter → entry.content? cell.place = none)
    (before : Holds store.inner kept) (after : Holds store'.inner kept') :
    kept.Rewrites id record kept' := by
  have spared : ∀ cell : Cell, cell ≠ .slot id → cell ≠ .counter → cell.Agrees kept kept' := by
    intro cell other uncounted
    have apart : cell.place ≠ (Cell.slot id).place := fun same => other (Cell.place_inj same)
    refine before.agrees after ?_
    rw [grows.content]
    refine replay_of_quiet (fun entry member => ?_) _
    rcases List.mem_cons.mp member with rfl | member
    · exact if_neg apart
    · exact quiet entry member cell uncounted
  refine ⟨fun other => ?_, (spared .objects nofun nofun).symm, (spared .lasting nofun nofun).symm⟩
  by_cases same : other = id
  · subst same
    obtain ⟨content, found, denotes⟩ := after (.slot other)
    have unwritten : ∀ data, .blob other.recordName data ∉ later := by
      intro data member
      have none := quiet _ member (.slot other) nofun
      cases none.symm.trans (if_pos rfl)
    have written : store'.inner.at? (Cell.slot other).place =
        some (.inl (Record.encode record)) := grows.at?_of_written unwritten
    cases found.symm.trans written
    rw [if_pos rfl]
    exact Option.some.inj (denotes.symm.trans (Record.decode?_encode record))
  · rw [if_neg same]
    exact (spared (.slot other) (fun slot => same (Cell.slot.inj slot)) nofun).symm

/-! ## Other commands -/

/-- Secrets, the counter and the end of a card's life are not read back as objects. -/
theorem value?_of_same {kept kept' : Persistent} {object : DataObject}
    (records : ∀ id, kept'.keys.record id = kept.keys.record id)
    (objects : kept'.objects = kept.objects) (lasting : kept'.lasting = kept.lasting) :
    kept'.value? object = kept.value? object := by
  apply Persistent.value?_of_agrees
  cases object with
  | passwordStatus => exact lasting.symm
  | fingerprint id | caFingerprint id | generationTime id => exact (records id).symm
  | _ => exact objects.symm

/-- On a card that takes commands, the other commands change no value, and SET RETRIES none but the
PW1 status. -/
theorem Executes.value?_eq {memory memory' : Memory} {r : Except CardError Bytes}
    {kept' : Persistent} {object : DataObject} (h : Executes env cmd memory r memory' kept')
    (active : memory.terminated = false)
    (other : cmd.instruction ≠ .putData ∧ cmd.instruction ≠ .importKey ∧ ∀ id, ¬ MakesKey cmd id)
    (status : cmd.instruction = .setRetries → object ≠ .passwordStatus) :
    kept'.value? object = memory.persistent.value? object := by
  obtain ⟨no_put, no_import, no_key⟩ := other
  cases h with
  | leaves | uses => rfl
  | verifies | changes | resetsWithCode | resetsPw1 => exact value?_of_same (fun _ => rfl) rfl rfl
  | setsRetries instruction _ _ sets =>
    obtain ⟨_, _, _, _, -, rfl⟩ := sets.frame
    cases object with
    | passwordStatus => exact absurd rfl (status instruction)
    | _ => rfl
  | signs _ _ _ signs =>
    refine value?_of_same (fun id => ?_) rfl rfl
    rcases signs.counter with same | raised
    · exact congrArg (KeySlots.record · id) same
    · exact (congrArg (KeySlots.record · id) raised).trans (by cases id <;> rfl)
  | generates instruction mode named => exact absurd ⟨instruction, mode, named⟩ (no_key _)
  | imports instruction => exact absurd instruction no_import
  | puts instruction => exact absurd instruction no_put
  | terminates _ _ saved =>
    cases saved with
    | refused => rfl
    | done => exact value?_of_same (fun _ => rfl) rfl rfl
  | activates _ terminated => cases active.symm.trans terminated

end Commands

/-! ## Steps -/

namespace Step

variable {step : Step FlakyStore} {ready : Card FlakyStore} {whole : Command}
  {kept kept' : Persistent} {object : DataObject} {value : Bytes}

/-- What a command leaves in the store, the step leaves that carries it out. -/
theorem durable (post : Except CardError Bytes → Persistent → Prop)
    (sound : SoundOn False step.card) (carries : step.Carries ready whole)
    (other : whole.instruction ≠ .getResponse)
    (live : ready.memory.terminated = false ∨ whole.instruction = .activate)
    (durably : Durably (dispatch step.env whole) (begun ready).memory ready.memory.persistent
      fun r _ kept' => post r kept') :
    ∃ r kept', step.succeeds = r.isOk ∧ Holds step.after.store.inner kept' ∧ post r kept' := by
  have holds : Holds (begun ready).store.inner ready.memory.persistent :=
    (holds_ready sound carries.1).1
  obtain ⟨r, final, ⟨kept', holds', meets⟩, result, after⟩ :=
    Step.ended carries other live (durably (begun ready).store holds)
  refine ⟨r, kept', result, ?_, meets⟩
  rw [after]
  exact holds'

/-- The card on which a command is answered has the values that the store has. -/
theorem value?_ready (sound : SoundOn False step.card) (found : ready? step.card = some ready)
    (before : Holds step.card.store.inner kept) (object : DataObject) :
    kept.value? object = ready.memory.persistent.value? object := by
  obtain ⟨holds, same⟩ := holds_ready sound found
  exact holds.value?_eq before (by rw [same])

/-- A step that leaves at most one entry was not cut short. -/
theorem not_cutShort_of_length (short : step.trail.length ≤ 1) : ¬ step.CutShort := by
  rintro ⟨first, later, trail, -, done, refused, rfl, -⟩
  rw [trail, List.length_cons, List.length_append, List.length_singleton] at short
  omega

/-- A command for a new key gives what describes the key. -/
theorem changes_iff_of_makes {id : SlotId} {key : Rsa.PrivateKey} {components : Rsa.Components}
    (makes : MakesKey whole id) (offers : KeySlots.Offers step.env key components) :
    step.Changes whole object value ↔
      Describes id (fingerprint components.n components.e step.env.now) step.env.now object value ∧
        (step.succeeds = true ∨ step.CutShort ∧ id = .signature) := by
  constructor
  · rintro (⟨other⟩ | ⟨other⟩ | ⟨makes', offers', described, done⟩ | ⟨other⟩)
    · cases makes.instruction.symm.trans other
    · cases makes.instruction.symm.trans other
    · cases makes.template.symm.trans makes'.template
      cases offers.made.symm.trans offers'.made
      cases offers.split.symm.trans offers'.split
      exact ⟨described, done⟩
    · cases makes.instruction.symm.trans other
  · rintro ⟨described, done⟩
    exact .generated makes offers described done

/-- Where it fails without being cut short, it gives nothing. -/
theorem not_changes_of_makes {id : SlotId} (makes : MakesKey whole id)
    (failed : step.succeeds = false) (uncut : ¬ step.CutShort) :
    ¬ step.Changes whole object value := by
  rintro (⟨other⟩ | ⟨other⟩ | ⟨-, -, -, done | cut⟩ | ⟨other⟩)
  · cases makes.instruction.symm.trans other
  · cases makes.instruction.symm.trans other
  · cases failed.symm.trans done
  · exact uncut cut.1
  · cases makes.instruction.symm.trans other

/-- SET RETRIES gives nothing but a PW1 status of zero. -/
theorem changes_iff_of_limits (instruction : whole.instruction = .setRetries) :
    step.Changes whole object value ↔ (object = .passwordStatus ∧ value = [0]) ∧
      (∃ pw1 rc pw3, whole.data = [pw1, rc, pw3] ∧ pw1 ≠ 0) ∧
      (step.succeeds = true ∨ step.CutShort ∧ step.Wrote .lasting) := by
  constructor
  · rintro (⟨other⟩ | ⟨-, data, nonzero, status, off, done⟩ | ⟨makes⟩ | ⟨other⟩)
    · cases instruction.symm.trans other
    · exact ⟨⟨status, off⟩, ⟨_, _, _, data, nonzero⟩, done⟩
    · cases instruction.symm.trans makes.instruction
    · cases instruction.symm.trans other
  · rintro ⟨⟨status, off⟩, ⟨pw1, rc, pw3, data, nonzero⟩, done⟩
    exact .limit instruction data nonzero status off done

/-- Where the PW1 status is not written, it gives nothing. -/
theorem not_changes_of_spared (instruction : whole.instruction = .setRetries)
    (spares : SparesStatus step.trail)
    (zero : step.succeeds = true → ∃ rc pw3, whole.data = [0, rc, pw3]) :
    ¬ step.Changes whole object value := by
  intro changes
  obtain ⟨-, ⟨pw1, rc, pw3, data, nonzero⟩, done⟩ := (changes_iff_of_limits instruction).mp changes
  rcases done with done | ⟨-, entry, member, wrote⟩
  · obtain ⟨rc', pw3', data'⟩ := zero done
    cases data.symm.trans data'
    exact nonzero rfl
  · rw [spares entry member] at wrote
    cases wrote

/-- Where it is written, it gives that status, whatever is refused later. -/
theorem changes_of_reset (instruction : whole.instruction = .setRetries) {pw1 rc pw3 : UInt8}
    (data : whole.data = [pw1, rc, pw3]) (nonzero : pw1 ≠ 0) {record : Bytes}
    {later : List JournalEntry}
    (order : step.trail = .blob SecretId.pw1.recordName record :: .byte pw1StatusKey 0 :: later)
    (cut : step.succeeds = false → EndsRefused later) :
    step.Changes whole .passwordStatus [0] := by
  refine .limit instruction data nonzero rfl rfl ?_
  cases succeeds : step.succeeds with
  | true => exact .inl rfl
  | false =>
    have first : ∃ place, ((JournalEntry.blob SecretId.pw1.recordName record).content?
        place).isSome = true := ⟨.blob SecretId.pw1.recordName, rfl⟩
    have ends : EndsRefused ([.byte pw1StatusKey 0] ++ later) := (cut succeeds).append
    refine .inr ⟨⟨_, _, order, first, ends⟩, .byte pw1StatusKey 0, ?_, rfl⟩
    simp [order]

section Carried

variable (sound : SoundOn False step.card) (carries : step.Carries ready whole)
  (active : ready.memory.terminated = false) (before : Holds step.card.store.inner kept)
  (after : Holds step.after.store.inner kept')

include sound carries active before after

/-- What is known of a command in terms of the result is known of the step. -/
theorem updates_of_durably (changes : Bool → DataObject → Bytes → Prop)
    (other : whole.instruction ≠ .getResponse)
    (durably : Durably (dispatch step.env whole) (begun ready).memory ready.memory.persistent
      fun r _ kept' => ready.memory.persistent.Updates (changes r.isOk) kept') :
    kept.Updates (changes step.succeeds) kept' := by
  obtain ⟨r, kept'', result, holds, updates⟩ :=
    durable (fun r kept' => ready.memory.persistent.Updates (changes r.isOk) kept')
      sound carries other (.inl active) durably
  rw [result]
  exact updates.transfer (value?_ready sound carries.1 before) fun object =>
    holds.value?_eq after rfl

theorem updates_put (instruction : whole.instruction = .putData) :
    kept.Updates (step.Changes whole) kept' := by
  have durably : Durably (dispatch step.env whole) (begun ready).memory ready.memory.persistent
      fun r _ kept' => ready.memory.persistent.Updates (fun object value =>
        r.isOk = true ∧ whole.p1p2 = object.tag ∧ value = whole.data) kept' := by
    unfold dispatch
    rw [instruction]
    exact putData_updates whole (begun ready).memory
  have updates := updates_of_durably sound carries active before after
    (fun okay object value => okay = true ∧ whole.p1p2 = object.tag ∧ value = whole.data)
    (by simp [instruction]) durably
  refine updates.congr fun object value => ?_
  constructor
  · rintro ⟨done, named, data⟩
    exact .put instruction named data done
  · rintro (⟨-, named, data, done⟩ | ⟨other⟩ | ⟨makes⟩ | ⟨other⟩)
    · exact ⟨done, named, data⟩
    · cases instruction.symm.trans other
    · cases instruction.symm.trans makes.instruction
    · cases instruction.symm.trans other

theorem updates_import (instruction : whole.instruction = .importKey) :
    kept.Updates (step.Changes whole) kept' := by
  have durably : Durably (dispatch step.env whole) (begun ready).memory ready.memory.persistent
      fun r _ kept' => ready.memory.persistent.Updates (fun object value =>
        r.isOk = true ∧ ∃ template, ImportTemplate.parse? whole.data = some template ∧
          Describes template.slot KeyRecord.blankFingerprint 0 object value) kept' := by
    unfold dispatch
    rw [instruction]
    exact importKey_updates whole (begun ready).memory
  have updates := updates_of_durably sound carries active before after
    (fun okay object value => okay = true ∧ ∃ template,
      ImportTemplate.parse? whole.data = some template ∧
        Describes template.slot KeyRecord.blankFingerprint 0 object value)
    (by simp [instruction]) durably
  refine updates.congr fun object value => ?_
  constructor
  · rintro ⟨done, template, read, described⟩
    exact .imported instruction read described done
  · rintro (⟨other⟩ | ⟨other⟩ | ⟨makes⟩ | ⟨-, read, described, done⟩)
    · cases instruction.symm.trans other
    · cases instruction.symm.trans other
    · cases instruction.symm.trans makes.instruction
    · exact ⟨done, _, read, described⟩

theorem updates_made {id : SlotId} (makes : MakesKey whole id) :
    kept.Updates (step.Changes whole) kept' := by
  obtain ⟨holds, inner⟩ := holds_ready sound carries.1
  rw [inner] at holds
  suffices updates : ready.memory.persistent.Updates (step.Changes whole) kept' from
    updates.transfer (value?_ready sound carries.1 before) fun _ => rfl
  have other : whole.instruction ≠ .getResponse := by simp [makes.instruction]
  obtain ⟨r, result, grows, made⟩ :=
    logged carries other (.inl active) (dispatch_makes makes (begun ready).memory)
  have full : ∀ n e : Bytes, (fingerprint n e step.env.now).length = 20 := fun _ _ =>
    Digest.length_sha1 _
  generalize trail : step.trail = entries at grows made
  cases made with
  | failed | refused =>
    have uncut : ¬ step.CutShort := not_cutShort_of_length (by simp [trail])
    refine .none (fun _ _ => not_changes_of_makes makes result uncut) fun object => ?_
    exact holds.value?_eq after (grows.content _)
  | uncounted offers signature =>
    have cut : step.CutShort := by
      refine ⟨_, _, trail, ⟨.blob id.recordName, ?_⟩, [], _, rfl, rfl⟩
      exact congrArg Option.isSome (if_pos rfl)
    refine ((rewrites_of_grows grows ?_ holds after).updates (full _ _)).congr fun object value => ?_
    · intro entry member cell _
      rw [List.mem_singleton.mp member]
      rfl
    · rw [changes_iff_of_makes makes offers]
      exact (and_iff_left (.inr ⟨cut, signature⟩)).symm
  | counted offers shown =>
    refine ((rewrites_of_grows grows ?_ holds after).updates (full _ _)).congr fun object value => ?_
    · intro entry member cell uncounted
      rw [List.mem_singleton.mp member]
      have apart : cell.place ≠ Cell.counter.place := fun same => uncounted (Cell.place_inj same)
      exact if_neg apart
    · rw [changes_iff_of_makes makes offers]
      exact (and_iff_left (.inl result)).symm
  | filled offers shown =>
    refine ((rewrites_of_grows grows ?_ holds after).updates (full _ _)).congr fun object value => ?_
    · exact fun entry member => nomatch member
    · rw [changes_iff_of_makes makes offers]
      exact (and_iff_left (.inl result)).symm

/-- The other commands keep the values, and SET RETRIES all but the PW1 status. -/
theorem value?_of_carried (more : whole.instruction ≠ .getResponse)
    (other : whole.instruction ≠ .putData ∧ whole.instruction ≠ .importKey ∧
      ∀ id, ¬ MakesKey whole id)
    (status : whole.instruction = .setRetries → object ≠ .passwordStatus) :
    kept'.value? object = kept.value? object := by
  have durably : Durably (dispatch step.env whole) (begun ready).memory ready.memory.persistent
      fun r _ kept' => ∃ memory', Executes step.env whole (begun ready).memory r memory' kept' :=
    (dispatch_durably step.env whole (begun ready).memory).mono fun _ memory' _ executes =>
      ⟨memory', executes⟩
  obtain ⟨r, kept'', -, holds, memory', executes⟩ := durable
    (fun r kept' => ∃ memory', Executes step.env whole (begun ready).memory r memory' kept')
    sound carries more (.inl active) durably
  calc
    kept'.value? object = kept''.value? object := holds.value?_eq after rfl
    _ = ready.memory.persistent.value? object := executes.value?_eq active other status
    _ = kept.value? object := (value?_ready sound carries.1 before object).symm

theorem updates_limits (instruction : whole.instruction = .setRetries) :
    kept.Updates (step.Changes whole) kept' := by
  have more : whole.instruction ≠ .getResponse := by simp [instruction]
  have others : ∀ object, object ≠ .passwordStatus → kept'.value? object = kept.value? object := by
    intro object apart
    refine value?_of_carried sound carries active before after more ?_ fun _ => apart
    refine ⟨by simp [instruction], by simp [instruction], fun id makes => ?_⟩
    cases instruction.symm.trans makes.instruction
  have logs : Logs (dispatch step.env whole) (begun ready).memory fun r _ entries =>
      Limits whole r entries := by
    unfold dispatch
    rw [instruction]
    exact setRetries_logs whole (begun ready).memory
  obtain ⟨r, result, grows, limits⟩ := logged carries more (.inl active) logs
  cases limits with
  | spared spares zero =>
    refine .none (fun _ _ => ?_) fun object => ?_
    · exact not_changes_of_spared instruction spares fun done => zero (result.symm.trans done)
    · by_cases status : object = .passwordStatus
      · subst status
        exact before.value?_eq after ((grows.content _).trans (replay_of_quiet spares _))
      · exact others object status
  | @reset pw1 rc pw3 record later data nonzero order spares cut =>
    have changes := changes_of_reset instruction data nonzero order fun failed =>
      cut (result.symm.trans failed)
    have written : step.after.store.inner.at? Cell.lasting.place = some (.inr 0) := by
      have order : step.trail =
          [.blob SecretId.pw1.recordName record] ++ .byte pw1StatusKey 0 :: later := order
      rw [grows.content, order]
      exact replay_of_written rfl spares _
    constructor
    · rintro object value changes -
      obtain ⟨⟨rfl, rfl⟩, -⟩ := (changes_iff_of_limits instruction).mp changes
      exact after.value?_status written
    · intro object unchanged
      refine others object fun status => ?_
      subst status
      exact unchanged [0] changes

/-- The values differ by what the command gives, and by nothing else. -/
theorem updates (more : whole.instruction ≠ .getResponse) :
    kept.Updates (step.Changes whole) kept' := by
  by_cases put : whole.instruction = .putData
  · exact updates_put sound carries active before after put
  by_cases imports : whole.instruction = .importKey
  · exact updates_import sound carries active before after imports
  by_cases limits : whole.instruction = .setRetries
  · exact updates_limits sound carries active before after limits
  by_cases makes : ∃ id, MakesKey whole id
  · obtain ⟨id, makes⟩ := makes
    exact updates_made sound carries active before after makes
  · refine .none (fun object value changes => ?_) fun object => ?_
    · cases changes with
      | put instruction => exact put instruction
      | limit instruction => exact limits instruction
      | generated made => exact makes ⟨_, made⟩
      | imported instruction => exact imports instruction
    · exact value?_of_carried sound carries active before after more
        ⟨put, imports, not_exists.mp makes⟩ fun instruction => absurd instruction limits

end Carried

end Step

end PgpCard.Card
