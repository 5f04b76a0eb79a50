import PgpCard.Proofs.Card.Generation
import PgpCard.Proofs.Card.Renewal
import PgpCard.Proofs.Card.Stretch
import PgpCard.Proofs.Key.Counting

/-!
# Commands that write in several parts

SET RETRIES, ACTIVATE and the generation of a signature key make several writes one after another.
Where the store refuses one of them, those before it have been done.

* `Step.CutShort` : the store takes the first write of a step and refuses a later one;
* `KeySlots.Makes`, `Limits` : what the generation of a key and SET RETRIES leave in the journal;
* `Step.logged` : what is known of the journal of a command is known of a step that carries it.
-/

set_option autoImplicit false

namespace PgpCard

open Card Attempt

/-! ## Keys -/

namespace KeySlots

/-- The ways in which the generation of a key can end, with what it leaves in the journal. -/
inductive Makes (env : Environment) (keys : KeySlots) (id : SlotId) :
    Except CardError Bytes → List JournalEntry → Prop
  | failed (e : CardError) : Makes env keys id (.error e) []
  | refused (e : CardError) : Makes env keys id (.error e) [.refusedBlob id.recordName]
  | uncounted {key : Rsa.PrivateKey} {components : Rsa.Components}
    (offers : Offers env key components) (signature : id = .signature) (e : CardError) :
    Makes env keys id (.error e)
      [.blob id.recordName (Record.encode (generated env (keys.record id) key components).record),
        .refusedBlob counterName]
  | counted {key : Rsa.PrivateKey} {components : Rsa.Components}
    (offers : Offers env key components) (shown : Bytes) :
    Makes env keys id (.ok shown)
      [.blob id.recordName (Record.encode (generated env (keys.record id) key components).record),
        .blob counterName (Bytes.ofNat counterLength 0)]
  | filled {key : Rsa.PrivateKey} {components : Rsa.Components}
    (offers : Offers env key components) (shown : Bytes) :
    Makes env keys id (.ok shown)
      [.blob id.recordName (Record.encode (generated env (keys.record id) key components).record)]

theorem commit_logs (keys : KeySlots) (id : SlotId) (content : KeySlot) :
    Logs (commit id content) keys fun r _ entries =>
      match r with
      | .ok () => entries = [.blob id.recordName (Record.encode content.record)]
      | .error _ => entries = [.refusedBlob id.recordName] := by
  refine Logs.bind (Logs.writeBlob ?_ fun _ => rfl)
  exact Logs.adjust rfl

theorem generate_logs (env : Environment) (keys : KeySlots) (id : SlotId) :
    Logs (generate env id) keys fun r _ entries => Makes env keys id r entries := by
  refine Logs.bind (Logs.mapError (Logs.ofExcept ?_))
  cases made : env.newKey () with
  | error e => exact .failed _
  | ok key =>
    refine Logs.bind (Logs.mapError (Logs.ofExcept ?_))
    cases split : key.components? with
    | error e => exact .failed _
    | ok components =>
      have offers : Offers env key components := ⟨made, split⟩
      refine Logs.held_bind (Logs.bind (Logs.mapError ((commit_logs keys id
        (generated env (keys.record id) key components)).mono ?_)))
      rintro (e | ⟨⟩) keys' entries rfl
      · exact .refused _
      · dsimp only [Except.mapError]
        split
        · rename_i signature
          refine Logs.bind (Logs.mapError ((setCounter_logs keys' (Nat.zero_le _)).mono ?_))
          rintro (e | ⟨⟩) keys'' later ⟨-, rfl⟩
          · exact .uncounted offers signature _
          · exact Logs.pure (.counted offers _)
        · exact Logs.pure (.filled offers _)

end KeySlots

namespace Card

/-! ## Limits -/

/-- No entry is about the PW1 status. -/
def SparesStatus (entries : List JournalEntry) : Prop :=
  ∀ entry ∈ entries, entry.content? Cell.lasting.place = none

/-- The last entry is a refusal. -/
def EndsRefused (entries : List JournalEntry) : Prop :=
  ∃ done refused, entries = done ++ [refused] ∧ refused.isRefusal = true

/-- The ways in which SET RETRIES can end, with what it leaves in the journal: the PW1 status is not
written, or it is written right after the record of PW1. -/
inductive Limits (cmd : Command) (r : Except CardError Bytes) (entries : List JournalEntry) : Prop
  | spared (spares : SparesStatus entries)
    (zero : r.isOk = true → ∃ rc pw3, cmd.data = [0, rc, pw3])
  | reset {pw1 rc pw3 : UInt8} {record : Bytes} {later : List JournalEntry}
    (data : cmd.data = [pw1, rc, pw3]) (nonzero : pw1 ≠ 0)
    (order : entries = .blob SecretId.pw1.recordName record :: .byte pw1StatusKey 0 :: later)
    (spares : SparesStatus later) (cut : r.isOk = false → EndsRefused later)

theorem sparesStatus_blob (name : String) (data : Bytes) :
    SparesStatus [.blob name data] := by
  intro entry member
  rw [List.mem_singleton.mp member]
  rfl

theorem sparesStatus_refusedBlob (name : String) : SparesStatus [.refusedBlob name] := by
  intro entry member
  rw [List.mem_singleton.mp member]
  rfl

theorem SparesStatus.append {entries later : List JournalEntry} (h : SparesStatus entries)
    (h' : SparesStatus later) : SparesStatus (entries ++ later) := fun entry member =>
  (List.mem_append.mp member).elim (h entry) (h' entry)

theorem EndsRefused.append {entries later : List JournalEntry} (h : EndsRefused later) :
    EndsRefused (entries ++ later) := by
  obtain ⟨done, refused, rfl, kind⟩ := h
  exact ⟨entries ++ done, refused, (List.append_assoc _ _ _).symm, kind⟩

/-- A limit of another secret is no matter of the PW1 status. -/
theorem setLimit_logs (memory : Memory) {id : SecretId} (other : id ≠ .pw1) (limit : UInt8) :
    Logs (setLimit id limit) memory fun r _ entries =>
      SparesStatus entries ∧ (r.isOk = false → EndsRefused entries) := by
  unfold setLimit
  split
  · refine Logs.bind (Logs.mapError (Logs.onPart ((Secrets.replace_logs _ id _).mono ?_)))
    rintro (e | ⟨⟩) secrets entries ⟨-, rfl⟩
    · exact ⟨sparesStatus_refusedBlob _, fun _ => ⟨[], _, rfl, rfl⟩⟩
    · dsimp only [Except.mapError]
      exact Logs.pure ⟨sparesStatus_blob _ _, nofun⟩
  · exact Logs.pure ⟨List.forall_mem_nil _, nofun⟩

theorem setLimit_pw1_logs (memory : Memory) (limit : UInt8) :
    Logs (setLimit .pw1 limit) memory fun r _ entries =>
      SparesStatus entries ∧ (r.isOk = true → limit = 0) ∨
        limit ≠ 0 ∧ r.isOk = true ∧ ∃ record,
          entries = [.blob SecretId.pw1.recordName record, .byte pw1StatusKey 0] := by
  unfold setLimit
  split
  · rename_i nonzero
    refine Logs.bind (Logs.mapError (Logs.onPart ((Secrets.replace_logs _ .pw1 _).mono ?_)))
    rintro (e | ⟨⟩) secrets entries ⟨-, rfl⟩
    · exact .inl ⟨sparesStatus_refusedBlob _, nofun⟩
    · dsimp only [Except.mapError]
      rw [if_pos rfl]
      refine Logs.bind (Logs.mapError (Logs.writeByte ?_ fun e => ?_))
      · exact Logs.adjust (.inr ⟨nonzero, rfl, _, rfl⟩)
      · refine .inl ⟨(sparesStatus_blob _ _).append ?_, nofun⟩
        intro entry member
        rw [List.mem_singleton.mp member]
        rfl
  · rename_i zero
    exact Logs.pure (.inl ⟨List.forall_mem_nil _, fun _ => by simpa using zero⟩)

/-- Nor are the limits of the other two together. -/
theorem otherLimits_logs (memory : Memory) (rc pw3 : UInt8) :
    Logs (do
      setLimit .rc rc
      setLimit .pw3 pw3
      return []) memory fun r _ entries =>
        SparesStatus entries ∧ ((r : Except CardError Bytes).isOk = false → EndsRefused entries) := by
  refine Logs.bind ((setLimit_logs memory (by decide) rc).mono ?_)
  rintro (e | ⟨⟩) memory₁ entries ⟨spares, ends⟩
  · exact ⟨spares, fun _ => ends rfl⟩
  · refine Logs.bind ((setLimit_logs memory₁ (by decide) pw3).mono ?_)
    rintro (e | ⟨⟩) memory₂ later ⟨spares', ends'⟩
    · exact ⟨spares.append spares', fun _ => (ends' rfl).append⟩
    · refine Logs.pure ?_
      rw [List.append_nil]
      exact ⟨spares.append spares', nofun⟩

theorem setRetries_logs (cmd : Command) (memory : Memory) :
    Logs (setRetries cmd) memory fun r _ entries => Limits cmd r entries := by
  unfold setRetries
  split
  · rename_i pw1 rc pw3 data
    have limits : Logs (do
        setLimit .pw1 pw1
        setLimit .rc rc
        setLimit .pw3 pw3
        return []) memory fun r _ entries => Limits cmd r entries := by
      refine Logs.bind ((setLimit_pw1_logs memory pw1).mono ?_)
      rintro (e | ⟨⟩) memory₁ entries (⟨spares, zero⟩ | ⟨nonzero, done, record, rfl⟩)
      · exact .spared spares nofun
      · cases done
      · refine (otherLimits_logs memory₁ rc pw3).mono ?_
        rintro r memory₂ later ⟨spares', -⟩
        exact .spared (spares.append spares') fun _ => ⟨rc, pw3, by rw [data, zero rfl]⟩
      · refine (otherLimits_logs memory₁ rc pw3).mono ?_
        rintro r memory₂ later ⟨spares', ends⟩
        exact .reset data nonzero rfl spares' ends
    intro store
    refine leads_require_bind (fun _ => ?_) fun _ => limits store
    exact ⟨[], .refl _, .spared (List.forall_mem_nil _) nofun⟩
  · exact Logs.throw (.spared (List.forall_mem_nil _) nofun)

/-! ## Steps -/

namespace Step

variable {step : Step FlakyStore} {ready : Card FlakyStore} {whole : Command}

/-- The entries that a step adds to the journal. -/
def trail (step : Step FlakyStore) : List JournalEntry := step.after.store.since step.card.store

/-- The store takes the first write of a step and refuses a later one. -/
def CutShort (step : Step FlakyStore) : Prop :=
  ∃ first later, step.trail = first :: later ∧ (∃ place, (first.content? place).isSome = true) ∧
    EndsRefused later

/-- The store takes a write of a cell during a step. -/
def Wrote (step : Step FlakyStore) (cell : Cell) : Prop :=
  ∃ entry ∈ step.trail, (entry.content? cell.place).isSome = true

/-- What a command leaves in the journal, the step leaves that carries it out. -/
theorem logged {post : Except CardError Bytes → List JournalEntry → Prop}
    (carries : step.Carries ready whole) (other : whole.instruction ≠ .getResponse)
    (live : ready.memory.terminated = false ∨ whole.instruction = .activate)
    (logs : Logs (dispatch step.env whole) (begun ready).memory fun r _ entries => post r entries) :
    ∃ r, step.succeeds = r.isOk ∧ Grows step.card.store step.trail step.after.store ∧
      post r step.trail := by
  obtain ⟨r, final, ⟨entries, grows, meets⟩, result, after⟩ :=
    Step.ended carries other live (logs (begun ready).store)
  obtain ⟨-, reads, same⟩ := store_ready carries.1
  have begins : Grows step.card.store [] (begun ready).store := by
    rw [begun, same]
    exact .read _ _
  have grows : Grows step.card.store entries step.after.store := by
    rw [after]
    exact begins.trans grows
  have trail : step.trail = entries := grows.since
  rw [trail]
  exact ⟨r, result, grows, meets⟩

end Step

end Card

end PgpCard
