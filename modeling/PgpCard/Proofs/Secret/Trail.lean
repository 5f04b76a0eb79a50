import PgpCard.Proofs.Secret.Outcomes
import PgpCard.Proofs.Store.Journal

/-!
# What an attempt at a secret leaves in the journal

The journal tells when a record was written and when a candidate was compared.  An attempt begins
with the write of the record with one attempt less; the comparison comes next, and only then
anything else.

* `JournalEntry.WritesOnly allowed` : the entry is no comparison, and if it writes the record of a
  secret then of an allowed one;
* `Paid` : an attempt was paid for and made, in this order;
* `Pays` : an attempt that was made was paid for;
* `check_logs` : so it is for one attempt, and `verify_logs`, `change_logs`, `resetWithCode_logs`
  for the rules on top of it.
-/

set_option autoImplicit false

namespace PgpCard

theorem SecretId.recordName_inj {id other : SecretId} (h : id.recordName = other.recordName) :
    id = other := by
  revert h
  cases id <;> cases other <;> decide

namespace JournalEntry

/-- The entry is no comparison, and if it writes the record of a secret then of an allowed one. -/
def WritesOnly (allowed : SecretId → Prop) : JournalEntry → Prop
  | .blob name _ => ∀ id : SecretId, name = id.recordName → allowed id
  | .audit (.compared _) => False
  | _ => True

variable {allowed allowed' : SecretId → Prop} {entry : JournalEntry}

theorem WritesOnly.mono (h : entry.WritesOnly allowed) (more : ∀ id, allowed id → allowed' id) :
    entry.WritesOnly allowed' := by
  cases entry with
  | blob name data => exact fun id same => more id (h id same)
  | audit step => cases step <;> exact h
  | _ => trivial

/-- The name is that of no record of a secret, or of an allowed one. -/
def Spared (allowed : SecretId → Prop) (name : String) : Prop :=
  ∀ id : SecretId, name = id.recordName → allowed id

/-- The step is no comparison. -/
def Untried (step : Audit) : Prop := ∀ id, step ≠ .compared id

theorem spared_record {id : SecretId} (h : allowed id) : Spared allowed id.recordName := by
  intro other same
  rw [← SecretId.recordName_inj same]
  exact h

theorem WritesOnly.of_within (h : entry.Within (Spared allowed) Untried) :
    entry.WritesOnly allowed := by
  cases entry with
  | blob name data => exact h
  | audit step =>
    cases step with
    | compared id => exact h id rfl
    | keyUsed id => trivial
  | _ => trivial

end JournalEntry

theorem Card.Emits.writesOnly {ε β α : Type} {allowed : SecretId → Prop}
    {act : Attempt ε (Kept β FlakyStore) α}
    (h : Card.Emits (JournalEntry.Within (JournalEntry.Spared allowed) JournalEntry.Untried) act) :
    Card.Emits (JournalEntry.WritesOnly allowed) act :=
  h.mono fun _ => .of_within

namespace Secrets

open Card JournalEntry

/-- An attempt was paid for and made: the record with one attempt less was written, then a candidate
was compared, and after that only allowed records were written. -/
structure Paid (secrets : Secrets) (id : SecretId) (allowed : SecretId → Prop)
    (entries : List JournalEntry) : Prop where
  some_left : (secrets.record id).isBlocked = false
  order : ∃ rest, entries = .blob id.recordName (Record.encode (secrets.record id).spent) ::
    .audit (.compared id) :: rest ∧ ∀ entry ∈ rest, entry.WritesOnly allowed

/-- An attempt that was made was paid for, and only refilled records were written besides. -/
def Pays (secrets : Secrets) (id : SecretId) (refills : SecretId → Prop)
    (entries : List JournalEntry) : Prop :=
  (∀ entry ∈ entries, entry.WritesOnly refills) ∨
    Paid secrets id (fun other => other = id ∨ refills other) entries

variable {secrets : Secrets} {id : SecretId} {allowed allowed' refills : SecretId → Prop}
  {names : String → Prop} {notes : Audit → Prop} {entries later : List JournalEntry}

theorem Paid.append (h : Paid secrets id allowed entries)
    (more : ∀ entry ∈ later, entry.WritesOnly allowed) :
    Paid secrets id allowed (entries ++ later) where
  some_left := h.some_left
  order := by
    obtain ⟨rest, rfl, only⟩ := h.order
    refine ⟨rest ++ later, rfl, fun entry member => ?_⟩
    exact (List.mem_append.mp member).elim (only entry) (more entry)

theorem Paid.mono (h : Paid secrets id allowed entries) (more : ∀ id, allowed id → allowed' id) :
    Paid secrets id allowed' entries where
  some_left := h.some_left
  order := by
    obtain ⟨rest, rfl, only⟩ := h.order
    exact ⟨rest, rfl, fun entry member => (only entry member).mono more⟩

/-! ## One record -/

/-- A record that replaces another one is written once. -/
theorem replace_logs (secrets : Secrets) (id : SecretId) (record : SecretRecord) :
    Logs (replace id record) secrets fun r held entries => held = secrets.put id record ∧
      match r with
      | .ok () => entries = [.blob id.recordName (Record.encode record)]
      | .error _ => entries = [.refusedBlob id.recordName] := by
  refine Logs.adjust_bind (Logs.held_bind ?_)
  rw [record_put, if_pos rfl]
  exact Logs.writeBlob ⟨rfl, rfl⟩ fun _ => ⟨rfl, rfl⟩

theorem replace_emits {record : SecretRecord} (h : names id.recordName) :
    Emits (Within names notes) (replace id record) := by
  intro secrets
  refine (replace_logs secrets id record).mono ?_
  rintro (e | ⟨⟩) held entries ⟨-, rfl⟩ entry member
  · rw [List.mem_singleton.mp member]
    trivial
  · rw [List.mem_singleton.mp member]
    exact h

theorem setValue_emits {value : Bytes} (h : names id.recordName) :
    Emits (Within names notes) (setValue id value) :=
  Emits.bind Emits.held fun _ => replace_emits h

theorem clearCode_emits (h : names SecretId.rc.recordName) :
    Emits (Within names notes) clearCode :=
  Emits.bind Emits.held fun _ => replace_emits h

theorem resetWithLimit_emits {limit : UInt8} (h : names id.recordName) :
    Emits (Within names notes) (resetWithLimit id limit) :=
  replace_emits h

theorem resetPw1_emits {value : Bytes} (h : names SecretId.pw1.recordName) :
    Emits (Within names notes) (resetPw1 value) := by
  unfold resetPw1
  dsimp only
  split
  · exact Emits.throw_bind
  · exact Emits.mapError (setValue_emits h)

/-! ## One attempt -/

/-- A comparison comes after the write that pays for it.  An attempt that comes to a verdict was
paid for. -/
theorem check_logs (secrets : Secrets) (id : SecretId) (candidate : Bytes) :
    Logs (check id candidate) secrets fun r _ entries =>
      match r with
      | .ok _ => Paid secrets id (· = id) entries
      | .error _ => Paid secrets id (· = id) entries ∨
        ∀ entry ∈ entries, entry.WritesOnly fun _ => False := by
  refine Logs.held_bind ?_
  dsimp only
  split
  · exact Logs.throw_bind (.inr (List.forall_mem_nil _))
  · rename_i some_left
    rw [Bool.not_eq_true] at some_left
    refine Logs.bind (Logs.mapError ((replace_logs secrets id _).mono ?_))
    rintro (e | ⟨⟩) held entries ⟨-, rfl⟩
    · refine .inr fun entry member => ?_
      rw [List.mem_singleton.mp member]
      trivial
    · have paid : Paid secrets id (· = id)
          [.blob id.recordName (Record.encode (secrets.record id).spent), .audit (.compared id)] :=
        ⟨some_left, [], rfl, List.forall_mem_nil _⟩
      refine Logs.bind (Logs.note ?_)
      dsimp only
      split
      · have own : Spared (· = id) id.recordName := spared_record rfl
        refine Logs.bind (Logs.mapError (((replace_emits own).writesOnly held).mono ?_))
        rintro (e | ⟨⟩) held' restored only
        · exact .inl (paid.append only)
        · exact Logs.pure ((paid.append only).append (List.forall_mem_nil _))
      · exact Logs.pure paid

/-- What follows an attempt may write the record of the secret again. -/
theorem check_bind {candidate : Bytes} {α : Type}
    {next : Bool → Attempt CardError (Kept Secrets FlakyStore) α}
    (follows : ∀ matched,
      Emits (JournalEntry.WritesOnly fun other => other = id ∨ refills other) (next matched)) :
    Logs (check id candidate >>= next) secrets fun _ _ entries =>
      Pays secrets id refills entries := by
  refine Logs.bind ((check_logs secrets id candidate).mono ?_)
  have own : ∀ other, other = id → other = id ∨ refills other := fun _ => .inl
  rintro (e | matched) held entries ends
  · rcases ends with paid | none
    · exact .inr (paid.mono own)
    · exact .inl fun entry member => (none entry member).mono fun _ => False.elim
  · refine (follows matched held).mono fun _ _ later only => .inr ?_
    exact (ends.mono own).append only

/-! ## Rules on top of attempts -/

theorem verify_logs (secrets : Secrets) (id : SecretId) (candidate : Bytes) :
    Logs (verify id candidate) secrets fun _ _ entries =>
      Pays secrets id (fun _ => False) entries := by
  unfold verify
  dsimp only
  split
  · exact Logs.throw_bind (.inl (List.forall_mem_nil _))
  · refine check_bind fun matched => ?_
    cases matched with
    | true => exact Emits.pure
    | false =>
      refine Emits.bind Emits.held fun held => ?_
      split
      · exact Emits.throw_bind
      · exact Emits.throw

theorem change_logs (secrets : Secrets) (id : SecretId) (data : Bytes) :
    Logs (change id data) secrets fun _ _ entries =>
      Pays secrets id (fun _ => False) entries := by
  refine Logs.held_bind ?_
  dsimp only
  split
  · exact Logs.throw_bind (.inl (List.forall_mem_nil _))
  · split
    · exact Logs.throw_bind (.inl (List.forall_mem_nil _))
    · refine check_bind fun matched => ?_
      cases matched with
      | true => exact Emits.mapError (setValue_emits (spared_record (.inl rfl))).writesOnly
      | false => exact Emits.throw

theorem resetWithCode_logs (secrets : Secrets) (data : Bytes) :
    Logs (resetWithCode data) secrets fun _ _ entries =>
      Pays secrets .rc (· = .pw1) entries := by
  refine Logs.held_bind ?_
  dsimp only
  split
  · exact Logs.throw_bind (.inl (List.forall_mem_nil _))
  · split
    · exact Logs.throw_bind (.inl (List.forall_mem_nil _))
    · split
      · exact Logs.throw_bind (.inl (List.forall_mem_nil _))
      · refine check_bind fun matched => ?_
        cases matched with
        | true => exact (resetPw1_emits (spared_record (.inr rfl))).writesOnly
        | false => exact Emits.throw

/-! ## The names and the steps -/

theorem check_emits (own : names id.recordName) (tries : notes (.compared id))
    (candidate : Bytes) : Emits (Within names notes) (check id candidate) := by
  refine Emits.bind Emits.held fun secrets => ?_
  dsimp only
  split
  · exact Emits.throw_bind
  · refine Emits.bind (Emits.mapError (replace_emits own)) fun _ => ?_
    refine Emits.bind (Emits.note tries) fun _ => ?_
    split
    · exact Emits.bind (Emits.mapError (replace_emits own)) fun _ => Emits.pure
    · exact Emits.pure

theorem verify_emits (own : names id.recordName) (tries : notes (.compared id))
    (candidate : Bytes) : Emits (Within names notes) (verify id candidate) := by
  unfold verify
  dsimp only
  split
  · exact Emits.throw_bind
  · refine Emits.bind (check_emits own tries candidate) fun matched => ?_
    cases matched with
    | true => exact Emits.pure
    | false =>
      refine Emits.bind Emits.held fun held => ?_
      split
      · exact Emits.throw_bind
      · exact Emits.throw

theorem change_emits (own : names id.recordName) (tries : notes (.compared id)) (data : Bytes) :
    Emits (Within names notes) (change id data) := by
  refine Emits.bind Emits.held fun secrets => ?_
  dsimp only
  split
  · exact Emits.throw_bind
  · split
    · exact Emits.throw_bind
    · refine Emits.bind (check_emits own tries _) fun matched => ?_
      cases matched with
      | true => exact Emits.mapError (setValue_emits own)
      | false => exact Emits.throw

theorem resetWithCode_emits (own : ∀ id : SecretId, names id.recordName)
    (tries : notes (.compared .rc)) (data : Bytes) :
    Emits (Within names notes) (resetWithCode data) := by
  refine Emits.bind Emits.held fun secrets => ?_
  dsimp only
  split
  · exact Emits.throw_bind
  · split
    · exact Emits.throw_bind
    · split
      · exact Emits.throw_bind
      · refine Emits.bind (check_emits (own .rc) tries _) fun matched => ?_
        cases matched with
        | true => exact resetPw1_emits (own .pw1)
        | false => exact Emits.throw

end Secrets

end PgpCard
