import PgpCard.Proofs.Card.Durable

/-!
# The journal explains the store

What a store holds after some computation follows from the entries that were added to its journal.

* `replay` reads off the entries what a place holds;
* `Grows` : a store that has added some entries to its journal holds what they say, and refuses
  only what its schedule refuses;
* `Logs act memory post` : begun with `memory` on any store, the computation `act` ends with a
  result, a memory and new entries that satisfy `post`; its rules follow the way in which
  computations are put together;
* `Emits` : the weaker statement that every new entry is of some kind, whatever the memory is.
-/

set_option autoImplicit false

namespace PgpCard

namespace JournalEntry

/-- What an entry says is kept in a place from then on, if it says so of that place. -/
def content? (place : Place) : JournalEntry → Option (Bytes ⊕ UInt16)
  | .byte key value => if place = .scalar key then some (.inr value.toUInt16) else none
  | .word key value => if place = .scalar key then some (.inr value) else none
  | .blob name data => if place = .blob name then some (.inl data) else none
  | _ => none

/-- The entry reports a write that was refused. -/
def isRefusal : JournalEntry → Bool
  | .refusedByte _ | .refusedWord _ | .refusedBlob _ => true
  | _ => false

/-- What was refused is not kept. -/
theorem content?_of_isRefusal {entry : JournalEntry} (h : entry.isRefusal = true) (place : Place) :
    entry.content? place = none := by
  cases entry with
  | refusedByte | refusedWord | refusedBlob => rfl
  | _ => cases h

/-- A byte string was written only under one of some names, a number under one of the keys of the
card, and only some steps were noted. -/
def Within (names : String → Prop) (notes : Audit → Prop) : JournalEntry → Prop
  | .blob name _ => names name
  | .byte key _ | .word key _ => key ∈ Card.scalarKeys
  | .audit step => notes step
  | _ => True

theorem within_of_isRefusal {names : String → Prop} {notes : Audit → Prop} {entry : JournalEntry}
    (h : entry.isRefusal = true) : entry.Within names notes := by
  cases entry with
  | refusedByte | refusedWord | refusedBlob => trivial
  | _ => cases h

end JournalEntry

/-- What a place holds after some entries, in order of time, if it held `old` before. -/
def replay (place : Place) (entries : List JournalEntry) (old : Option (Bytes ⊕ UInt16)) :
    Option (Bytes ⊕ UInt16) :=
  entries.foldl (fun held entry => (entry.content? place).or held) old

section Replay

variable {place : Place} {entries : List JournalEntry}

theorem replay_append (place : Place) (entries later : List JournalEntry)
    (old : Option (Bytes ⊕ UInt16)) :
    replay place (entries ++ later) old = replay place later (replay place entries old) :=
  List.foldl_append

/-- Entries about other places leave a place as it was. -/
theorem replay_of_quiet (quiet : ∀ entry ∈ entries, entry.content? place = none)
    (old : Option (Bytes ⊕ UInt16)) : replay place entries old = old := by
  induction entries generalizing old with
  | nil => rfl
  | cons entry rest ih =>
    have first : entry.content? place = none := quiet entry List.mem_cons_self
    have others : ∀ entry ∈ rest, entry.content? place = none :=
      fun entry member => quiet entry (List.mem_cons_of_mem _ member)
    change replay place rest ((entry.content? place).or old) = old
    rw [first, Option.none_or]
    exact ih others old

/-- Entries that do not write a byte string say nothing of its place. -/
theorem content?_of_not_written {name : String} (unwritten : ∀ data, .blob name data ∉ entries) :
    ∀ entry ∈ entries, entry.content? (.blob name) = none := by
  intro entry member
  cases entry with
  | blob other data =>
    apply if_neg
    intro same
    cases same
    exact unwritten data member
  | _ => rfl

/-- A place holds what was written there last. -/
theorem replay_of_written {entry : JournalEntry} {later : List JournalEntry}
    {content : Bytes ⊕ UInt16} (written : entry.content? place = some content)
    (quiet : ∀ entry ∈ later, entry.content? place = none) (old : Option (Bytes ⊕ UInt16)) :
    replay place (entries ++ entry :: later) old = some content := by
  rw [replay_append]
  change replay place later ((entry.content? place).or _) = some content
  rw [written, Option.some_or]
  exact replay_of_quiet quiet _

end Replay

/-! ## Stores -/

/-- A store has added some entries to its journal, in order of time, and holds what they say; what
it refused was to be refused. -/
structure Grows (store : FlakyStore) (entries : List JournalEntry) (store' : FlakyStore) :
    Prop where
  journal : store'.journal = entries.reverse ++ store.journal
  content : ∀ place, store'.inner.at? place = replay place entries (store.inner.at? place)
  schedule : store'.readFails = store.readFails ∧ store'.writeFails = store.writeFails
  counted : store.writes ≤ store'.writes
  refused : ∀ entry ∈ entries, entry.isRefusal = true →
    ∃ n, store.writes ≤ n ∧ store.writeFails n = true

namespace Grows

variable {store middle final : FlakyStore} {entries later : List JournalEntry}

theorem refl (store : FlakyStore) : Grows store [] store where
  journal := rfl
  content _ := rfl
  schedule := ⟨rfl, rfl⟩
  counted := Nat.le_refl _
  refused := List.forall_mem_nil _

theorem trans (first : Grows store entries middle) (second : Grows middle later final) :
    Grows store (entries ++ later) final where
  journal := by rw [second.journal, first.journal, List.reverse_append, List.append_assoc]
  content place := by rw [second.content, first.content, replay_append]
  schedule := ⟨second.schedule.1.trans first.schedule.1, second.schedule.2.trans first.schedule.2⟩
  counted := Nat.le_trans first.counted second.counted
  refused := by
    intro entry member refusal
    rcases List.mem_append.mp member with member | member
    · exact first.refused entry member refusal
    · obtain ⟨n, late, fails⟩ := second.refused entry member refusal
      rw [first.schedule.2] at fails
      exact ⟨n, Nat.le_trans first.counted late, fails⟩

/-- A byte string that was not written is as before. -/
theorem at?_of_not_written {name : String} (grows : Grows store entries final)
    (unwritten : ∀ data, .blob name data ∉ entries) :
    final.inner.at? (.blob name) = store.inner.at? (.blob name) := by
  rw [grows.content, replay_of_quiet (content?_of_not_written unwritten)]

/-- A byte string is what was written last. -/
theorem at?_of_written {name : String} {data : Bytes}
    (grows : Grows store (.blob name data :: later) final)
    (unwritten : ∀ data, .blob name data ∉ later) :
    final.inner.at? (.blob name) = some (.inl data) := by
  have written : (JournalEntry.blob name data).content? (.blob name) = some (.inl data) := by
    rw [JournalEntry.content?, if_pos rfl]
  have quiet := content?_of_not_written unwritten
  rw [grows.content]
  show replay _ ([] ++ .blob name data :: later) _ = _
  exact replay_of_written written quiet _

/-- Reading adds nothing. -/
theorem read (store : FlakyStore) (reads : Nat) : Grows store [] { store with reads } where
  journal := rfl
  content _ := rfl
  schedule := ⟨rfl, rfl⟩
  counted := Nat.le_refl _
  refused := List.forall_mem_nil _

/-- A write that is done is kept. -/
theorem done {entry : JournalEntry} {inner : MemoryStore} (kind : entry.isRefusal = false)
    (written : ∀ place, inner.at? place = (entry.content? place).or (store.inner.at? place)) :
    Grows store [entry] { store with
      inner, writes := store.writes + 1, journal := entry :: store.journal } where
  journal := rfl
  content := written
  schedule := ⟨rfl, rfl⟩
  counted := Nat.le_succ _
  refused := by
    intro other member refusal
    rw [List.mem_singleton] at member
    subst member
    cases kind.symm.trans refusal

/-- A write that is refused leaves a note and nothing else. -/
theorem refusal {entry : JournalEntry} (kind : entry.isRefusal = true)
    (fails : store.writeFails store.writes = true) :
    Grows store [entry] { store with
      writes := store.writes + 1, journal := entry :: store.journal } where
  journal := rfl
  content place := by simp [replay, JournalEntry.content?_of_isRefusal kind]
  schedule := ⟨rfl, rfl⟩
  counted := Nat.le_succ _
  refused _ _ _ := ⟨store.writes, Nat.le_refl _, fails⟩

/-- A sensitive step leaves a note and nothing else. -/
theorem audit (store : FlakyStore) (step : Audit) :
    Grows store [.audit step] { store with
      inner := Backend.note step store.inner, journal := .audit step :: store.journal } where
  journal := rfl
  content _ := rfl
  schedule := ⟨rfl, rfl⟩
  counted := Nat.le_refl _
  refused := by
    intro entry member refusal
    rw [List.mem_singleton] at member
    subst member
    cases refusal

end Grows

namespace Card

open Attempt

variable {ε ε' α β γ : Type}

/-! ## Computations -/

/-- Begun with a memory on any store, a computation ends with a result, a memory and new entries in
the journal that satisfy a condition. -/
def Logs (act : Attempt ε (Kept β FlakyStore) α) (memory : β)
    (post : Except ε α → β → List JournalEntry → Prop) : Prop :=
  ∀ store : FlakyStore, act.Leads ⟨memory, store⟩ fun r final =>
    ∃ entries, Grows store entries final.store ∧ post r final.memory entries

variable {act : Attempt ε (Kept β FlakyStore) α} {memory : β}
  {post post' : Except ε α → β → List JournalEntry → Prop}

namespace Logs

theorem mono (h : Logs act memory post)
    (weaker : ∀ r memory' entries, post r memory' entries → post' r memory' entries) :
    Logs act memory post' := by
  intro store
  refine (h store).mono ?_
  rintro r final ⟨entries, grows, meets⟩
  exact ⟨entries, grows, weaker _ _ _ meets⟩

theorem pure {a : α} (h : post (.ok a) memory []) : Logs (Pure.pure a) memory post := fun store =>
  ⟨[], .refl store, h⟩

theorem throw {e : ε} (h : post (.error e) memory []) :
    Logs (MonadExcept.throw e) memory post := fun store =>
  ⟨[], .refl store, h⟩

theorem bind {next : α → Attempt ε (Kept β FlakyStore) γ}
    {post : Except ε γ → β → List JournalEntry → Prop}
    (h : Logs act memory fun r memory' entries =>
      match r with
      | .ok a => Logs (next a) memory' fun r final later => post r final (entries ++ later)
      | .error e => post (.error e) memory' entries) :
    Logs (act >>= next) memory post := by
  intro store
  rw [leads_bind]
  refine (h store).mono ?_
  rintro (e | a) ⟨memory', middle⟩ ⟨entries, grows, meets⟩
  · exact ⟨entries, grows, meets⟩
  · refine (meets middle).mono ?_
    rintro r final ⟨later, grows', meets'⟩
    exact ⟨entries ++ later, grows.trans grows', meets'⟩

/-- What follows adds nothing. -/
theorem bind_quiet {next : α → Attempt ε (Kept β FlakyStore) γ} {kind : List JournalEntry → Prop}
    (h : Logs act memory fun _ _ entries => kind entries)
    (quiet : ∀ a memory', Logs (next a) memory' fun _ _ later => later = []) :
    Logs (act >>= next) memory fun _ _ entries => kind entries := by
  refine bind (h.mono ?_)
  rintro (e | a) memory' entries meets
  · exact meets
  · refine (quiet a memory').mono fun r final later none => ?_
    rw [none, List.append_nil]
    exact meets

theorem throw_bind {e : ε} {next : α → Attempt ε (Kept β FlakyStore) γ}
    {post : Except ε γ → β → List JournalEntry → Prop} (h : post (.error e) memory []) :
    Logs (MonadExcept.throw e >>= next) memory post :=
  bind (throw h)

theorem held_bind {next : β → Attempt ε (Kept β FlakyStore) γ}
    {post : Except ε γ → β → List JournalEntry → Prop} (h : Logs (next memory) memory post) :
    Logs (Kept.held >>= next) memory post :=
  bind fun store => ⟨[], .refl store, h⟩

theorem adjust {change : β → β} {post : Except ε Unit → β → List JournalEntry → Prop}
    (h : post (.ok ()) (change memory) []) : Logs (Kept.adjust change) memory post :=
  fun store => ⟨[], .refl store, h⟩

theorem adjust_bind {change : β → β} {next : Unit → Attempt ε (Kept β FlakyStore) γ}
    {post : Except ε γ → β → List JournalEntry → Prop}
    (h : Logs (next ()) (change memory) post) :
    Logs (Kept.adjust change >>= next) memory post :=
  bind (adjust h)

theorem note {step : Audit} {post : Except ε Unit → β → List JournalEntry → Prop}
    (h : post (.ok ()) memory [.audit step]) : Logs (Kept.note step) memory post :=
  fun store => ⟨_, .audit store step, h⟩

theorem mapError {wrap : ε → ε'} {post : Except ε' α → β → List JournalEntry → Prop}
    (h : Logs act memory fun r => post (r.mapError wrap)) :
    Logs (act.mapError wrap) memory post := fun store =>
  leads_mapError.mpr (h store)

theorem outcome {post : Except ε' (Except ε α) → β → List JournalEntry → Prop}
    (h : Logs act memory fun r => post (.ok r)) : Logs act.outcome memory post := fun store =>
  leads_outcome.mpr (h store)

theorem ofExcept {result : Except ε α} (h : post result memory []) :
    Logs (Attempt.ofExcept result) memory post := fun store =>
  leads_ofExcept.mpr ⟨[], .refl store, h⟩

theorem onPart {part : β → γ} {put : γ → β → β} {act : Attempt ε (Kept γ FlakyStore) α}
    (h : Logs act (part memory) fun r inner => post r (put inner memory)) :
    Logs (Kept.onPart part put act) memory post := fun store =>
  Kept.leads_onPart.mpr (h store)

/-! ## Writing -/

section Write

variable {post : Except StoreError Unit → β → List JournalEntry → Prop}

theorem writeBlob {name : String} {data : Bytes} (done : post (.ok ()) memory [.blob name data])
    (refused : ∀ e, post (.error e) memory [.refusedBlob name]) :
    Logs (Kept.onStore (Backend.writeBlob name data)) memory post := by
  intro store
  rw [Kept.leads_onStore]
  refine FaultyStore.leads_writeBlob (fun _ => ?_) fun fails => ?_
  · refine ⟨[.blob name data], .done rfl fun place => ?_, done⟩
    rw [MemoryStore.at?_putBlob, JournalEntry.content?]
    split <;> rfl
  · exact ⟨[.refusedBlob name], .refusal rfl fails, refused _⟩

theorem writeByte {key : String} {value : UInt8} (done : post (.ok ()) memory [.byte key value])
    (refused : ∀ e, post (.error e) memory [.refusedByte key]) :
    Logs (Kept.onStore (Backend.writeByte key value)) memory post := by
  intro store
  rw [Kept.leads_onStore]
  refine FaultyStore.leads_writeByte (fun _ => ?_) fun fails => ?_
  · refine ⟨[.byte key value], .done rfl fun place => ?_, done⟩
    rw [MemoryStore.at?_putScalar, JournalEntry.content?]
    split <;> rfl
  · exact ⟨[.refusedByte key], .refusal rfl fails, refused _⟩

theorem writeWord {key : String} {value : UInt16} (done : post (.ok ()) memory [.word key value])
    (refused : ∀ e, post (.error e) memory [.refusedWord key]) :
    Logs (Kept.onStore (Backend.writeWord key value)) memory post := by
  intro store
  rw [Kept.leads_onStore]
  refine FaultyStore.leads_writeWord (fun _ => ?_) fun fails => ?_
  · refine ⟨[.word key value], .done rfl fun place => ?_, done⟩
    rw [MemoryStore.at?_putScalar, JournalEntry.content?]
    split <;> rfl
  · exact ⟨[.refusedWord key], .refusal rfl fails, refused _⟩

end Write

end Logs

/-! ## The kind of the new entries -/

/-- Whatever the memory is, every entry that a computation adds is of some kind. -/
def Emits (kind : JournalEntry → Prop) (act : Attempt ε (Kept β FlakyStore) α) : Prop :=
  ∀ memory : β, Logs act memory fun _ _ entries => ∀ entry ∈ entries, kind entry

namespace Emits

variable {kind : JournalEntry → Prop}

theorem mono {kind' : JournalEntry → Prop} (h : Emits kind act)
    (weaker : ∀ entry, kind entry → kind' entry) : Emits kind' act := fun memory =>
  (h memory).mono fun _ _ _ emitted entry member => weaker entry (emitted entry member)

theorem pure {a : α} : Emits kind (Pure.pure a : Attempt ε (Kept β FlakyStore) α) := fun _ =>
  Logs.pure (List.forall_mem_nil _)

theorem throw {e : ε} : Emits kind (MonadExcept.throw e : Attempt ε (Kept β FlakyStore) α) :=
  fun _ => Logs.throw (List.forall_mem_nil _)

theorem bind {next : α → Attempt ε (Kept β FlakyStore) γ} (first : Emits kind act)
    (second : ∀ a, Emits kind (next a)) : Emits kind (act >>= next) := by
  intro memory
  refine Logs.bind ((first memory).mono ?_)
  rintro (e | a) memory' entries emitted
  · exact emitted
  · refine (second a memory').mono fun r final later emitted' entry member => ?_
    exact (List.mem_append.mp member).elim (emitted entry) (emitted' entry)

theorem throw_bind {e : ε} {next : α → Attempt ε (Kept β FlakyStore) γ} :
    Emits kind (MonadExcept.throw e >>= next) := fun _ =>
  Logs.throw_bind (List.forall_mem_nil _)

theorem held : Emits kind (Kept.held : Attempt ε (Kept β FlakyStore) β) := fun _ store =>
  ⟨[], .refl store, List.forall_mem_nil _⟩

theorem adjust {change : β → β} :
    Emits kind (Kept.adjust change : Attempt ε (Kept β FlakyStore) Unit) := fun _ =>
  Logs.adjust (List.forall_mem_nil _)

theorem mapError {wrap : ε → ε'} (h : Emits kind act) : Emits kind (act.mapError wrap) :=
  fun memory => Logs.mapError (h memory)

theorem outcome (h : Emits kind act) :
    Emits kind (act.outcome : Attempt ε' (Kept β FlakyStore) (Except ε α)) :=
  fun memory => Logs.outcome (h memory)

theorem ofExcept {result : Except ε α} : Emits (β := β) kind (Attempt.ofExcept result) := fun _ =>
  Logs.ofExcept (List.forall_mem_nil _)

theorem onPart {part : β → γ} {put : γ → β → β} {act : Attempt ε (Kept γ FlakyStore) α}
    (h : Emits kind act) : Emits kind (Kept.onPart part put act) := fun memory =>
  Logs.onPart (h (part memory))

theorem note {step : Audit} (h : kind (.audit step)) :
    Emits kind (Kept.note step : Attempt ε (Kept β FlakyStore) Unit) := fun _ =>
  Logs.note (by simpa using h)

theorem writeBlob {name : String} {data : Bytes} (done : kind (.blob name data))
    (refused : kind (.refusedBlob name)) :
    Emits (β := β) kind (Kept.onStore (Backend.writeBlob name data)) := fun _ =>
  Logs.writeBlob (by simpa using done) fun _ => by simpa using refused

theorem writeByte {key : String} {value : UInt8} (done : kind (.byte key value))
    (refused : kind (.refusedByte key)) :
    Emits (β := β) kind (Kept.onStore (Backend.writeByte key value)) := fun _ =>
  Logs.writeByte (by simpa using done) fun _ => by simpa using refused

end Emits

end Card

end PgpCard
