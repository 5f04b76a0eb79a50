import PgpCard.Proofs.Card.Confined
import PgpCard.Proofs.Card.Renewal
import PgpCard.Proofs.Secret.Refinement

/-!
# A card can always be made new

TERMINATE asks for PW1 and PW3 without attempts, and nobody has to know their values for that: a
value of another length than the recorded one is wrong, whatever the digest is.  So as long as the
store takes reads and writes, a card can be led back to the state of a new one from everywhere.

* `Worn` : some attempts at one secret were spent, and nothing else happened to the secrets;
* `Workable` : a card that takes commands, with nothing in its chain, above a store that refuses
  nothing.  `Workable.tries` says what one wrong value does, `Workable.exhausts` what as many of
  them do as there are attempts;
* `Factory` : memory and store are those of a card that was just opened on an empty store;
* `Revives` : frames that lead there, whatever the outside gives during them;
* `never_bricked` : there are such frames for every card that can come about.
-/

set_option autoImplicit false

namespace PgpCard

open Attempt

/-! ## Stores that refuse nothing -/

namespace FaultyStore

variable {β : Type} {memory : β} {post : Except StoreError Unit → β → Prop}

theorem Reliable.later_write {store : FlakyStore} (reliable : store.Reliable)
    (inner : MemoryStore) (journal : List JournalEntry) :
    ({ store with inner, writes := store.writes + 1, journal } : FlakyStore).Reliable where
  reads := reliable.reads
  writes n after := reliable.writes n (Nat.le_of_succ_le after)

theorem Reliable.takes {store : FlakyStore} (reliable : store.Reliable) :
    ¬ store.writeFails store.writes = true := by
  simp [reliable.writes store.writes (Nat.le_refl _)]

theorem sturdy_reliable : Sturdy Reliable where
  writeBlob store reliable name data := by
    have done : (Backend.writeBlob name data : Attempt StoreError FlakyStore Unit).Leads store
        fun r final => r = .ok () ∧ final.Reliable :=
      leads_writeBlob (fun _ => ⟨rfl, reliable.later_write _ _⟩)
        fun fails => absurd fails reliable.takes
    obtain ⟨_, final, written, -, reliable'⟩ :=
      done.exists_ok (by rintro e final ⟨⟨⟩, -⟩)
    exact ⟨final, written, reliable'⟩
  note _ reliable _ := ⟨reliable.reads, reliable.writes⟩

theorem writeByte_reliably {key : String} {value : UInt8} (h : post (.ok ()) memory) :
    Sturdily Reliable (Kept.onStore (Backend.writeByte key value)) memory post := by
  intro store reliable
  rw [Kept.leads_onStore]
  exact leads_writeByte (fun _ => ⟨reliable.later_write _ _, h⟩)
    fun fails => absurd fails reliable.takes

theorem writeWord_reliably {key : String} {value : UInt16} (h : post (.ok ()) memory) :
    Sturdily Reliable (Kept.onStore (Backend.writeWord key value)) memory post := by
  intro store reliable
  rw [Kept.leads_onStore]
  exact leads_writeWord (fun _ => ⟨reliable.later_write _ _, h⟩)
    fun fails => absurd fails reliable.takes

end FaultyStore

/-! ## Wrong values -/

namespace Secrets

variable {secrets secrets' secrets'' : Secrets} {id : SecretId} {count more : Nat}

/-- Some attempts at one secret were spent, as far as there were any, and nothing else happened to
the secrets. -/
structure Worn (id : SecretId) (count : Nat) (secrets secrets' : Secrets) : Prop where
  remaining : (secrets'.record id).remaining.toNat = (secrets.record id).remaining.toNat - count
  length : (secrets'.record id).length = (secrets.record id).length
  others : ∀ other, other ≠ id → secrets'.record other = secrets.record other

theorem Worn.refl (id : SecretId) (secrets : Secrets) : Worn id 0 secrets secrets :=
  ⟨rfl, rfl, fun _ _ => rfl⟩

theorem Worn.trans (first : Worn id count secrets secrets')
    (second : Worn id more secrets' secrets'') : Worn id (count + more) secrets secrets'' where
  remaining := by rw [second.remaining, first.remaining, Nat.sub_sub]
  length := second.length.trans first.length
  others other apart := (second.others other apart).trans (first.others other apart)

theorem worn_of_blocked (blocked : (secrets.record id).isBlocked = true) :
    Worn id 1 secrets secrets := by
  have none_left : (secrets.record id).remaining = 0 := by
    simpa [SecretRecord.isBlocked] using blocked
  exact ⟨by simp [none_left], rfl, fun _ _ => rfl⟩

theorem worn_spent (some_left : (secrets.record id).isBlocked = false) :
    Worn id 1 secrets (secrets.put id (secrets.record id).spent) where
  remaining := by
    have once := SecretRecord.toNat_spent some_left
    rw [record_put, if_pos rfl]
    omega
  length := by rw [record_put, if_pos rfl]; rfl
  others other apart := by rw [record_put, if_neg apart]

variable {σ : Type} [Backend σ] {good : σ → Prop} {candidate : Bytes}

/-- A candidate of another length than the recorded one is wrong. -/
theorem check_wears (sturdy : Sturdy good)
    (wrong : (secrets.record id).length.toNat ≠ candidate.length) :
    Sturdily good (check id candidate) secrets fun r secrets' =>
      (r = .ok false ∨ r = .error .authenticationBlocked) ∧ Worn id 1 secrets secrets' := by
  refine Sturdily.held_bind ?_
  dsimp only
  split
  · rename_i blocked
    exact Sturdily.throw_bind ⟨.inr rfl, worn_of_blocked blocked⟩
  · rename_i some_left
    rw [Bool.not_eq_true] at some_left
    refine Sturdily.bind (Sturdily.mapError ((replace_sturdily sturdy id _).mono ?_))
    rintro _ _ ⟨rfl, rfl⟩
    refine Sturdily.bind fun store usable => ⟨sturdy.note _ usable _, ?_⟩
    have unequal : (secrets.record id).spent.accepts candidate = false := by
      simp [SecretRecord.accepts, SecretRecord.spent, wrong]
    change Sturdily good (if (secrets.record id).spent.accepts candidate = true then _ else _) _ _
    rw [if_neg (by simp [unequal])]
    exact Sturdily.pure ⟨.inl rfl, worn_spent some_left⟩

theorem verify_wears (sturdy : Sturdy good) (admissible : id.admits candidate.length = true)
    (wrong : (secrets.record id).length.toNat ≠ candidate.length) :
    Sturdily good (verify id candidate) secrets fun r secrets' =>
      (∃ e : CardError, r = .error e ∧ e.isStorage = false) ∧ Worn id 1 secrets secrets' := by
  unfold verify
  dsimp only
  rw [if_neg (by simp [admissible])]
  refine Sturdily.bind ((check_wears sturdy wrong).mono ?_)
  rintro _ secrets' ⟨rfl | rfl, worn⟩
  · refine Sturdily.held_bind ?_
    split
    · exact Sturdily.throw_bind ⟨⟨_, rfl, rfl⟩, worn⟩
    · exact Sturdily.throw ⟨⟨_, rfl, rfl⟩, worn⟩
  · exact ⟨⟨_, rfl, rfl⟩, worn⟩

end Secrets

namespace Card

open Secrets

/-! ## Frames that lead somewhere -/

/-- Whatever the outside gives during them, the frames bring the card to some state. -/
def Brings (frames : List Bytes) (card : Card FlakyStore) (goal : Card FlakyStore → Prop) : Prop :=
  ∀ inputs : List (Environment × Bytes), inputs.map Prod.snd = frames → goal (run inputs card).2

section Brings

variable {card : Card FlakyStore} {frames more : List Bytes} {frame : Bytes}
  {goal goal' : Card FlakyStore → Prop}

theorem brings_nil (h : goal card) : Brings [] card goal := by
  intro inputs same
  obtain rfl := List.map_eq_nil_iff.mp same
  exact h

theorem brings_cons (h : ∀ env, Brings frames (process env frame card).2 goal) :
    Brings (frame :: frames) card goal := by
  intro inputs same
  cases inputs with
  | nil => cases same
  | cons input rest =>
    obtain ⟨env, _⟩ := input
    obtain ⟨rfl, later⟩ := List.cons.inj same
    exact h env rest later

theorem brings_one (h : ∀ env, goal (process env frame card).2) : Brings [frame] card goal :=
  brings_cons fun env => brings_nil (h env)

theorem Brings.append (first : Brings frames card goal)
    (second : ∀ card', goal card' → Brings more card' goal') :
    Brings (frames ++ more) card goal' := by
  induction frames generalizing card with
  | nil => exact second card (first [] rfl)
  | cons frame rest ih =>
    refine brings_cons fun env => ih fun inputs same => ?_
    exact first ((env, frame) :: inputs) (by rw [List.map_cons, same])

end Brings

/-! ## Cards that work -/

/-- A card that takes commands, with nothing in its chain, above a store that refuses nothing. -/
structure Workable (card : Card FlakyStore) : Prop where
  sound : SoundOn False card
  fresh : card.memory.stale = false
  unchained : card.memory.chain.pending = none
  reliable : card.store.Reliable

namespace Workable

variable {card : Card FlakyStore} {env : Environment} {frame : Bytes} {cmd : Command}

theorem idle (workable : Workable card) :
    card.memory.chain = .idle CommandChain.cardCapacity := by
  rw [CommandChain.idle, ← workable.sound.capacity, ← workable.unchained]

/-- A command that reports no failure of the store leaves a card that works. -/
theorem after (workable : Workable card) (carries : Step.Carries ⟨env, frame, card⟩ card cmd)
    (other : cmd.instruction ≠ .getResponse) (active : card.memory.terminated = false)
    {post : Except CardError Bytes → Memory → Prop}
    (runs : Sturdily FaultyStore.Reliable (dispatch env cmd) (begun card).memory fun r memory =>
      (∀ e, r = .error e → e.isStorage = false) ∧ memory.stale = false ∧
        memory.chain = card.memory.chain.reset ∧ post r memory) :
    Workable (process env frame card).2 ∧
      ∃ r memory, post r memory ∧ (process env frame card).2.memory = conclude r memory := by
  have sound : SoundOn False (process env frame card).2 :=
    sound_process False.elim frame workable.sound
  obtain ⟨r, final, ⟨reliable, harmless, fresh, idle, meets⟩, processed⟩ :=
    process_of_carries carries other (.inl active) (runs card.store workable.reliable)
  rw [processed] at sound ⊢
  refine ⟨⟨sound, ?_, ?_, reliable⟩, r, final.memory, meets, rfl⟩
  · cases r with
    | ok data => exact fresh
    | error e => simp [conclude, fresh, harmless e rfl]
  · cases r with
    | ok data => exact congrArg CommandChain.pending idle
    | error e => exact congrArg CommandChain.pending idle

end Workable

/-! ### Spending all attempts -/

section Tries

variable {card : Card FlakyStore} {cmd : Command} {frame : Bytes} {id : SecretId}
  {condition : Condition}

/-- The command tries a value that cannot be that of a secret: it has another length. -/
structure Misses (cmd : Command) (id : SecretId) (secrets : Secrets) : Prop where
  verifies : cmd.instruction = .verify
  target : ∃ condition, verifyTarget? cmd.p2 = some (id, condition)
  admissible : id.admits cmd.data.length = true
  wrong : (secrets.record id).length.toNat ≠ cmd.data.length

theorem Misses.congr {secrets secrets' : Secrets} (misses : Misses cmd id secrets)
    (same : (secrets'.record id).length = (secrets.record id).length) : Misses cmd id secrets' :=
  { misses with wrong := by rw [same]; exact misses.wrong }

theorem verify_misses (memory : Memory) (misses : Misses cmd id memory.secrets) :
    Sturdily FaultyStore.Reliable (verify cmd) memory fun r memory' =>
      (∃ e, r = .error e ∧ e.isStorage = false) ∧
        ∃ secrets security, memory' = { memory with secrets, security } ∧
          Worn id 1 memory.secrets secrets := by
  obtain ⟨condition, target⟩ := misses.target
  unfold verify
  rw [target]
  dsimp only
  refine Sturdily.bind (Sturdily.outcome (Sturdily.onPart
    ((verify_wears FaultyStore.sturdy_reliable misses.admissible misses.wrong).mono ?_)))
  rintro _ secrets ⟨⟨e, rfl, harmless⟩, worn⟩
  refine Sturdily.bind (Sturdily.adjust (Sturdily.throw ?_))
  exact ⟨⟨e, rfl, harmless⟩, secrets, _, rfl, worn⟩

/-- One wrong value spends one attempt. -/
theorem Workable.tries (workable : Workable card) (active : card.memory.terminated = false)
    (parses : Command.ofFrame? frame = .ok cmd) (unchained : cmd.isChained = false)
    (misses : Misses cmd id card.memory.secrets) (env : Environment) :
    Workable (process env frame card).2 ∧ (process env frame card).2.memory.terminated = false ∧
      Worn id 1 card.memory.secrets (process env frame card).2.memory.secrets := by
  have verifies := misses.verifies
  have carries : Step.Carries ⟨env, frame, card⟩ card cmd :=
    Step.carries_of_idle parses unchained (by simp [verifies]) (ready?_of_fresh workable.fresh)
      workable.unchained
  have runs : Sturdily FaultyStore.Reliable (dispatch env cmd) (begun card).memory
      fun r memory => (∀ e, r = .error e → e.isStorage = false) ∧ memory.stale = false ∧
        memory.chain = card.memory.chain.reset ∧
          memory.terminated = false ∧ Worn id 1 card.memory.secrets memory.secrets := by
    have dispatched : (dispatch env cmd : Attempt CardError (Card FlakyStore) Bytes) =
        verify cmd := by
      simp only [dispatch, verifies]
    rw [dispatched]
    refine (verify_misses (begun card).memory misses).mono ?_
    rintro _ _ ⟨⟨e, rfl, harmless⟩, secrets, security, rfl, worn⟩
    refine ⟨?_, workable.fresh, rfl, active, worn⟩
    rintro _ ⟨⟩
    exact harmless
  obtain ⟨works, r, memory, ⟨active', worn⟩, after⟩ :=
    workable.after carries (by simp [verifies]) active runs
  rw [after]
  cases r with
  | ok data => exact ⟨works, active', worn⟩
  | error e => exact ⟨works, active', worn⟩

/-- As many wrong values as there are attempts leave none. -/
theorem Workable.exhausts (workable : Workable card) (active : card.memory.terminated = false)
    (parses : Command.ofFrame? frame = .ok cmd) (unchained : cmd.isChained = false)
    (misses : Misses cmd id card.memory.secrets) (count : Nat) :
    Brings (List.replicate count frame) card fun card' =>
      Workable card' ∧ card'.memory.terminated = false ∧
        Worn id count card.memory.secrets card'.memory.secrets := by
  induction count generalizing card with
  | zero => exact brings_nil ⟨workable, active, .refl _ _⟩
  | succ count ih =>
    rw [List.replicate_succ]
    refine brings_cons fun env => ?_
    obtain ⟨works, active', worn⟩ := workable.tries active parses unchained misses env
    intro inputs same
    obtain ⟨works', active'', worn'⟩ := ih works active' (misses.congr worn.length) inputs same
    refine ⟨works', active'', ?_⟩
    rw [Nat.add_comm]
    exact worn.trans worn'

end Tries

/-! ### Making the card new -/

section Renewing

variable {card : Card FlakyStore}

/-- SELECT. -/
def selectFrame : Bytes := [0x00, 0xA4, 0x00, 0x00]

/-- A card without attempts is terminated. -/
theorem Workable.terminates (workable : Workable card) (active : card.memory.terminated = false)
    (pw1 : card.memory.secrets.pw1.isBlocked = true)
    (pw3 : card.memory.secrets.pw3.isBlocked = true) :
    Brings [terminateFrame] card fun card' =>
      Workable card' ∧ card'.memory.terminated = true := by
  refine brings_one fun env => ?_
  have carries : Step.Carries ⟨env, terminateFrame, card⟩ card ⟨0x00, 0xE6, 0x00, 0x00, [], none⟩ :=
    Step.carries_of_idle rfl (by decide) (by decide) (ready?_of_fresh workable.fresh)
      workable.unchained
  have runs : Sturdily FaultyStore.Reliable terminate (begun card).memory
      fun r memory => (∀ e, r = .error e → e.isStorage = false) ∧ memory.stale = false ∧
        memory.chain = card.memory.chain.reset ∧ memory.terminated = true := by
    refine Sturdily.held_bind ?_
    dsimp only
    rw [if_neg (by simp [begun, pw1, pw3])]
    refine Sturdily.bind (Sturdily.mapError (FaultyStore.writeByte_reliably ?_))
    exact Sturdily.bind (Sturdily.adjust (Sturdily.pure ⟨nofun, workable.fresh, rfl, rfl⟩))
  obtain ⟨works, r, memory, terminated, after⟩ :=
    workable.after carries (by decide) active runs
  rw [after]
  cases r with
  | ok data => exact ⟨works, terminated⟩
  | error e => exact ⟨works, terminated⟩

/-- A terminated card is made new. -/
theorem Workable.activates (workable : Workable card)
    (terminated : card.memory.terminated = true) : Brings [activateFrame] card AsNew := by
  refine brings_one fun env => ?_
  obtain ⟨response, answered, activated⟩ := process_activates workable.sound
    (ready?_of_fresh workable.fresh) terminated env (completes_activateFrame workable.idle) rfl
  obtain rfl := activated.of_reliable workable.reliable
  exact activated.asNew rfl

/-- A VERIFY of zeros, of another length than a record has. -/
def missCommand (id : SecretId) (record : SecretRecord) : Command where
  cla := 0x00
  ins := 0x20
  p1 := 0x00
  p2 := if id = .pw1 then 0x81 else 0x83
  data := List.replicate
    (if record.length.toNat = id.minLength then id.minLength + 1 else id.minLength) 0x30

theorem misses_missCommand {id : SecretId} (tried : id ≠ .rc) {secrets : Secrets}
    {record : SecretRecord} (same : (secrets.record id).length = record.length) :
    Misses (missCommand id record) id secrets where
  verifies := rfl
  target := by
    cases id with
    | pw1 => exact ⟨.pw1Signing, rfl⟩
    | pw3 => exact ⟨.pw3, rfl⟩
    | rc => exact absurd rfl tried
  admissible := by
    simp only [missCommand, List.length_replicate]
    split
    · cases id <;> rfl
    · cases id <;> rfl
  wrong := by
    rw [same]
    simp only [missCommand, List.length_replicate]
    split <;> omega

theorem parses_missCommand (id : SecretId) (record : SecretRecord) :
    Command.ofFrame? (missCommand id record).toFrame = .ok (missCommand id record) := by
  by_cases same : record.length.toNat = id.minLength
  · simp only [missCommand, if_pos same]
    cases id <;> rfl
  · simp only [missCommand, if_neg same]
    cases id <;> rfl

/-- The frames that spend all attempts at a secret. -/
def missFrames (id : SecretId) (record : SecretRecord) : List Bytes :=
  List.replicate record.remaining.toNat (missCommand id record).toFrame

/-- All attempts at PW1 or PW3 can be spent. -/
theorem Workable.blocks {id : SecretId} (workable : Workable card) (tried : id ≠ .rc)
    (active : card.memory.terminated = false) :
    Brings (missFrames id (card.memory.secrets.record id)) card fun card' =>
      Workable card' ∧ card'.memory.terminated = false ∧
        (card'.memory.secrets.record id).isBlocked = true ∧
        ∀ other, other ≠ id →
          card'.memory.secrets.record other = card.memory.secrets.record other := by
  have unchained : (missCommand id (card.memory.secrets.record id)).isChained = false := by
    simp [missCommand, Command.isChained]
  intro inputs same
  obtain ⟨works, active', worn⟩ := workable.exhausts active (parses_missCommand _ _) unchained
    (misses_missCommand tried rfl) _ inputs same
  refine ⟨works, active', ?_, worn.others⟩
  have none_left := worn.remaining
  rw [Nat.sub_self, ← UInt8.toNat_zero, UInt8.toNat_inj] at none_left
  simp [SecretRecord.isBlocked, none_left]

/-- From a card that works on, the card is made new. -/
theorem Workable.revives (workable : Workable card) :
    ∃ frames, Brings frames card AsNew := by
  cases terminated : card.memory.terminated with
  | true => exact ⟨_, workable.activates terminated⟩
  | false =>
    -- TERMINATE asks for both secrets to be blocked: PW1 first, then PW3, which PW1 leaves alone
    refine ⟨missFrames .pw1 (card.memory.secrets.record .pw1) ++
      (missFrames .pw3 (card.memory.secrets.record .pw3) ++
        ([terminateFrame] ++ [activateFrame])), ?_⟩
    refine (workable.blocks (by decide) terminated).append ?_
    rintro first ⟨workable, active, pw1, others⟩
    rw [← others .pw3 (by decide)]
    refine (workable.blocks (by decide) active).append ?_
    rintro second ⟨workable, active, pw3, others⟩
    rw [← others .pw1 (by decide)] at pw1
    refine (workable.terminates active pw1 pw3).append ?_
    rintro third ⟨workable, terminated⟩
    exact workable.activates terminated

/-- SELECT ends the chain and brings a stale card back to what its store holds; the outside has no
part in it. -/
theorem selects_workable (sound : SoundOn True card) (reliable : card.store.Reliable) :
    ∃ ready, Workable ready ∧ ∀ env, (process env selectFrame card).2 = ready := by
  have selects : ∀ ready, ready? card = some ready → ready.store.Reliable →
      Workable ready.select ∧ ∀ env, (process env selectFrame card).2 = ready.select := by
    intro ready found reliable
    have parses : Command.ofFrame? selectFrame = .ok ⟨0x00, 0xA4, 0x00, 0x00, [], none⟩ := rfl
    have processed : ∀ env, process env selectFrame card = (Response.ok.toFrame, ready.select) :=
      process_of_ready parses found
    have sound : SoundOn True ready := sound_ready sound found
    obtain ⟨kept, durable, same⟩ := sound.durable
    refine ⟨⟨⟨sound.capacity, kept, ⟨durable.holds, nofun⟩, same⟩, (store_ready found).1, rfl,
      reliable⟩, fun env => ?_⟩
    rw [processed]
  cases stale : card.memory.stale with
  | false => exact ⟨_, selects card (ready?_of_fresh stale) reliable⟩
  | true =>
    obtain ⟨kept, durable, -⟩ := sound.durable
    have loaded := load_of_holds durable.holds (durable.coherent trivial)
    obtain ⟨reads, later, ran⟩ := reload_of_reliable card.memory reliable loaded
    let reloaded : Card FlakyStore := ⟨card.memory.adopt kept, { card.store with reads }⟩
    have found : ready? card = some (reloaded.markStale false) := by
      rw [ready?, if_pos stale, ran]
    exact ⟨_, selects _ found (reliable.later later)⟩

end Renewing

/-! ## The factory state -/

/-- Memory and store are those of a card that was just opened on an empty store. -/
def Factory (card : Card FlakyStore) : Prop :=
  ∃ fresh, openOn card.memory.profile ({ inner := .empty } : FlakyStore) = .ok card.memory fresh ∧
    ∀ place : Place, card.store.inner.at? place = fresh.inner.at? place

theorem confined_empty : Confined .empty := fun place _ => by
  cases place with
  | blob | scalar => rfl

theorem factory_of_asNew {card : Card FlakyStore} (new : AsNew card)
    (confined : Confined card.store.inner) : card.memory.terminated = false ∧ Factory card := by
  obtain ⟨fresh, opened, same⟩ := new
  have renewed : card.memory = Memory.renewed { profile := card.memory.profile } :=
    ((openOn_of_unmarked _ (by exact rfl)).of_ok opened).1
  have confined' : Confined fresh.inner := (confined_openOn _ confined_empty).of_ok opened
  exact ⟨by rw [renewed]; rfl, fresh, opened, confined.at?_eq confined' same⟩

/-- Whatever the outside gives during them, the frames make the card active and bring it to the
factory state. -/
def Revives (frames : List Bytes) (card : Card FlakyStore) : Prop :=
  Brings frames card fun card' => card'.memory.terminated = false ∧ Factory card'

theorem confined_run {inputs : List (Environment × Bytes)} {card : Card FlakyStore}
    (confined : Confined card.store.inner) : Confined (run inputs card).2.store.inner := by
  induction inputs generalizing card with
  | nil => exact confined
  | cons input rest ih => exact ih (confined_process _ _ confined)

/-- A sound card above a reliable store can be made new. -/
theorem exists_revives {card : Card FlakyStore} (sound : SoundOn True card)
    (confined : Confined card.store.inner) (reliable : card.store.Reliable) :
    ∃ frames, Revives frames card := by
  obtain ⟨ready, workable, selected⟩ := selects_workable sound reliable
  obtain ⟨frames, new⟩ := workable.revives
  have renewed : Brings (selectFrame :: frames) card AsNew :=
    brings_cons fun env => by rwa [selected env]
  exact ⟨selectFrame :: frames, fun inputs same =>
    factory_of_asNew (renewed inputs same) (confined_run confined)⟩

/-! ## Openings -/

section Setup

open FaultyStore Sturdily

/-- A setup leaves a reliable store reliable. -/
theorem makeFactory_reliably (memory : Memory) :
    Sturdily Reliable makeFactory memory fun _ _ => True := by
  have keys : ∀ keys : KeySlots,
      Sturdily Reliable KeySlots.makeFactory keys fun r _ => r = .ok () := by
    intro keys
    refine bind (adjust (bind (writeBlob sturdy_reliable ?_)))
    refine bind (writeBlob sturdy_reliable (bind (writeBlob sturdy_reliable ?_)))
    exact writeBlob sturdy_reliable rfl
  have objects : ∀ objects : DataObjects,
      Sturdily Reliable DataObjects.makeFactory objects fun r _ => r = .ok () := fun objects =>
    bind (adjust (writeBlob sturdy_reliable rfl))
  refine bind (onPart ((Secrets.makeFactory_sturdily sturdy_reliable).mono ?_))
  rintro _ _ ⟨rfl, -⟩
  refine bind (onPart ((keys _).mono ?_))
  rintro _ _ rfl
  refine bind (onPart ((objects _).mono ?_))
  rintro _ _ rfl
  refine bind (writeByte_reliably (bind (writeByte_reliably ?_)))
  exact bind (writeWord_reliably (bind (writeByte_reliably (adjust trivial))))

/-- The opening of a store without the mark leaves it reliable. -/
theorem openOn_reliably (profile : Profile) {store : FlakyStore} (unmarked : Unmarked store.inner)
    (reliable : store.Reliable) :
    (openOn profile).Leads store fun _ final => final.Reliable := by
  rw [openOn_leads]
  refine (readByte_mirrors readyKey store).mono ?_
  rintro (e | mark) middle ⟨⟨reads, later, rfl⟩, sound, -⟩
  · exact reliable.later later
  · cases unmarked.readReady.symm.trans (sound mark rfl)
    dsimp only
    rw [if_neg (by decide)]
    refine (makeFactory_reliably { profile } { store with reads } (reliable.later later)).mono ?_
    rintro (e | ⟨⟩) final ⟨reliable, -⟩
    · exact reliable
    · exact reliable

end Setup

/-- From every state that can come about, a card can be made new once its store takes reads and
writes: some frames make it active and bring its memory and its store to the state of a card that
was just opened on an empty store, whatever the outside gives during them.  Where the card is off,
it can be opened again, and there are such frames then. -/
theorem never_bricked {outside : Environment → Prop}
    (trust : ∀ env, outside env → env.SoundKeys) :
    (∀ card : Card FlakyStore, Reached outside (.on card) →
      ∀ store : FlakyStore, store.inner = card.store.inner → store.Reliable →
        ∃ frames, Revives frames ⟨card.memory, store⟩) ∧
    (∀ inner : MemoryStore, Reached outside (.off inner) →
      ∀ (profile : Profile) (store : FlakyStore), store.inner = inner → store.Reliable →
        ∃ memory final, openOn profile store = .ok memory final ∧ final.Reliable ∧
          ∃ frames, Revives frames ⟨memory, final⟩) := by
  refine ⟨fun card reached store same reliable => ?_,
    fun inner reached profile store same reliable => ?_⟩
  · have sound : SoundOn True card := sound_of_reached (fun _ => trust) reached
    have confined : Confined card.store.inner := confined_of_reached reached
    rw [← same] at confined
    refine exists_revives ⟨sound.capacity, ?_⟩ confined reliable
    dsimp only
    rw [same]
    exact sound.durable
  · subst same
    have sound : Sound True (.off store.inner) := sound_of_reached (fun _ => trust) reached
    have revives : ∀ memory final, openOn profile store = .ok memory final → final.Reliable →
        ∃ frames, Revives frames ⟨memory, final⟩ := fun memory final opened reliable =>
      exists_revives ((sound_openOn profile sound).of_ok opened)
        ((confined_openOn profile (confined_of_reached reached)).of_ok opened) reliable
    rcases sound with unmarked | ⟨kept, durable⟩
    · obtain ⟨final, opened, -⟩ := openOn_of_unmarked_reliable profile unmarked reliable
      have reliable' : final.Reliable := (openOn_reliably profile unmarked reliable).of_ok opened
      exact ⟨_, final, opened, reliable', revives _ _ opened reliable'⟩
    · have loaded := load_of_holds durable.holds (durable.coherent trivial)
      obtain ⟨reads, later, opened⟩ := openOn_of_reliable profile reliable durable.holds loaded
      have reliable' := reliable.later later
      exact ⟨_, _, opened, reliable', revives _ _ opened reliable'⟩

/-- A card whose ACTIVATE was cut off, and a store whose setup was. -/
theorem never_bricked_cut_off :
    halfNewCard.memory.stale = true ∧
      (∃ frames, Revives frames ⟨halfNewCard.memory, { inner := halfNewCard.store.inner }⟩) ∧
      ∃ memory final,
        openOn .default ({ inner := (newCard (· == 3)).store.inner } : FlakyStore) =
          .ok memory final ∧ final.Reliable ∧ ∃ frames, Revives frames ⟨memory, final⟩ := by
  have stale : halfNewCard.memory.stale = true := by decide +kernel
  have reached : Reached Environment.SoundKeys (.on halfNewCard) :=
    .processes (reached_terminatedCard rfl) (Environment.soundKeys_ofRandom _ _) activateFrame
  have failed : openOn .default ({ inner := .empty, writeFails := (· == 3) } : FlakyStore) =
      .error FaultyStore.refusal (newCard (· == 3)).store := rfl
  have revives := never_bricked (fun _ (made : Environment.SoundKeys _) => made)
  exact ⟨stale, revives.1 halfNewCard reached _ rfl ⟨fun _ _ => rfl, fun _ _ => rfl⟩,
    revives.2 _ (.fails .blank failed) .default _ rfl ⟨fun _ _ => rfl, fun _ _ => rfl⟩⟩

end Card

end PgpCard
