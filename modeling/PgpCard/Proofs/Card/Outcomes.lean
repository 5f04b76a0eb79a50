import PgpCard.Card.Process
import PgpCard.Proofs.Key.Outcomes
import PgpCard.Proofs.Secret.Outcomes

/-!
# What the parts of a command can come to

Each relation here connects a part of a command, begun with a memory that agrees with the store,
to its result, to the memory afterwards and to what the store holds afterwards.

* `SetsLimit`, `SetsRetries` : new limits, with the first values of the secrets;
* `Writes` : a data object whose value has been checked;
* `MakesFactory` : a new card; `Persistent.Blends` says what a setup that was cut off leaves.

Unless the store has failed, the store holds afterwards what is in memory (`SetsRetries.settled`,
`Writes.settled`, `MakesFactory.settled`).
-/

set_option autoImplicit false

namespace PgpCard

namespace Persistent

/-- What a new card keeps. -/
def factory : Persistent :=
  { secrets := .factory, keys := .factory, objects := {}, terminated := false, lasting := false }

/-- Everything kept is as before or as on a new card. -/
structure Blends (old kept : Persistent) : Prop where
  secret : ∀ id, kept.secrets.record id = old.secrets.record id ∨
    kept.secrets.record id = factory.secrets.record id
  slot : ∀ id, kept.keys.slot id = old.keys.slot id ∨ kept.keys.slot id = factory.keys.slot id
  counter : kept.keys.counter = old.keys.counter ∨ kept.keys.counter = factory.keys.counter
  objects : kept.objects = old.objects ∨ kept.objects = factory.objects
  terminated : kept.terminated = old.terminated ∨ kept.terminated = factory.terminated
  lasting : kept.lasting = old.lasting ∨ kept.lasting = factory.lasting

namespace Blends

variable {old kept : Persistent}

theorem refl (old : Persistent) : Blends old old :=
  ⟨fun _ => .inl rfl, fun _ => .inl rfl, .inl rfl, .inl rfl, .inl rfl, .inl rfl⟩

theorem ofFactory (old : Persistent) : Blends old .factory :=
  ⟨fun _ => .inr rfl, fun _ => .inr rfl, .inr rfl, .inr rfl, .inr rfl, .inr rfl⟩

theorem become (h : Blends old kept) (env : Environment) :
    KeySlots.Become env old.keys kept.keys := by
  intro id
  obtain same | new := h.slot id
  · rw [same]
    exact .kept
  · rw [new, factory, KeySlots.slot_factory]
    exact .emptied

theorem withSecret (h : Blends old kept) (id : SecretId) :
    Blends old (kept.withSecret id (factory.secrets.record id)) where
  secret other := by
    by_cases same : other = id
    · exact .inr (by simp [Persistent.withSecret, same])
    · simpa [Persistent.withSecret, same] using h.secret other
  slot := h.slot
  counter := h.counter
  objects := h.objects
  terminated := h.terminated
  lasting := h.lasting

theorem withSlot (h : Blends old kept) (id : SlotId) :
    Blends old (kept.withSlot id KeySlots.emptySlot) where
  secret := h.secret
  slot other := by
    by_cases same : other = id
    · exact .inr (by simp [Persistent.withSlot, factory, same])
    · simpa [Persistent.withSlot, same] using h.slot other
  counter := by simpa [Persistent.withSlot] using h.counter
  objects := h.objects
  terminated := h.terminated
  lasting := h.lasting

theorem withCounter (h : Blends old kept) : Blends old (kept.withCounter 0) where
  secret := h.secret
  slot id := by simpa [Persistent.withCounter] using h.slot id
  counter := .inr rfl
  objects := h.objects
  terminated := h.terminated
  lasting := h.lasting

end Blends

end Persistent

/-- The memory of a card that has been made new. -/
def Memory.renewed (memory : Memory) : Memory :=
  { memory with
    secrets := .factory
    keys := .factory
    objects := {}
    security := .initial
    terminated := false
    chain := memory.chain.reset
    outgoing := .empty }

namespace Card

variable {ε α : Type} {memory : Memory}

/-! ## Parts of a command -/

theorem onSecrets_durably {act : Attempt ε (Kept Secrets FlakyStore) α}
    {related : Except ε α → Secrets → Secrets → Prop}
    (does : Secrets.Does act memory.secrets related) :
    Durably (onSecrets act) memory memory.persistent fun r memory' kept' =>
      ∃ held durable, memory' = { memory with secrets := held } ∧
        kept' = { memory.persistent with secrets := durable } ∧ related r held durable := by
  refine Durably.onPart ((does memory.persistent rfl).mono ?_)
  rintro r held kept' ⟨durable, rfl, relates⟩
  exact ⟨held, durable, rfl, rfl, relates⟩

theorem onKeys_durably {act : Attempt ε (Kept KeySlots FlakyStore) α}
    {related : Except ε α → KeySlots → KeySlots → Prop}
    (does : KeySlots.Does act memory.keys related) :
    Durably (onKeys act) memory memory.persistent fun r memory' kept' =>
      ∃ held durable, memory' = { memory with keys := held } ∧
        kept' = { memory.persistent with keys := durable } ∧ related r held durable := by
  refine Durably.onPart ((does memory.persistent rfl).mono ?_)
  rintro r held kept' ⟨durable, rfl, relates⟩
  exact ⟨held, durable, rfl, rfl, relates⟩

theorem Durably.require_bind {condition : Condition} {otherwise : CardError}
    {next : Unit → Attempt CardError (Card FlakyStore) α} {kept : Persistent}
    {post : Except CardError α → Memory → Persistent → Prop}
    (denied : memory.security.holds condition = false → post (.error otherwise) memory kept)
    (granted : memory.security.holds condition = true → Durably (next ()) memory kept post) :
    Durably (require condition otherwise >>= next) memory kept post := by
  refine Durably.bind (Durably.held_bind ?_)
  cases holds : memory.security.holds condition with
  | false => exact Durably.throw (denied holds)
  | true => exact Durably.pure (granted holds)

/-! ## Limits -/

/-- The ways in which a secret can get a new limit. -/
inductive SetsLimit (memory : Memory) (id : SecretId) (limit : UInt8) :
    Except CardError Unit → Memory → Persistent → Prop
  | skipped (zero : limit = 0) : SetsLimit memory id limit (.ok ()) memory memory.persistent
  | refused (nonzero : limit ≠ 0) (e : StoreError) :
    SetsLimit memory id limit (.error (.storage e))
      { memory with secrets := memory.secrets.put id (Secrets.factoryRecord limit id) }
      memory.persistent
  | done (nonzero : limit ≠ 0) (other : id ≠ .pw1) {memory' : Memory}
    (after : memory' =
      { memory with secrets := memory.secrets.put id (Secrets.factoryRecord limit id) }) :
    SetsLimit memory id limit (.ok ()) memory' memory'.persistent
  /-- PW1 is reset, but its status stays. -/
  | statusRefused (nonzero : limit ≠ 0) (pw1 : id = .pw1) (e : StoreError) {memory' : Memory}
    (after : memory' =
      { memory with secrets := memory.secrets.put id (Secrets.factoryRecord limit id) }) :
    SetsLimit memory id limit (.error (.storage e)) memory' memory'.persistent
  | statusReset (nonzero : limit ≠ 0) (pw1 : id = .pw1) {memory' : Memory}
    (after : memory' = { memory with
      secrets := memory.secrets.put id (Secrets.factoryRecord limit id)
      security := (memory.security.setLasting false).revokePw1 }) :
    SetsLimit memory id limit (.ok ()) memory' memory'.persistent

theorem setLimit_durably (memory : Memory) (id : SecretId) (limit : UInt8) :
    Durably (setLimit id limit) memory memory.persistent (SetsLimit memory id limit) := by
  unfold setLimit
  split
  · rename_i nonzero
    refine Durably.bind (Durably.mapError
      ((onSecrets_durably (Secrets.resetWithLimit_does _ id limit)).mono ?_))
    rintro r memory' kept' ⟨held, durable, rfl, rfl, replaces⟩
    cases replaces with
    | refused e => exact .refused nonzero e
    | done =>
      dsimp only [Except.mapError]
      split
      · rename_i pw1
        refine Durably.bind (Durably.mapError
          ((durably_saveLasting false (by decide)).mono ?_))
        rintro r memory' kept' ⟨rfl, saved⟩
        cases saved with
        | refused e => exact .statusRefused nonzero pw1 e rfl
        | done => exact Durably.adjust (.statusReset nonzero pw1 rfl)
      · rename_i other
        exact Durably.pure (.done nonzero other rfl)
  · rename_i zero
    exact Durably.pure (.skipped (by simpa using zero))

/-- A limit that was set is in the store as it is in memory. -/
theorem SetsLimit.settles {id : SecretId} {limit : UInt8} {memory' : Memory} {kept : Persistent}
    (h : SetsLimit memory id limit (.ok ()) memory' kept) : kept = memory'.persistent := by
  cases h <;> rfl

/-- The ways in which the three limits can be set, one after another. -/
inductive SetsRetries (memory : Memory) (pw1 rc pw3 : UInt8) :
    Except CardError Bytes → Memory → Persistent → Prop
  | first {e : CardError} {memory₁ : Memory} {kept : Persistent}
    (failed : SetsLimit memory .pw1 pw1 (.error e) memory₁ kept) :
    SetsRetries memory pw1 rc pw3 (.error e) memory₁ kept
  | second {e : CardError} {memory₁ memory₂ : Memory} {kept : Persistent}
    (first : SetsLimit memory .pw1 pw1 (.ok ()) memory₁ memory₁.persistent)
    (failed : SetsLimit memory₁ .rc rc (.error e) memory₂ kept) :
    SetsRetries memory pw1 rc pw3 (.error e) memory₂ kept
  | third {r : Except CardError Unit} {memory₁ memory₂ memory₃ : Memory} {kept : Persistent}
    (first : SetsLimit memory .pw1 pw1 (.ok ()) memory₁ memory₁.persistent)
    (second : SetsLimit memory₁ .rc rc (.ok ()) memory₂ memory₂.persistent)
    (third : SetsLimit memory₂ .pw3 pw3 r memory₃ kept) :
    SetsRetries memory pw1 rc pw3 (r.map fun _ => []) memory₃ kept

theorem SetsLimit.settled {id : SecretId} {limit : UInt8} {r : Except CardError Unit}
    {memory' : Memory} {kept' : Persistent} (h : SetsLimit memory id limit r memory' kept') :
    kept' = memory'.persistent ∨ ∃ e, r = .error (.storage e) := by
  cases h with
  | refused _ e => exact .inr ⟨e, rfl⟩
  | _ => exact .inl rfl

theorem SetsRetries.settled {pw1 rc pw3 : UInt8} {r : Except CardError Bytes} {memory' : Memory}
    {kept' : Persistent} (h : SetsRetries memory pw1 rc pw3 r memory' kept') :
    kept' = memory'.persistent ∨ ∃ e, r = .error (.storage e) := by
  cases h with
  | first limit | second _ limit | third _ _ limit =>
    obtain same | ⟨e, ended⟩ := limit.settled
    · exact .inl same
    · cases ended
      exact .inr ⟨e, rfl⟩

/-- A new limit is a matter of the secrets and of the PW1 status. -/
theorem SetsLimit.frame {id : SecretId} {limit : UInt8} {r : Except CardError Unit}
    {memory' : Memory} {kept' : Persistent} (h : SetsLimit memory id limit r memory' kept') :
    ∃ secrets security secrets' lasting', memory' = { memory with secrets, security } ∧
      kept' = { memory.persistent with secrets := secrets', lasting := lasting' } := by
  cases h with
  | skipped | refused => exact ⟨_, _, _, _, rfl, rfl⟩
  | done _ _ after | statusRefused _ _ _ after | statusReset _ _ after =>
    subst after
    exact ⟨_, _, _, _, rfl, rfl⟩

theorem SetsRetries.frame {pw1 rc pw3 : UInt8} {r : Except CardError Bytes} {memory' : Memory}
    {kept' : Persistent} (h : SetsRetries memory pw1 rc pw3 r memory' kept') :
    ∃ secrets security secrets' lasting', memory' = { memory with secrets, security } ∧
      kept' = { memory.persistent with secrets := secrets', lasting := lasting' } := by
  cases h with
  | first limit => exact limit.frame
  | second first limit =>
    obtain ⟨_, _, _, _, rfl, _⟩ := first.frame
    exact limit.frame
  | third first second limit =>
    obtain ⟨_, _, _, _, rfl, _⟩ := first.frame
    obtain ⟨_, _, _, _, rfl, _⟩ := second.frame
    exact limit.frame

/-! ## Data objects -/

/-- The ways in which an object whose value has been checked can be written. -/
inductive Writes (memory : Memory) (value : Bytes) :
    DataObject → Except CardError Unit → Memory → Persistent → Prop
  | status {r : Except StoreError Unit} {kept' : Persistent}
    (saved : Saved memory.persistent { memory.persistent with lasting := value.headD 0 == 1 }
      r kept') :
    Writes memory value .passwordStatus (r.mapError .storage)
      (match r with
        | .ok () => { memory with security := memory.security.setLasting (value.headD 0 == 1) }
        | .error _ => memory) kept'
  | fingerprint {id : SlotId} {r : Except StoreError Unit} {held durable : KeySlots}
    (commits : KeySlots.Commits memory.keys id { memory.keys.slot id with
      record := { memory.keys.record id with fingerprint := value } } r held durable) :
    Writes memory value (.fingerprint id) (r.mapError .storage) { memory with keys := held }
      { memory.persistent with keys := durable }
  | caFingerprint {id : SlotId} {r : Except StoreError Unit} {held durable : KeySlots}
    (commits : KeySlots.Commits memory.keys id { memory.keys.slot id with
      record := { memory.keys.record id with caFingerprint := value } } r held durable) :
    Writes memory value (.caFingerprint id) (r.mapError .storage) { memory with keys := held }
      { memory.persistent with keys := durable }
  | generationTime {id : SlotId} {r : Except StoreError Unit} {held durable : KeySlots}
    (commits : KeySlots.Commits memory.keys id { memory.keys.slot id with
      record := { memory.keys.record id with
        generationTime := UInt32.ofNat (Bytes.toNat value) } } r held durable) :
    Writes memory value (.generationTime id) (r.mapError .storage) { memory with keys := held }
      { memory.persistent with keys := durable }
  | resettingCode {r : Except StoreError Unit} {held durable : Secrets}
    (replaces : Secrets.Replaces memory.secrets .rc
      (if value.isEmpty then .unset memory.secrets.rc.limit
        else .ofValue value memory.secrets.rc.limit) r held durable) :
    Writes memory value .resettingCode (r.mapError .storage) { memory with secrets := held }
      { memory.persistent with secrets := durable }
  | stored {object : DataObject} {objects : DataObjects} {r : Except StoreError Unit}
    {kept' : Persistent} (new : memory.objects.withValue? object value = some objects)
    (saved : Saved memory.persistent { memory.persistent with objects } r kept') :
    Writes memory value object (r.mapError .storage)
      (match r with
        | .ok () => { memory with objects }
        | .error _ => memory) kept'
  | unknown {object : DataObject} (none : memory.objects.withValue? object value = none) :
    Writes memory value object (.error .recordNotFound) memory memory.persistent

theorem put_durably (memory : Memory) (object : DataObject) (value : Bytes)
    (other : Card.write (σ := FlakyStore) value object =
      onObjects (DataObjects.put object value)) :
    Durably (Card.write value object) memory memory.persistent (Writes memory value object) := by
  rw [other]
  refine Durably.onPart (Durably.held_bind ?_)
  cases new : memory.objects.withValue? object value with
  | none => exact Durably.throw (.unknown new)
  | some objects =>
    refine Durably.bind (Durably.mapError ((durably_saveObjects objects).mono ?_))
    rintro r memory' kept' ⟨rfl, saved⟩
    cases saved with
    | refused e => exact Writes.stored new (.refused e)
    | done => exact Durably.adjust (Writes.stored new .done)

/-- A one-byte status that was checked is zero or one. -/
theorem toUInt16_status {value : Bytes}
    (checked : DataObject.passwordStatus.check value = .ok ()) :
    (value.headD 0).toUInt16 = Cell.flag (value.headD 0 == 1) := by
  change (if (value == [0] || value == [1]) = true then Except.ok () else Except.error _) = _
    at checked
  split at checked
  · rename_i valid
    rw [Bool.or_eq_true, beq_iff_eq, beq_iff_eq] at valid
    rcases valid with rfl | rfl <;> decide
  · cases checked

theorem write_durably (memory : Memory) {object : DataObject} {value : Bytes}
    (checked : object.check value = .ok ()) :
    Durably (Card.write value object) memory memory.persistent (Writes memory value object) := by
  cases object with
  | passwordStatus =>
    refine Durably.bind (Durably.mapError
      ((durably_saveLasting _ (toUInt16_status checked)).mono ?_))
    rintro r memory' kept' ⟨rfl, saved⟩
    cases saved with
    | refused e => exact Writes.status (.refused e)
    | done => exact Durably.adjust (Writes.status .done)
  | fingerprint id =>
    refine Durably.mapError ((onKeys_durably (KeySlots.updateRecord_does _ id _)).mono ?_)
    rintro r memory' kept' ⟨held, durable, rfl, rfl, commits⟩
    exact .fingerprint commits
  | caFingerprint id =>
    refine Durably.mapError ((onKeys_durably (KeySlots.updateRecord_does _ id _)).mono ?_)
    rintro r memory' kept' ⟨held, durable, rfl, rfl, commits⟩
    exact .caFingerprint commits
  | generationTime id =>
    refine Durably.mapError ((onKeys_durably (KeySlots.updateRecord_does _ id _)).mono ?_)
    rintro r memory' kept' ⟨held, durable, rfl, rfl, commits⟩
    exact .generationTime commits
  | resettingCode =>
    change Durably (if value.isEmpty = true then _ else _) _ _ _
    split
    · rename_i empty
      refine Durably.mapError ((onSecrets_durably (Secrets.clearCode_does _)).mono ?_)
      rintro r memory' kept' ⟨held, durable, rfl, rfl, replaces⟩
      exact .resettingCode (by rwa [if_pos empty])
    · rename_i nonempty
      refine Durably.mapError ((onSecrets_durably (Secrets.setValue_does _ .rc value)).mono ?_)
      rintro r memory' kept' ⟨held, durable, rfl, rfl, replaces⟩
      exact .resettingCode (by rwa [if_neg nonempty])
  | _ => exact put_durably memory _ value rfl

section Writes

variable {value : Bytes} {object : DataObject} {r : Except CardError Unit} {memory' : Memory}
  {kept' : Persistent}

theorem Writes.settled (h : Writes memory value object r memory' kept') :
    kept' = memory'.persistent ∨ ∃ e, r = .error (.storage e) := by
  cases h with
  | status saved | stored _ saved => cases saved <;> exact .inl rfl
  | fingerprint commits | caFingerprint commits | generationTime commits =>
    cases commits.settled
    exact .inl rfl
  | resettingCode replaces =>
    obtain rfl | ⟨e, rfl⟩ := replaces.settled
    · exact .inl rfl
    · exact .inr ⟨e, rfl⟩
  | unknown => exact .inl rfl

theorem Writes.chain (h : Writes memory value object r memory' kept') :
    memory'.chain = memory.chain := by
  cases h with
  | status saved | stored _ saved => cases saved <;> rfl
  | _ => rfl

theorem Writes.become (h : Writes memory value object r memory' kept') (env : Environment) :
    KeySlots.Become env memory.keys memory'.keys ∧ KeySlots.Become env memory.keys kept'.keys := by
  have same := KeySlots.Become.refl env memory.keys
  cases h with
  | status saved | stored _ saved => cases saved <;> exact ⟨same, same⟩
  | fingerprint commits | caFingerprint commits | generationTime commits =>
    have new := commits.become env (.described _ rfl)
    cases commits.settled
    exact ⟨new, new⟩
  | resettingCode | unknown => exact ⟨same, same⟩

end Writes

/-! ## Making a card new -/

section Factory

variable {old kept : Persistent}

theorem makeSecrets_durably (secrets : Secrets) (blends : old.Blends kept) :
    Durably Secrets.makeFactory secrets kept fun r held kept' =>
      held = .factory ∧ old.Blends kept' ∧
        (r = .ok () → kept' = { kept with secrets := .factory }) := by
  have pw1 := blends.withSecret .pw1
  have pw3 := pw1.withSecret .pw3
  have rc := pw3.withSecret .rc
  refine Durably.adjust_bind ?_
  refine Durably.saved_bind (Secrets.persist_durably _ .pw1 _)
    (fun e => ⟨rfl, blends, nofun⟩) ?_
  refine Durably.saved_bind (Secrets.persist_durably _ .pw3 _)
    (fun e => ⟨rfl, pw1, nofun⟩) ?_
  refine (Secrets.persist_durably _ .rc _).mono ?_
  rintro r held kept' ⟨rfl, saved⟩
  cases saved with
  | refused e => exact ⟨rfl, pw3, nofun⟩
  | done => exact ⟨rfl, rc, fun _ => rfl⟩

theorem makeKeys_durably (keys : KeySlots) (blends : old.Blends kept) :
    Durably KeySlots.makeFactory keys kept fun r held kept' =>
      held = .factory ∧ old.Blends kept' ∧
        (r = .ok () → kept' = { kept with keys := .factory }) := by
  have signature := blends.withSlot .signature
  have decryption := signature.withSlot .decryption
  have authentication := decryption.withSlot .authentication
  have counter := authentication.withCounter
  refine Durably.adjust_bind ?_
  refine Durably.saved_bind (durably_saveSlot .signature KeySlots.emptySlot)
    (fun e => ⟨rfl, blends, nofun⟩) ?_
  refine Durably.saved_bind (durably_saveSlot .decryption KeySlots.emptySlot)
    (fun e => ⟨rfl, signature, nofun⟩) ?_
  refine Durably.saved_bind (durably_saveSlot .authentication KeySlots.emptySlot)
    (fun e => ⟨rfl, decryption, nofun⟩) ?_
  refine (durably_saveCounter (by decide)).mono ?_
  rintro r held kept' ⟨rfl, saved⟩
  cases saved with
  | refused e => exact ⟨rfl, authentication, nofun⟩
  | done => exact ⟨rfl, counter, fun _ => rfl⟩

theorem makeObjects_durably (objects : DataObjects) (blends : old.Blends kept) :
    Durably DataObjects.makeFactory objects kept fun r held kept' =>
      held = {} ∧ old.Blends kept' ∧ (r = .ok () → kept' = { kept with objects := {} }) := by
  refine Durably.adjust_bind ((durably_saveObjects {}).mono ?_)
  rintro r held kept' ⟨rfl, saved⟩
  cases saved with
  | refused e => exact ⟨rfl, blends, nofun⟩
  | done => exact ⟨rfl, { blends with objects := .inr rfl }, fun _ => rfl⟩

end Factory

/-- The ways in which a card can be made new.  If a write is refused, everything kept is as before
or as on a new card, in memory and in the store, and the session is as before. -/
inductive MakesFactory (memory : Memory) : Except StoreError Unit → Memory → Persistent → Prop
  | refused (e : StoreError) {secrets : Secrets} {keys : KeySlots} {objects : DataObjects}
    {kept : Persistent}
    (held : memory.persistent.Blends ({ memory with secrets, keys, objects } : Memory).persistent)
    (durable : memory.persistent.Blends kept) :
    MakesFactory memory (.error e) { memory with secrets, keys, objects } kept
  | done : MakesFactory memory (.ok ()) memory.renewed .factory

theorem makeFactory_durably (memory : Memory) :
    Durably makeFactory memory memory.persistent (MakesFactory memory) := by
  have start := Persistent.Blends.refl memory.persistent
  refine Durably.bind (Durably.onPart ((makeSecrets_durably _ start).mono ?_))
  rintro (e | ⟨⟩) _ kept₁ ⟨rfl, blends, done⟩
  · exact .refused e { start with secret := fun _ => .inr rfl } blends
  obtain rfl := done rfl
  refine Durably.bind (Durably.onPart ((makeKeys_durably _ blends).mono ?_))
  rintro (e | ⟨⟩) _ kept₂ ⟨rfl, blends, done⟩
  · exact .refused e { start with
      secret := fun _ => .inr rfl, slot := fun _ => .inr rfl, counter := .inr rfl } blends
  obtain rfl := done rfl
  have held : memory.persistent.Blends ({ memory with
      secrets := .factory, keys := .factory, objects := {} } : Memory).persistent :=
    { start with
      secret := fun _ => .inr rfl, slot := fun _ => .inr rfl, counter := .inr rfl
      objects := .inr rfl }
  refine Durably.bind (Durably.onPart ((makeObjects_durably _ blends).mono ?_))
  rintro (e | ⟨⟩) _ kept₃ ⟨rfl, blends, done⟩
  · exact .refused e held blends
  obtain rfl := done rfl
  have settled := { blends with lasting := Or.inr rfl : memory.persistent.Blends
    { memory.persistent with
      secrets := .factory, keys := .factory, objects := {}, lasting := false } }
  have active := { settled with terminated := Or.inr rfl : memory.persistent.Blends .factory }
  refine Durably.saved_bind (durably_saveLasting false (by decide))
    (fun e => .refused e held blends) ?_
  refine Durably.saved_bind (durably_saveTerminated false (by decide))
    (fun e => .refused e held settled) ?_
  refine Durably.saved_bind durably_saveLayout (fun e => .refused e held active) ?_
  refine Durably.saved_bind durably_saveReady (fun e => .refused e held active) ?_
  exact Durably.adjust .done

theorem MakesFactory.settled {r : Except StoreError Unit} {memory' : Memory}
    {kept' : Persistent} (h : MakesFactory memory r memory' kept') :
    kept' = memory'.persistent ∨ ∃ e, r = .error e := by
  cases h with
  | refused e => exact .inr ⟨e, rfl⟩
  | done => exact .inl rfl

theorem MakesFactory.capacity {r : Except StoreError Unit} {memory' : Memory}
    {kept' : Persistent} (h : MakesFactory memory r memory' kept') :
    memory'.chain.capacity = memory.chain.capacity := by
  cases h <;> rfl

theorem MakesFactory.blends {r : Except StoreError Unit} {memory' : Memory} {kept' : Persistent}
    (h : MakesFactory memory r memory' kept') :
    memory.persistent.Blends memory'.persistent ∧ memory.persistent.Blends kept' := by
  cases h with
  | refused e held durable => exact ⟨held, durable⟩
  | done => exact ⟨.ofFactory _, .ofFactory _⟩

end Card

end PgpCard
