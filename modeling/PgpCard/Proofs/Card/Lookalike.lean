import PgpCard.Card.Process
import PgpCard.Proofs.Store.Discreet

/-!
# Cards that look alike

Two memories look alike if they differ in the third and the fourth private object at most.  Above
discreet stores, a card does the same with memories that look alike, and leaves memories that look
alike, but for a GET DATA of one of these objects.

* `Reveals memory cmd` : the command is a GET DATA that may read one of the two objects;
* the lemmas before it go through the commands one by one, `dispatch_matches` puts them together.
-/

set_option autoImplicit false

namespace PgpCard

open Attempt

/-- Two memories differ in the third and the fourth private object at most. -/
def Memory.LooksLike (memory memory' : Memory) : Prop :=
  ∃ objects, memory.objects.LooksLike objects ∧ memory' = { memory with objects }

/-- What survives differs in the third and the fourth private object at most. -/
def Persistent.LooksLike (kept kept' : Persistent) : Prop :=
  ∃ objects, kept.objects.LooksLike objects ∧ kept' = { kept with objects }

namespace Memory

variable {memory memory' : Memory} {object : DataObject}

/-- What does not depend on the data objects is the same. -/
theorem LooksLike.congr {α : Type} (same : memory.LooksLike memory') (read : Memory → α)
    (blind : ∀ memory objects, read { memory with objects } = read memory) :
    read memory' = read memory := by
  obtain ⟨objects, -, rfl⟩ := same
  exact blind memory objects

/-- A change that does not look at the data objects leaves memories that look alike. -/
theorem LooksLike.map (same : memory.LooksLike memory') (change : Memory → Memory)
    (blind : ∀ memory objects, change { memory with objects } = { change memory with objects }) :
    (change memory).LooksLike (change memory') := by
  obtain ⟨objects, alike, rfl⟩ := same
  have own : change memory = { change memory with objects := memory.objects } :=
    blind memory memory.objects
  refine ⟨objects, ?_, blind memory objects⟩
  rw [own]
  exact alike

/-- What is shown of an object that is not one of the two is the same. -/
theorem LooksLike.value? (same : memory.LooksLike memory') (not3 : object ≠ .private3)
    (not4 : object ≠ .private4) : memory'.value? object = memory.value? object := by
  obtain ⟨objects, alike, rfl⟩ := same
  have stored := alike.value? not3 not4
  cases object with
  | cardholder =>
    obtain ⟨_, _, rfl⟩ := alike
    rfl
  | name | language | sex | login | url | fingerprint | caFingerprint | generationTime | private1
  | private2 | private3 | private4 | resettingCode | certificate => exact stored
  | _ => rfl

/-- A new session begins alike. -/
theorem LooksLike.adopt {kept kept' : Persistent} (kept_alike : kept.LooksLike kept')
    (same : memory.LooksLike memory') : (memory.adopt kept).LooksLike (memory'.adopt kept') := by
  obtain ⟨objects, -, rfl⟩ := same
  obtain ⟨objects', alike, rfl⟩ := kept_alike
  exact ⟨objects', alike, rfl⟩

end Memory

variable {σ : Type} [Backend σ] {stores : σ → σ → Prop}

open Kept (Related)

/-! ## Cards -/

namespace Card

section Discreet

variable (discreet : Discreet stores)

include discreet

/-- The same card twice, but for the third and the fourth private object. -/
abbrev Lookalike (stores : σ → σ → Prop) : Card σ → Card σ → Prop :=
  Related Memory.LooksLike stores

section Parts

variable {ε α : Type}

omit [Backend σ] discreet

theorem onSecrets_steady {act : Attempt ε (Kept Secrets σ) α} (h : Steady (Related Eq stores) act) :
    Steady (Lookalike stores) (onSecrets act) := by
  refine Accords.onPart h ?_ ?_
  · rintro memory _ ⟨objects, -, rfl⟩
    rfl
  · rintro memory _ secrets _ ⟨objects, alike, rfl⟩ rfl
    exact ⟨objects, alike, rfl⟩

theorem onKeys_steady {act : Attempt ε (Kept KeySlots σ) α} (h : Steady (Related Eq stores) act) :
    Steady (Lookalike stores) (onKeys act) := by
  refine Accords.onPart h ?_ ?_
  · rintro memory _ ⟨objects, -, rfl⟩
    rfl
  · rintro memory _ keys _ ⟨objects, alike, rfl⟩ rfl
    exact ⟨objects, alike, rfl⟩

theorem onObjects_steady {act : Attempt ε (Kept DataObjects σ) α}
    (h : Steady (Related DataObjects.LooksLike stores) act) :
    Steady (Lookalike stores) (onObjects act) := by
  refine Accords.onPart h ?_ ?_
  · rintro memory _ ⟨objects, alike, rfl⟩
    exact alike
  · rintro memory _ objects objects' ⟨_, -, rfl⟩ alike
    exact ⟨objects', alike, rfl⟩

theorem adjust_steady {change : Memory → Memory}
    (blind : ∀ memory objects, change { memory with objects } = { change memory with objects }) :
    Steady (Lookalike stores) (Kept.adjust change : Attempt ε (Card σ) Unit) :=
  Accords.adjust fun _ _ alike => alike.map change blind

theorem adjustSecurity_steady {change : Security → Security} :
    Steady (Lookalike stores) (adjustSecurity change : Attempt ε (Card σ) Unit) :=
  adjust_steady fun _ _ => rfl

/-- A computation that does not look at the data objects finds the same in memories that look
alike. -/
theorem held_bind_steady {next : Memory → Attempt ε (Card σ) α}
    (blind : ∀ memory objects, next { memory with objects } = next memory)
    (rest : ∀ memory, Steady (Lookalike stores) (next memory)) :
    Steady (Lookalike stores) (Kept.held >>= next) := by
  refine Accords.bind Accords.held ?_
  rintro memory _ ⟨objects, -, rfl⟩
  rw [blind memory objects]
  exact rest memory

theorem require_steady (condition : Condition) (otherwise : CardError) :
    Steady (Lookalike stores)
      (require condition otherwise : Attempt CardError (Card σ) Unit) := by
  refine held_bind_steady (fun _ _ => rfl) fun memory => ?_
  split
  · exact Steady.throw
  · exact Steady.pure

end Parts

/-! ### Passwords -/

theorem verify_steady (cmd : Command) :
    Steady (Lookalike stores) (verify cmd : Attempt CardError (Card σ) Bytes) := by
  unfold verify
  split
  · exact Steady.throw
  · refine Steady.bind (onSecrets_steady (Secrets.verify_steady discreet _ _)).outcome ?_
    rintro (e | ⟨⟩)
    · exact Steady.bind adjustSecurity_steady fun _ => Steady.throw
    · exact Steady.bind adjustSecurity_steady fun _ => Steady.pure

theorem changeReferenceData_steady (cmd : Command) :
    Steady (Lookalike stores) (changeReferenceData cmd : Attempt CardError (Card σ) Bytes) := by
  unfold changeReferenceData
  split
  · exact Steady.throw
  · refine Steady.bind (onSecrets_steady (Secrets.change_steady discreet _ _)).outcome ?_
    rintro (e | ⟨⟩)
    · exact Steady.bind adjustSecurity_steady fun _ => Steady.throw
    · exact Steady.bind adjustSecurity_steady fun _ => Steady.pure

theorem resetRetryCounter_steady (cmd : Command) :
    Steady (Lookalike stores) (resetRetryCounter cmd : Attempt CardError (Card σ) Bytes) := by
  have revokes : Steady (Lookalike stores) (do
      adjustSecurity Security.revokePw1
      return [] : Attempt CardError (Card σ) Bytes) :=
    Steady.bind adjustSecurity_steady fun _ => Steady.pure
  unfold resetRetryCounter
  dsimp only
  split
  · exact Steady.throw_bind
  · split
    · exact Steady.bind (onSecrets_steady (Secrets.resetWithCode_steady discreet _))
        fun _ => revokes
    · split
      · refine Steady.bind (require_steady _ _) fun _ => ?_
        exact Steady.bind (onSecrets_steady (Secrets.resetPw1_steady discreet _)) fun _ => revokes
      · exact Steady.throw_bind

theorem setLimit_steady (id : SecretId) (limit : UInt8) :
    Steady (Lookalike stores) (setLimit id limit : Attempt CardError (Card σ) Unit) := by
  unfold setLimit
  split
  · refine Steady.bind (onSecrets_steady (Secrets.resetWithLimit_steady discreet _ _)).mapError
      fun _ => ?_
    split
    · exact Steady.bind (Steady.onStore (discreet.writeByte _ _)).mapError
        fun _ => adjustSecurity_steady
    · exact Steady.pure
  · exact Steady.pure

theorem setRetries_steady (cmd : Command) :
    Steady (Lookalike stores) (setRetries cmd : Attempt CardError (Card σ) Bytes) := by
  unfold setRetries
  split
  · refine Steady.bind (require_steady _ _) fun _ => ?_
    refine Steady.bind (setLimit_steady discreet _ _) fun _ => ?_
    refine Steady.bind (setLimit_steady discreet _ _) fun _ => ?_
    exact Steady.bind (setLimit_steady discreet _ _) fun _ => Steady.pure
  · exact Steady.throw

/-! ### Keys -/

theorem performSecurityOperation_steady (cmd : Command) :
    Steady (Lookalike stores)
      (performSecurityOperation cmd : Attempt CardError (Card σ) Bytes) := by
  unfold performSecurityOperation
  split
  · refine Steady.bind (require_steady _ _) fun _ => ?_
    refine Steady.bind (onKeys_steady (KeySlots.sign_steady discreet _)) fun _ => ?_
    exact Steady.bind adjustSecurity_steady fun _ => Steady.pure
  · split
    · refine Steady.bind (require_steady _ _) fun _ => ?_
      refine Steady.bind (onKeys_steady (KeySlots.decipher_steady discreet _)) fun _ => ?_
      exact Steady.bind adjustSecurity_steady fun _ => Steady.pure
    · exact Steady.throw

theorem internalAuthenticate_steady (cmd : Command) :
    Steady (Lookalike stores) (internalAuthenticate cmd : Attempt CardError (Card σ) Bytes) := by
  refine Steady.bind (require_steady _ _) fun _ => ?_
  refine Steady.bind (onKeys_steady (KeySlots.authenticate_steady discreet _)) fun _ => ?_
  exact Steady.bind adjustSecurity_steady fun _ => Steady.pure

theorem generateKeyPair_steady (env : Environment) (cmd : Command) :
    Steady (Lookalike stores) (generateKeyPair env cmd : Attempt CardError (Card σ) Bytes) := by
  unfold generateKeyPair
  dsimp only
  split
  · exact Steady.throw_bind
  · split
    · exact Steady.throw
    · split
      · exact held_bind_steady (fun _ _ => rfl) fun _ => Steady.ofExcept
      · exact Steady.bind (require_steady _ _)
          fun _ => onKeys_steady (KeySlots.generate_steady discreet env _)

theorem importKey_steady (cmd : Command) :
    Steady (Lookalike stores) (importKey cmd : Attempt CardError (Card σ) Bytes) := by
  unfold importKey
  dsimp only
  split
  · exact Steady.throw_bind
  · refine Steady.bind (require_steady _ _) fun _ => ?_
    exact Steady.bind (onKeys_steady (KeySlots.importKey_steady discreet _)) fun _ => Steady.pure

/-! ### The life of the card -/

theorem makeFactory_steady :
    Steady (Lookalike stores) (makeFactory : Attempt StoreError (Card σ) Unit) := by
  refine Steady.bind (onSecrets_steady (Secrets.makeFactory_steady discreet)) fun _ => ?_
  refine Steady.bind (onKeys_steady (KeySlots.makeFactory_steady discreet)) fun _ => ?_
  refine Steady.bind (onObjects_steady (DataObjects.makeFactory_steady discreet)) fun _ => ?_
  refine Steady.bind (Steady.onStore (discreet.writeByte _ _)) fun _ => ?_
  refine Steady.bind (Steady.onStore (discreet.writeByte _ _)) fun _ => ?_
  refine Steady.bind (Steady.onStore (discreet.writeWord _ _)) fun _ => ?_
  refine Steady.bind (Steady.onStore (discreet.writeByte _ _)) fun _ => ?_
  exact adjust_steady fun _ _ => rfl

theorem activate_steady :
    Steady (Lookalike stores) (activate : Attempt CardError (Card σ) Bytes) := by
  refine held_bind_steady (fun _ _ => rfl) fun memory => ?_
  dsimp only
  split
  · exact Steady.throw_bind
  · exact Steady.bind (makeFactory_steady discreet).mapError fun _ => Steady.pure

theorem terminate_steady :
    Steady (Lookalike stores) (terminate : Attempt CardError (Card σ) Bytes) := by
  refine held_bind_steady (fun _ _ => rfl) fun memory => ?_
  dsimp only
  split
  · exact Steady.throw_bind
  · refine Steady.bind (Steady.onStore (discreet.writeByte _ _)).mapError fun _ => ?_
    exact Steady.bind (adjust_steady fun _ _ => rfl) fun _ => Steady.pure

/-- What is read of what survives looks alike. -/
theorem load_accords :
    Accords stores Persistent.LooksLike (load : Attempt StoreError σ Persistent) load := by
  refine Accords.bind (discreet.readWord _) ?_
  rintro layout _ rfl
  dsimp only
  split
  · exact Accords.throw_bind
  · refine Accords.bind (Secrets.load_steady discreet) ?_
    rintro secrets _ rfl
    refine Accords.bind (KeySlots.load_steady discreet) ?_
    rintro keys _ rfl
    refine Accords.bind (DataObjects.load_accords discreet) fun objects objects' alike => ?_
    refine Accords.bind (discreet.readByte _) ?_
    rintro terminated _ rfl
    refine Accords.bind (discreet.readByte _) ?_
    rintro status _ rfl
    exact Accords.pure ⟨objects', alike, rfl⟩

theorem reload_steady : Steady (Lookalike stores) (reload : Attempt StoreError (Card σ) Unit) := by
  refine Accords.bind (Accords.onStore (load_accords discreet)) fun kept kept' alike => ?_
  exact Accords.adjust fun _ _ => Memory.LooksLike.adopt alike

/-! ### Data objects -/

omit [Backend σ] discreet in
theorem requireObject_steady (cmd : Command) :
    Steady (Lookalike stores) (requireObject cmd : Attempt CardError (Card σ) DataObject) := by
  unfold requireObject
  split
  · exact Steady.throw
  · exact Steady.pure

omit [Backend σ] discreet in
theorem requireAccess_steady (access : Option Access) :
    Steady (Lookalike stores) (requireAccess access : Attempt CardError (Card σ) Unit) := by
  unfold requireAccess
  split
  · exact Steady.throw
  · refine held_bind_steady (fun _ _ => rfl) fun memory => ?_
    split
    · exact Steady.throw
    · exact Steady.pure

theorem write_steady (value : Bytes) (object : DataObject) :
    Steady (Lookalike stores) (write value object : Attempt CardError (Card σ) Unit) := by
  cases object with
  | passwordStatus =>
    exact Steady.bind (Steady.onStore (discreet.writeByte _ _)).mapError
      fun _ => adjustSecurity_steady
  | fingerprint | caFingerprint | generationTime =>
    exact (onKeys_steady (KeySlots.updateRecord_steady discreet _ _)).mapError
  | resettingCode =>
    change Steady _ (if value.isEmpty = true then _ else _)
    split
    · exact (onSecrets_steady (Secrets.clearCode_steady discreet)).mapError
    · exact (onSecrets_steady (Secrets.setValue_steady discreet _ _)).mapError
  | _ => exact onObjects_steady (DataObjects.put_steady discreet _ _)

theorem putData_steady (cmd : Command) :
    Steady (Lookalike stores) (putData cmd : Attempt CardError (Card σ) Bytes) := by
  refine Steady.bind (requireObject_steady cmd) fun object => ?_
  refine Steady.bind (requireAccess_steady _) fun _ => ?_
  refine Steady.bind Steady.ofExcept fun _ => ?_
  exact Steady.bind (write_steady discreet _ _) fun _ => Steady.pure

end Discreet

/-! ### GET DATA -/

section Reveals

variable {card card' : Card σ} {cmd : Command}

omit [Backend σ]

/-- The command is a GET DATA of object 0103 while PW1 is verified for other uses, or of object 0104
while PW3 is verified. -/
def Reveals (memory : Memory) (cmd : Command) : Prop :=
  cmd.instruction = .getData ∧
    (cmd.p1p2 = 0x0103 ∧ memory.security.holds .pw1Other = true ∨
      cmd.p1p2 = 0x0104 ∧ memory.security.holds .pw3 = true)

/-- A GET DATA of one of the two objects that reveals nothing is refused. -/
theorem getData_of_hidden (instruction : cmd.instruction = .getData)
    (hidden : ¬ Reveals card.memory cmd) {object : DataObject}
    (named : DataObject.ofTag? cmd.p1p2 = some object)
    (secret : object = .private3 ∨ object = .private4) :
    getData cmd card = .error .securityStatusNotSatisfied card := by
  have tag : object.tag = cmd.p1p2 := DataObject.tag_of_ofTag? named
  have denied : ∃ condition, object.readAccess? = some (.when condition) ∧
      card.memory.security.holds condition = false := by
    rcases secret with rfl | rfl
    · refine ⟨.pw1Other, rfl, ?_⟩
      rw [← Bool.not_eq_true]
      exact fun verified => hidden ⟨instruction, .inl ⟨tag.symm, verified⟩⟩
    · refine ⟨.pw3, rfl, ?_⟩
      rw [← Bool.not_eq_true]
      exact fun verified => hidden ⟨instruction, .inr ⟨tag.symm, verified⟩⟩
  obtain ⟨condition, access, unverified⟩ := denied
  have refused : (requireAccess object.readAccess? : Attempt CardError (Card σ) Unit) card =
      .error .securityStatusNotSatisfied card := by
    have held : (Kept.held : Attempt CardError (Card σ) Memory) card = .ok card.memory card := rfl
    have no : (!Access.granted card.memory.security (.when condition)) = true := by
      simp [Access.granted, unverified]
    unfold requireAccess
    rw [access]
    dsimp only
    rw [bind_of_ok held, if_pos no]
    rfl
  unfold getData requireObject
  rw [named]
  dsimp only
  rw [pure_bind, bind_of_error refused]

/-- A GET DATA that reveals nothing shows the same on both sides. -/
theorem getData_matches (alike : Lookalike stores card card')
    (instruction : cmd.instruction = .getData) (hidden : ¬ Reveals card.memory cmd) :
    Matches (Lookalike stores) Eq (getData cmd card) (getData cmd card') := by
  cases named : DataObject.ofTag? cmd.p1p2 with
  | none =>
    have unknown : Steady (Lookalike stores) (getData cmd : Attempt CardError (Card σ) Bytes) := by
      unfold getData requireObject
      rw [named]
      exact Steady.throw_bind
    exact unknown card card' alike
  | some object =>
    by_cases secret : object = .private3 ∨ object = .private4
    · have hidden' : ¬ Reveals card'.memory cmd := by
        obtain ⟨objects, -, same⟩ := alike.memory
        rw [same]
        exact hidden
      rw [getData_of_hidden instruction hidden named secret,
        getData_of_hidden instruction hidden' named secret]
      exact .error _ alike
    · obtain ⟨not3, not4⟩ := not_or.mp secret
      have shown : Steady (Lookalike stores) (getData cmd : Attempt CardError (Card σ) Bytes) := by
        unfold getData requireObject
        rw [named]
        dsimp only
        rw [pure_bind]
        refine Steady.bind (requireAccess_steady _) fun _ => ?_
        refine Accords.bind Accords.held fun memory memory' same => ?_
        rw [same.value? not3 not4]
        split
        · exact Steady.throw
        · exact Steady.pure
      exact shown card card' alike

end Reveals

section Commands

variable {card card' : Card σ} {cmd : Command} (discreet : Discreet stores)

include discreet

/-- A command that reveals nothing does the same on both sides. -/
theorem dispatch_matches (alike : Lookalike stores card card') (hidden : ¬ Reveals card.memory cmd)
    (env : Environment) :
    Matches (Lookalike stores) Eq (dispatch env cmd card) (dispatch env cmd card') := by
  unfold dispatch
  cases instruction : cmd.instruction with
  | verify => exact verify_steady discreet cmd card card' alike
  | changeReferenceData => exact changeReferenceData_steady discreet cmd card card' alike
  | resetRetryCounter => exact resetRetryCounter_steady discreet cmd card card' alike
  | performSecurityOperation => exact performSecurityOperation_steady discreet cmd card card' alike
  | internalAuthenticate => exact internalAuthenticate_steady discreet cmd card card' alike
  | generateKeyPair => exact generateKeyPair_steady discreet env cmd card card' alike
  | getData => exact getData_matches alike instruction hidden
  | putData => exact putData_steady discreet cmd card card' alike
  | importKey => exact importKey_steady discreet cmd card card' alike
  | terminate => exact terminate_steady discreet card card' alike
  | activate => exact activate_steady discreet card card' alike
  | setRetries => exact setRetries_steady discreet cmd card card' alike
  | getChallenge | getVersion => exact .ok rfl alike
  | select | invalidate | getResponse | unsupported => exact .error _ alike

end Commands

end Card

end PgpCard
