import PgpCard.Proofs.Card.Reachable

/-!
# Who can change what a card keeps

Everything that a card keeps, in memory and in its store, has an owner: a frame changes it only if
the owner was verified before the frame.  A secret may also be changed by one who tells its present
value, PW1 by one who tells the resetting code, and the activation of a terminated card makes
everything new.

* `Authorized` : every change of what is kept was allowed before the command began;
* `Executes.allowed`, `Answers.allowed` : so it is for each command, unless it makes the card new;
* `changes_authorized` : so it is for each frame that a card can receive, whatever the store
  refuses.
-/

set_option autoImplicit false

namespace PgpCard

/-- Who must be verified for a stored object to change. -/
def DataObject.owner (object : DataObject) : Condition :=
  if object = .private1 ∨ object = .private3 then .pw1Other else .pw3

namespace Card

/-- Writing an object leaves the others as they are. -/
theorem value?_of_withValue? {objects objects' : DataObjects} {object other : DataObject}
    {value : Bytes} (new : objects.withValue? object value = some objects')
    (ne : other ≠ object) : objects'.value? other = objects.value? other := by
  unfold DataObjects.withValue? at new
  split at new
  case h_3 =>
    split at new
    · cases new
      cases other <;> first | rfl | exact absurd rfl ne
    · cases new
  all_goals
    cases new
    try (cases other <;> first | rfl | exact absurd rfl ne)

/-- A command tells what is needed to change a secret, and attempts are left: the present value
of the secret, or the resetting code for PW1. -/
inductive Tells (secrets : Secrets) (cmd : Command) : SecretId → Prop
  | value {id : SecretId} (instruction : cmd.instruction = .changeReferenceData)
    (target : changeTarget? cmd.p2 = some id) (some_left : (secrets.record id).isBlocked = false)
    (right : (secrets.record id).accepts
      (cmd.data.take (secrets.record id).length.toNat) = true) : Tells secrets cmd id
  | code (instruction : cmd.instruction = .resetRetryCounter) (p1 : cmd.p1 = 0x00)
    (p2 : cmd.p2 = 0x81) (set : secrets.rc.isSet = true)
    (some_left : secrets.rc.isBlocked = false)
    (right : secrets.rc.accepts (cmd.data.take secrets.rc.length.toNat) = true) :
    Tells secrets cmd .pw1

/-- Nobody tells the resetting code to change it. -/
theorem Tells.ne_rc {secrets : Secrets} {cmd : Command} {id : SecretId}
    (h : Tells secrets cmd id) : id ≠ .rc := by
  cases h with
  | code => decide
  | value _ target =>
    unfold changeTarget? at target
    grind

/-- A secret may be changed with what the completed commands tell. -/
def Told (secrets : Secrets) (completed : Command → Prop) (id : SecretId) : Prop :=
  ∃ cmd, completed cmd ∧ Tells secrets cmd id

/-- Every difference between what was kept before and what is kept afterwards was allowed by what
was verified before, or by what a completed command told. -/
structure Authorized (security : Security) (completed : Command → Prop) (old kept : Persistent) :
    Prop where
  object : ∀ object, kept.objects.value? object = old.objects.value? object ∨
    security.holds object.owner = true
  status : kept.lasting = old.lasting ∨ security.pw3 = true
  slot : ∀ id, kept.keys.slot id = old.keys.slot id ∨ security.pw3 = true
  limit : ∀ id, (kept.secrets.record id).limit = (old.secrets.record id).limit ∨
    security.pw3 = true
  value : ∀ id, (old.secrets.record id).SameValue (kept.secrets.record id) ∨
    security.pw3 = true ∨ id ≠ .rc ∧ Told old.secrets completed id
  counter : kept.keys.counter = old.keys.counter ∨
    kept.keys.counter = old.keys.counter + 1 ∧ security.pw1Signing = true ∨
    kept.keys.counter = 0 ∧ security.pw3 = true
  terminated : kept.terminated = old.terminated ∨
    kept.terminated = true ∧ old.secrets.pw1.remaining = 0 ∧ old.secrets.pw3.remaining = 0

namespace Authorized

variable {security : Security} {completed : Command → Prop} {old : Persistent}

theorem refl (security : Security) (completed : Command → Prop) (old : Persistent) :
    Authorized security completed old old where
  object _ := .inl rfl
  status := .inl rfl
  slot _ := .inl rfl
  limit _ := .inl rfl
  value _ := .inl ⟨rfl, rfl, rfl⟩
  counter := .inl rfl
  terminated := .inl rfl

/-- New secrets, with values that were told. -/
theorem withSecrets {secrets : Secrets}
    (alters : Secrets.Alters (Told old.secrets completed) old.secrets secrets) :
    Authorized security completed old { old with secrets } :=
  { refl security completed old with
    limit := fun id => by
      rcases alters id with same | ⟨same, -⟩
      · exact .inl same.1
      · exact .inl same
    value := fun id => by
      rcases alters id with same | ⟨-, told⟩
      · exact .inl same
      · obtain ⟨cmd, done, tells⟩ := told
        exact .inr (.inr ⟨tells.ne_rc, cmd, done, tells⟩) }

/-- With PW3 verified, secrets and PW1 status may be anything. -/
theorem withSecrets_of_pw3 (granted : security.pw3 = true) (secrets : Secrets)
    (lasting : Bool) : Authorized security completed old { old with secrets, lasting } :=
  { refl security completed old with
    status := .inr granted
    limit := fun _ => .inr granted
    value := fun _ => .inr (.inl granted) }

/-- With PW3 verified, slots may hold anything, and the counter may be zero. -/
theorem withKeys_of_pw3 (granted : security.pw3 = true) {keys : KeySlots}
    (counter : keys.counter = old.keys.counter ∨ keys.counter = 0) :
    Authorized security completed old { old with keys } :=
  { refl security completed old with
    slot := fun _ => .inr granted
    counter := counter.imp id fun zero => .inr ⟨zero, granted⟩ }

/-- With PW1 verified for signing, the counter may grow by one. -/
theorem withCounter (granted : security.pw1Signing = true) {keys : KeySlots}
    (counted : keys = old.keys ∨ keys = { old.keys with counter := old.keys.counter + 1 }) :
    Authorized security completed old { old with keys } := by
  rcases counted with rfl | rfl
  · exact refl security completed old
  · exact { refl security completed old with
      slot := fun id => .inl (KeySlots.slot_withCounter _ _ id)
      counter := .inr (.inl ⟨rfl, granted⟩) }

/-- With PW1 and PW3 blocked, the card may be terminated. -/
theorem terminate
    (blocked : old.secrets.pw1.isBlocked = true ∧ old.secrets.pw3.isBlocked = true) :
    Authorized security completed old { old with terminated := true } :=
  { refl security completed old with
    terminated := .inr ⟨rfl, eq_of_beq blocked.1, eq_of_beq blocked.2⟩ }

/-- With its owner verified, an object may have any value. -/
theorem withObject {object : DataObject} {value : Bytes} {objects : DataObjects}
    (new : old.objects.withValue? object value = some objects)
    (owner : security.holds object.owner = true) :
    Authorized security completed old { old with objects } :=
  { refl security completed old with
    object := fun other => by
      by_cases same : other = object
      · exact .inr (by rwa [same])
      · exact .inl (value?_of_withValue? new same) }

end Authorized

/-! ## Commands -/

/-- Only its owner may write an object. -/
theorem holds_owner {object : DataObject} {access : Access} {security : Security}
    (writable : object.writeAccess? = some access) (granted : access.granted security = true) :
    security.holds object.owner = true := by
  unfold DataObject.writeAccess? at writable
  split at writable <;> cases writable <;> exact granted

variable {memory memory' : Memory} {completed : Command → Prop} {kept' : Persistent}

/-- The condition on what memory and store keep after a command. -/
def AllowedIn (memory : Memory) (completed : Command → Prop) (memory' : Memory)
    (kept' : Persistent) : Prop :=
  Authorized memory.security completed memory.persistent memory'.persistent ∧
    Authorized memory.security completed memory.persistent kept'

/-- The card was made new, or as much of it as the store allowed. -/
def Renews (memory memory' : Memory) (kept' : Persistent) : Prop :=
  memory.terminated = true ∧ memory.persistent.Blends memory'.persistent ∧
    memory.persistent.Blends kept'

theorem AllowedIn.same (same : memory'.persistent = memory.persistent) :
    AllowedIn memory completed memory' memory.persistent := by
  rw [AllowedIn, same]
  exact ⟨.refl _ _ _, .refl _ _ _⟩

/-- Without PW3, the value of a secret changes for one who tells it. -/
theorem AllowedIn.told (allowed : AllowedIn memory completed memory' kept')
    (locked : memory.security.pw3 = false) {id : SecretId}
    (changed : ¬ (memory.secrets.record id).SameValue (memory'.secrets.record id)) :
    Told memory.secrets completed id := by
  obtain same | granted | ⟨-, told⟩ := allowed.1.value id
  · exact absurd same changed
  · cases locked.symm.trans granted
  · exact told

theorem Writes.allowed {value : Bytes} {object : DataObject} {r : Except CardError Unit}
    (h : Writes memory value object r memory' kept')
    (owner : memory.security.holds object.owner = true) :
    AllowedIn memory completed memory' kept' := by
  cases h with
  | status saved =>
    cases saved with
    | done => exact ⟨.withSecrets_of_pw3 owner _ _, .withSecrets_of_pw3 owner _ _⟩
    | refused => exact .same rfl
  | fingerprint commits | caFingerprint commits | generationTime commits =>
    have counter := commits.counter
    cases commits.settled
    exact ⟨.withKeys_of_pw3 owner (.inl counter), .withKeys_of_pw3 owner (.inl counter)⟩
  | resettingCode =>
    exact ⟨.withSecrets_of_pw3 owner _ _, .withSecrets_of_pw3 owner _ _⟩
  | stored new saved =>
    cases saved with
    | refused => exact .same rfl
    | done => exact ⟨.withObject new owner, .withObject new owner⟩
  | unknown => exact .same rfl

/-- Everything that a command changes was allowed before it began, unless it made the card new. -/
theorem Executes.allowed {env : Environment} {cmd : Command} {r : Except CardError Bytes}
    (h : Executes env cmd memory r memory' kept') (done : completed cmd) :
    (cmd.instruction = .activate ∧ Renews memory memory' kept') ∨
      AllowedIn memory completed memory' kept' := by
  cases h with
  | activates instruction terminated makes =>
    exact .inl ⟨instruction, terminated, makes.blends⟩
  | leaves => exact .inr (.same rfl)
  | verifies _ _ verifies =>
    rw [AllowedIn, persistent_session (lasting_afterVerify _ _ _ _)]
    exact .inr (verifies.alters.imp Authorized.withSecrets Authorized.withSecrets)
  | changes instruction target changes =>
    rw [AllowedIn, persistent_session (Security.lasting_revokeSecret _ _)]
    refine .inr (And.imp Authorized.withSecrets Authorized.withSecrets
      (changes.alters fun some_left right => ?_))
    exact ⟨cmd, done, .value instruction target some_left right⟩
  | resetsWithCode instruction p1 p2 resets =>
    rw [AllowedIn, persistent_session (lasting_afterSuccess Security.lasting_revokePw1 _ _)]
    refine .inr (And.imp Authorized.withSecrets Authorized.withSecrets
      (resets.alters fun set some_left right => ?_))
    exact ⟨cmd, done, .code instruction p1 p2 set some_left right⟩
  | resetsPw1 _ _ _ granted =>
    rw [AllowedIn, persistent_session (lasting_afterSuccess Security.lasting_revokePw1 _ _)]
    exact .inr ⟨.withSecrets_of_pw3 granted _ _, .withSecrets_of_pw3 granted _ _⟩
  | setsRetries _ _ granted sets =>
    obtain ⟨_, _, _, _, rfl, rfl⟩ := sets.frame
    exact .inr ⟨.withSecrets_of_pw3 granted _ _, .withSecrets_of_pw3 granted _ _⟩
  | signs _ _ granted signs =>
    have counter := signs.counter
    cases signs.settled
    rw [AllowedIn, persistent_session (lasting_afterSuccess Security.lasting_afterSigning _ _)]
    exact .inr ⟨.withCounter granted counter, .withCounter granted counter⟩
  | uses =>
    exact .inr (.same (persistent_session (lasting_afterSuccess Security.lasting_afterOther _ _)))
  | generates _ _ _ granted generates =>
    have counter := generates.counter
    cases generates.settled
    exact .inr ⟨.withKeys_of_pw3 granted counter, .withKeys_of_pw3 granted counter⟩
  | imports _ granted imports =>
    have counter := imports.counter
    cases imports.settled
    exact .inr ⟨.withKeys_of_pw3 granted (.inl counter), .withKeys_of_pw3 granted (.inl counter)⟩
  | puts _ _ writable granted _ writes => exact .inr (writes.allowed (holds_owner writable granted))
  | terminates _ blocked saved =>
    cases saved with
    | refused => exact .inr (.same rfl)
    | done => exact .inr ⟨.terminate blocked, .terminate blocked⟩

/-! ## Frames -/

theorem Answers.allowed {env : Environment} {cmd : Command} {frame : Bytes}
    {response : Response} (h : Answers env cmd memory response memory' kept')
    (parses : Command.ofFrame? frame = .ok cmd) :
    (∃ whole, Completes memory frame whole ∧ whole.instruction = .activate ∧
        Renews memory memory' kept') ∨
      AllowedIn memory (Completes memory frame) memory' kept' := by
  cases h with
  | executes passes accepts _ executes =>
    have done : Completes memory frame _ := ⟨cmd, _, parses, passes, accepts⟩
    rw [AllowedIn, Renews, persistent_conclude]
    rcases executes.allowed done with ⟨instruction, renewed⟩ | allowed
    · exact .inl ⟨_, done, instruction, renewed⟩
    · exact .inr allowed
  | _ => exact .inr (.same rfl)

/-- No frame changes what the card keeps, in memory or in its store, unless that was allowed
before the frame.  The one exception is the activation of a terminated card, which leaves
everything as it was or as on a new card.  The store may refuse any read and any write. -/
theorem changes_authorized {card : Card FlakyStore} (reached : Reached (fun _ => True) (.on card))
    (fresh : card.memory.stale = false) (env : Environment) (frame : Bytes) :
    Holds card.store.inner card.memory.persistent ∧
    ∃ kept, Holds (process env frame card).2.store.inner kept ∧
      ((∃ whole, Completes card.memory frame whole ∧ whole.instruction = .activate ∧
          Renews card.memory (process env frame card).2.memory kept) ∨
        AllowedIn card.memory (Completes card.memory frame)
          (process env frame card).2.memory kept) := by
  have holds := holds_of_reached reached fresh
  refine ⟨holds, ?_⟩
  unfold process
  split
  · exact ⟨_, holds, .inr (.same rfl)⟩
  · rename_i cmd parses
    rw [respond, if_neg (by simp [fresh])]
    obtain ⟨kept, holds', answers⟩ := answer_answers env cmd holds
    exact ⟨kept, holds', answers.allowed parses⟩

/-- CHANGE REFERENCE DATA of PW1, from its first value to another one. -/
def changePw1Frame : Bytes :=
  [0x00, 0x24, 0x00, 0x81, 0x0C] ++ Secrets.defaultPw1 ++ List.replicate 6 0x30

/-- A new card once PW1 is changed. -/
def changedCard : Card FlakyStore :=
  (process (.ofSeed [] 0) changePw1Frame (newCard fun _ => false)).2

/-- Nothing is verified on a new card, and so PW1 is changed by one who tells its value. -/
theorem changes_authorized_change :
    let card := newCard fun _ => false
    card.memory.stale = false ∧ card.memory.security = .initial ∧
      ∃ kept, Holds changedCard.store.inner kept ∧
        AllowedIn card.memory (Completes card.memory changePw1Frame) changedCard.memory kept ∧
        ¬ (card.memory.secrets.record .pw1).SameValue (changedCard.memory.secrets.record .pw1) ∧
        Told card.memory.secrets (Completes card.memory changePw1Frame) .pw1 := by
  intro card
  have fresh : card.memory.stale = false := rfl
  have changed : ¬ (card.memory.secrets.record .pw1).SameValue
      (changedCard.memory.secrets.record .pw1) := by
    rintro ⟨-, -, digest⟩
    revert digest
    decide +kernel
  unfold changedCard at changed ⊢
  obtain ⟨-, kept, holds, renewed | allowed⟩ :=
    changes_authorized (reached_newCard _) fresh (.ofSeed [] 0) changePw1Frame
  · obtain ⟨-, -, -, terminated, -⟩ := renewed
    cases terminated
  · exact ⟨fresh, rfl, kept, holds, allowed, changed, allowed.told rfl changed⟩

end Card

end PgpCard
