import PgpCard.Card.Process
import PgpCard.Proofs.Attempt
import PgpCard.Proofs.Guarded.Frames

/-!
# What frames bring between two commands

* `Attempt.Keeps` : a condition on states that a computation keeps, whether it fails or not, with
  one rule for each way of putting computations together;
* `Framed` : the chain of a card holds no more than it may, and the card keeps no response;
* `dispatch_keeps` : a command leaves a card framed, whatever the store below does;
* `framed_of_openOn` : a card that was just opened is framed.
-/

set_option autoImplicit false

namespace PgpCard

namespace Attempt

variable {ε ε' s α β : Type} {good : s → Prop} {act : Attempt ε s α}

/-- A condition that holds after a computation if it held before. -/
def Keeps (good : s → Prop) (act : Attempt ε s α) : Prop :=
  ∀ start, good start → act.Leads start fun _ final => good final

namespace Keeps

theorem pure {a : α} : Keeps good (Pure.pure a : Attempt ε s α) := fun _ holds => holds

theorem throw {e : ε} : Keeps good (MonadExcept.throw e : Attempt ε s α) := fun _ holds => holds

theorem bind {next : α → Attempt ε s β} (first : Keeps good act)
    (rest : ∀ a, Keeps good (next a)) : Keeps good (act >>= next) := by
  intro start holds
  rw [leads_bind]
  refine (first start holds).mono ?_
  rintro (e | a) middle held
  · exact held
  · exact rest a middle held

theorem throw_bind {e : ε} {next : α → Attempt ε s β} :
    Keeps good (MonadExcept.throw e >>= next : Attempt ε s β) := fun _ holds => holds

theorem ofExcept {result : Except ε α} : Keeps good (ofExcept result : Attempt ε s α) :=
  fun _ holds => leads_ofExcept.mpr holds

theorem mapError {wrap : ε → ε'} (h : Keeps good act) : Keeps good (act.mapError wrap) :=
  fun start holds => leads_mapError.mpr (h start holds)

theorem outcome (h : Keeps good act) :
    Keeps good (act.outcome : Attempt ε' s (Except ε α)) :=
  fun start holds => leads_outcome.mpr (h start holds)

theorem of_ok (h : Keeps good act) {start final : s} {a : α} (holds : good start)
    (run : act start = .ok a final) : good final :=
  (h start holds).of_ok run

theorem of_error (h : Keeps good act) {start final : s} {e : ε} (holds : good start)
    (run : act start = .error e final) : good final :=
  (h start holds).of_error run

end Keeps

end Attempt

namespace Guarded

open Attempt
open Card (onSecrets onKeys onObjects adjustSecurity)

variable {ε σ α : Type}

/-- The chain of a card fits, and the card keeps no response. -/
structure Framed (card : Card σ) : Prop where
  fits : Fits card.memory.chain
  sent : card.memory.outgoing = .empty

/-! ## Parts of a card -/

theorem keeps_held : Keeps Framed (Kept.held : Attempt ε (Card σ) Memory) := fun _ framed => framed

theorem keeps_adjust {change : Memory → Memory}
    (chain : ∀ memory, (change memory).chain = memory.chain)
    (outgoing : ∀ memory, (change memory).outgoing = memory.outgoing) :
    Keeps Framed (Kept.adjust change : Attempt ε (Card σ) Unit) := fun card framed =>
  ⟨(congrArg Fits (chain card.memory)).mpr framed.fits, (outgoing card.memory).trans framed.sent⟩

theorem keeps_adjustSecurity {change : Security → Security} :
    Keeps Framed (adjustSecurity change : Attempt ε (Card σ) Unit) :=
  keeps_adjust (fun _ => rfl) fun _ => rfl

theorem keeps_onStore (act : Attempt ε σ α) :
    Keeps Framed (Kept.onStore act : Attempt ε (Card σ) α) := fun _ framed =>
  Kept.leads_onStore.mpr (leads_any fun _ _ => ⟨framed.fits, framed.sent⟩)

theorem keeps_onSecrets (act : Attempt ε (Kept Secrets σ) α) : Keeps Framed (onSecrets act) :=
  fun _ framed => Kept.leads_onPart.mpr (leads_any fun _ _ => ⟨framed.fits, framed.sent⟩)

theorem keeps_onKeys (act : Attempt ε (Kept KeySlots σ) α) : Keeps Framed (onKeys act) :=
  fun _ framed => Kept.leads_onPart.mpr (leads_any fun _ _ => ⟨framed.fits, framed.sent⟩)

theorem keeps_onObjects (act : Attempt ε (Kept DataObjects σ) α) : Keeps Framed (onObjects act) :=
  fun _ framed => Kept.leads_onPart.mpr (leads_any fun _ _ => ⟨framed.fits, framed.sent⟩)

/-! ## Commands -/

theorem keeps_require (condition : Condition) (otherwise : CardError) :
    Keeps Framed (Card.require condition otherwise : Attempt CardError (Card σ) Unit) := by
  refine .bind keeps_held fun memory => ?_
  split
  · exact .throw
  · exact .pure

theorem keeps_requireAccess (access : Option Access) :
    Keeps Framed (Card.requireAccess access : Attempt CardError (Card σ) Unit) := by
  cases access with
  | none => exact .throw
  | some access =>
    refine .bind keeps_held fun memory => ?_
    split
    · exact .throw
    · exact .pure

theorem keeps_requireObject (cmd : Command) :
    Keeps Framed (Card.requireObject cmd : Attempt CardError (Card σ) DataObject) := by
  unfold Card.requireObject
  split
  · exact .throw
  · exact .pure

variable [Backend σ] (cmd : Command)

theorem verify_keeps : Keeps Framed (Card.verify cmd : Attempt CardError (Card σ) Bytes) := by
  unfold Card.verify
  split
  · exact .throw
  · refine .bind (.outcome (keeps_onSecrets _)) fun result => ?_
    cases result with
    | ok _ => exact .bind keeps_adjustSecurity fun _ => .pure
    | error e => exact .bind keeps_adjustSecurity fun _ => .throw

theorem changeReferenceData_keeps :
    Keeps Framed (Card.changeReferenceData cmd : Attempt CardError (Card σ) Bytes) := by
  unfold Card.changeReferenceData
  split
  · exact .throw
  · refine .bind (.outcome (keeps_onSecrets _)) fun result => .bind keeps_adjustSecurity fun _ => ?_
    cases result with
    | ok _ => exact .pure
    | error e => exact .throw

theorem resetRetryCounter_keeps :
    Keeps Framed (Card.resetRetryCounter cmd : Attempt CardError (Card σ) Bytes) := by
  have done : Keeps Framed (do
      adjustSecurity Security.revokePw1
      return [] : Attempt CardError (Card σ) Bytes) := .bind keeps_adjustSecurity fun _ => .pure
  unfold Card.resetRetryCounter
  dsimp only
  split
  · exact .throw_bind
  split
  · exact .bind (keeps_onSecrets _) fun _ => done
  split
  · exact .bind (keeps_require _ _) fun _ => .bind (keeps_onSecrets _) fun _ => done
  · exact .throw_bind

theorem performSecurityOperation_keeps :
    Keeps Framed (Card.performSecurityOperation cmd : Attempt CardError (Card σ) Bytes) := by
  unfold Card.performSecurityOperation
  split
  · exact .bind (keeps_require _ _) fun _ => .bind (keeps_onKeys _) fun _ =>
      .bind keeps_adjustSecurity fun _ => .pure
  split
  · exact .bind (keeps_require _ _) fun _ => .bind (keeps_onKeys _) fun _ =>
      .bind keeps_adjustSecurity fun _ => .pure
  · exact .throw

theorem internalAuthenticate_keeps :
    Keeps Framed (Card.internalAuthenticate cmd : Attempt CardError (Card σ) Bytes) :=
  .bind (keeps_require _ _) fun _ => .bind (keeps_onKeys _) fun _ =>
    .bind keeps_adjustSecurity fun _ => .pure

theorem generateKeyPair_keeps (env : Environment) :
    Keeps Framed (Card.generateKeyPair env cmd : Attempt CardError (Card σ) Bytes) := by
  unfold Card.generateKeyPair
  dsimp only
  split
  · exact .throw_bind
  split
  · exact .throw
  split
  · exact .bind keeps_held fun _ => .ofExcept
  · exact .bind (keeps_require _ _) fun _ => keeps_onKeys _

theorem importKey_keeps :
    Keeps Framed (Card.importKey cmd : Attempt CardError (Card σ) Bytes) := by
  unfold Card.importKey
  dsimp only
  split
  · exact .throw_bind
  · exact .bind (keeps_require _ _) fun _ => .bind (keeps_onKeys _) fun _ => .pure

omit [Backend σ] in
theorem getData_keeps : Keeps Framed (Card.getData cmd : Attempt CardError (Card σ) Bytes) := by
  refine .bind (keeps_requireObject _) fun object => .bind (keeps_requireAccess _) fun _ =>
    .bind keeps_held fun memory => ?_
  split
  · exact .throw
  · exact .pure

theorem write_keeps (value : Bytes) (object : DataObject) :
    Keeps Framed (Card.write value object : Attempt CardError (Card σ) Unit) := by
  cases object with
  | passwordStatus => exact .bind (.mapError (keeps_onStore _)) fun _ => keeps_adjustSecurity
  | fingerprint slot | caFingerprint slot | generationTime slot =>
    exact .mapError (keeps_onKeys _)
  | resettingCode =>
    rw [Card.write]
    split
    · exact .mapError (keeps_onSecrets _)
    · exact .mapError (keeps_onSecrets _)
  | _ => exact keeps_onObjects _

theorem putData_keeps : Keeps Framed (Card.putData cmd : Attempt CardError (Card σ) Bytes) :=
  .bind (keeps_requireObject _) fun _ => .bind (keeps_requireAccess _) fun _ =>
    .bind .ofExcept fun _ => .bind (write_keeps _ _) fun _ => .pure

theorem setLimit_keeps (secret : SecretId) (limit : UInt8) :
    Keeps Framed (Card.setLimit secret limit : Attempt CardError (Card σ) Unit) := by
  unfold Card.setLimit
  split
  · refine .bind (.mapError (keeps_onSecrets _)) fun _ => ?_
    split
    · exact .bind (.mapError (keeps_onStore _)) fun _ => keeps_adjustSecurity
    · exact .pure
  · exact .pure

theorem setRetries_keeps :
    Keeps Framed (Card.setRetries cmd : Attempt CardError (Card σ) Bytes) := by
  unfold Card.setRetries
  split
  · exact .bind (keeps_require _ _) fun _ => .bind (setLimit_keeps _ _) fun _ =>
      .bind (setLimit_keeps _ _) fun _ => .bind (setLimit_keeps _ _) fun _ => .pure
  · exact .throw

theorem terminate_keeps : Keeps Framed (Card.terminate : Attempt CardError (Card σ) Bytes) := by
  refine .bind keeps_held fun memory => ?_
  dsimp only
  split
  · exact .throw_bind
  · exact .bind (.mapError (keeps_onStore _)) fun _ =>
      .bind (keeps_adjust (fun _ => rfl) fun _ => rfl) fun _ => .pure

theorem makeFactory_keeps : Keeps Framed (Card.makeFactory : Attempt StoreError (Card σ) Unit) := by
  have renew : Keeps Framed (Kept.adjust fun memory : Memory => { memory with
      security := .initial
      terminated := false
      chain := memory.chain.reset
      outgoing := .empty } : Attempt StoreError (Card σ) Unit) := fun _ framed =>
    ⟨framed.fits.reset, rfl⟩
  exact .bind (keeps_onSecrets _) fun _ => .bind (keeps_onKeys _) fun _ =>
    .bind (keeps_onObjects _) fun _ => .bind (keeps_onStore _) fun _ =>
      .bind (keeps_onStore _) fun _ => .bind (keeps_onStore _) fun _ =>
        .bind (keeps_onStore _) fun _ => renew

theorem activate_keeps : Keeps Framed (Card.activate : Attempt CardError (Card σ) Bytes) := by
  refine .bind keeps_held fun memory => ?_
  dsimp only
  split
  · exact .throw_bind
  · exact .bind (.mapError makeFactory_keeps) fun _ => .pure

/-- A command leaves a card framed. -/
theorem dispatch_keeps (env : Environment) :
    Keeps Framed (Card.dispatch env cmd : Attempt CardError (Card σ) Bytes) := by
  unfold Card.dispatch
  cases cmd.instruction with
  | verify => exact verify_keeps cmd
  | changeReferenceData => exact changeReferenceData_keeps cmd
  | resetRetryCounter => exact resetRetryCounter_keeps cmd
  | performSecurityOperation => exact performSecurityOperation_keeps cmd
  | internalAuthenticate => exact internalAuthenticate_keeps cmd
  | generateKeyPair => exact generateKeyPair_keeps cmd env
  | getChallenge => exact .pure
  | getData => exact getData_keeps cmd
  | putData => exact putData_keeps cmd
  | importKey => exact importKey_keeps cmd
  | terminate => exact terminate_keeps
  | activate => exact activate_keeps
  | getVersion => exact .pure
  | setRetries => exact setRetries_keeps cmd
  | select | invalidate | getResponse | unsupported => exact .throw

/-! ## Opening -/

theorem reload_keeps : Keeps Framed (Card.reload : Attempt StoreError (Card σ) Unit) :=
  .bind (keeps_onStore _) fun _ _ framed => ⟨framed.fits.reset, rfl⟩

/-- A card that was just opened is framed. -/
theorem framed_of_openOn {profile : Profile} {store store' : σ} {memory : Memory}
    (opened : Card.openOn profile store = .ok memory store') :
    Framed (⟨memory, store'⟩ : Card σ) := by
  have start : ∀ marked, Framed (⟨{ profile }, marked⟩ : Card σ) := fun _ =>
    ⟨⟨rfl, Nat.zero_le _⟩, rfl⟩
  simp only [Card.openOn, bind, EStateM.bind] at opened
  split at opened
  · rename_i mark marked _
    have keeps : Keeps Framed (if mark = some 1 then Card.reload else Card.makeFactory :
        Attempt StoreError (Card σ) Unit) := by
      split
      · exact reload_keeps
      · exact makeFactory_keeps
    split at opened
    · rename_i card ended
      cases opened
      exact keeps.of_ok (start marked) ended
    · cases opened
  · cases opened

end Guarded

end PgpCard
