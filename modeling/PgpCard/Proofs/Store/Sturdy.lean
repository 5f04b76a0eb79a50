import PgpCard.Proofs.Attempt
import PgpCard.Store.Memory

/-!
# Reasoning about a store that takes every write

`Sturdily good act memory post` says that the computation `act`, begun with `memory` above a good
store, ends above a good store with a result and a memory that satisfy `post`.  What a good store
is, is left open: `Sturdy` asks that it takes every write of a byte string.
-/

set_option autoImplicit false

namespace PgpCard

open Attempt

variable {σ β γ ε ε' α : Type} {good : σ → Prop} {memory : β}

/-- As long as a store is good, it takes every write of a byte string and stays good. -/
structure Sturdy [Backend σ] (good : σ → Prop) : Prop where
  writeBlob : ∀ store, good store → ∀ name data,
    ∃ store', Backend.writeBlob name data store = .ok () store' ∧ good store'
  note : ∀ store, good store → ∀ audit, good (Backend.note audit store)

/-- Begun on a good store, the computation ends on one, with a result and a memory that satisfy a
condition. -/
def Sturdily (good : σ → Prop) (act : Attempt ε (Kept β σ) α) (memory : β)
    (post : Except ε α → β → Prop) : Prop :=
  ∀ store, good store → act.Leads ⟨memory, store⟩ fun r kept => good kept.store ∧ post r kept.memory

namespace Sturdily

variable {act : Attempt ε (Kept β σ) α} {post : Except ε α → β → Prop}

theorem pure {a : α} (h : post (.ok a) memory) : Sturdily good (Pure.pure a) memory post :=
  fun _ usable => ⟨usable, h⟩

theorem throw {e : ε} (h : post (.error e) memory) :
    Sturdily good (MonadExcept.throw e) memory post :=
  fun _ usable => ⟨usable, h⟩

theorem bind {next : α → Attempt ε (Kept β σ) γ} {post : Except ε γ → β → Prop}
    (h : Sturdily good act memory fun r memory' =>
      match r with
      | .ok a => Sturdily good (next a) memory' post
      | .error e => post (.error e) memory') :
    Sturdily good (act >>= next) memory post := by
  intro store usable
  rw [leads_bind]
  refine (h store usable).mono ?_
  rintro (e | a) ⟨memory', store'⟩ ⟨usable', meets⟩
  · exact ⟨usable', meets⟩
  · exact meets store' usable'

theorem throw_bind {e : ε} {next : α → Attempt ε (Kept β σ) γ}
    {post : Except ε γ → β → Prop} (h : post (.error e) memory) :
    Sturdily good (MonadExcept.throw e >>= next) memory post :=
  bind (throw h)

theorem held_bind {next : β → Attempt ε (Kept β σ) γ}
    {post : Except ε γ → β → Prop} (h : Sturdily good (next memory) memory post) :
    Sturdily good (Kept.held >>= next) memory post :=
  bind fun _ usable => ⟨usable, h⟩

theorem adjust {change : β → β} {post : Except ε Unit → β → Prop}
    (h : post (.ok ()) (change memory)) : Sturdily good (Kept.adjust change) memory post :=
  fun _ usable => ⟨usable, h⟩

theorem ofExcept {result : Except ε α} {post : Except ε α → β → Prop} (h : post result memory) :
    Sturdily good (Attempt.ofExcept result) memory post := fun _ usable =>
  leads_ofExcept.mpr ⟨usable, h⟩

theorem mapError {wrap : ε → ε'} {post : Except ε' α → β → Prop}
    (h : Sturdily good act memory fun r => post (r.mapError wrap)) :
    Sturdily good (act.mapError wrap) memory post := fun store usable =>
  leads_mapError.mpr (h store usable)

theorem outcome {post : Except ε' (Except ε α) → β → Prop}
    (h : Sturdily good act memory fun r => post (.ok r)) :
    Sturdily good act.outcome memory post := fun store usable =>
  leads_outcome.mpr (h store usable)

theorem onPart {part : β → γ} {put : γ → β → β} {act : Attempt ε (Kept γ σ) α}
    (h : Sturdily good act (part memory) fun r inner => post r (put inner memory)) :
    Sturdily good (Kept.onPart part put act) memory post := fun store usable =>
  Kept.leads_onPart.mpr (h store usable)

theorem mono {post' : Except ε α → β → Prop} (h : Sturdily good act memory post)
    (weaker : ∀ r memory', post r memory' → post' r memory') :
    Sturdily good act memory post' := fun store usable =>
  (h store usable).mono fun _ _ meets => ⟨meets.1, weaker _ _ meets.2⟩

section Backend

variable [Backend σ] (sturdy : Sturdy good)

include sturdy

theorem note {step : Audit} {post : Except ε Unit → β → Prop} (h : post (.ok ()) memory) :
    Sturdily good (Kept.note step) memory post := fun store usable =>
  ⟨sturdy.note store usable step, h⟩

/-- A write is taken. -/
theorem writeBlob {name : String} {data : Bytes} {post : Except StoreError Unit → β → Prop}
    (h : post (.ok ()) memory) :
    Sturdily good (Kept.onStore (Backend.writeBlob name data)) memory post := by
  intro store usable
  obtain ⟨store', written, usable'⟩ := sturdy.writeBlob store usable name data
  rw [Kept.leads_onStore]
  exact (leads_of_eq written).mpr ⟨usable', h⟩

end Backend

end Sturdily

theorem memoryStore_sturdy : Sturdy fun _ : MemoryStore => True where
  writeBlob store _ name data := ⟨store.putBlob name data, rfl, trivial⟩
  note _ _ _ := trivial

end PgpCard
