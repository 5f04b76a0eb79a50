import PgpCard.Store.Backend

/-!
# Reasoning about attempts

`act.Leads start post` says that the computation `act`, begun in the state `start`, ends with a
result and a state that satisfy `post`.  The result is an `Except`: the value that `act` returns,
or the failure that it reports.

* `Leads.mono` weakens a postcondition; `Leads.of_ok` and `Leads.of_error` read it off a run.
* One lemma for each way in which attempts are put together (`leads_pure`, `leads_bind`,
  `leads_mapError`, `leads_outcome`, …) says what the whole owes to its parts.
* `leads_onStore` and `leads_onPart` do the same for something held in memory above a store.
-/

set_option autoImplicit false

namespace PgpCard

namespace Attempt

variable {ε ε' s α β : Type}

/-- The computation ends with a result and a state that satisfy a condition. -/
def Leads (act : Attempt ε s α) (start : s) (post : Except ε α → s → Prop) : Prop :=
  match act start with
  | .ok a final => post (.ok a) final
  | .error e final => post (.error e) final

variable {act : Attempt ε s α} {start : s} {post post' : Except ε α → s → Prop}

theorem Leads.mono (h : act.Leads start post) (weaker : ∀ r final, post r final → post' r final) :
    act.Leads start post' := by
  unfold Leads at h ⊢
  split
  · rename_i run
    rw [run] at h
    exact weaker _ _ h
  · rename_i run
    rw [run] at h
    exact weaker _ _ h

/-- What a run that ends well satisfies. -/
theorem Leads.of_ok (h : act.Leads start post) {a : α} {final : s} (run : act start = .ok a final) :
    post (.ok a) final := by
  rwa [Leads, run] at h

/-- What a run that fails satisfies. -/
theorem Leads.of_error (h : act.Leads start post) {e : ε} {final : s}
    (run : act start = .error e final) : post (.error e) final := by
  rwa [Leads, run] at h

/-- A computation that cannot fail ends well. -/
theorem Leads.exists_ok (h : act.Leads start post) (never : ∀ e final, ¬ post (.error e) final) :
    ∃ a final, act start = .ok a final ∧ post (.ok a) final := by
  cases run : act start with
  | ok a final => exact ⟨a, final, rfl, h.of_ok run⟩
  | error e final => exact absurd (h.of_error run) (never e final)

/-- A computation that cannot end well fails. -/
theorem Leads.exists_error (h : act.Leads start post) (never : ∀ a final, ¬ post (.ok a) final) :
    ∃ e final, act start = .error e final ∧ post (.error e) final := by
  cases run : act start with
  | ok a final => exact absurd (h.of_ok run) (never a final)
  | error e final => exact ⟨e, final, rfl, h.of_error run⟩

/-- Whatever a computation comes to. -/
theorem leads_any (h : ∀ r final, post r final) : act.Leads start post := by
  unfold Leads
  split
  · exact h _ _
  · exact h _ _

/-- What becomes of a computation whose run is known. -/
theorem leads_of_eq {a : α} {final : s} (run : act start = .ok a final) :
    act.Leads start post ↔ post (.ok a) final := by
  rw [Leads, run]

/-- Only the run from that state matters. -/
theorem leads_congr {act' : Attempt ε s α} (same : act start = act' start) :
    act.Leads start post ↔ act'.Leads start post := by
  rw [Leads, Leads, same]

/-- The result of a computation and the state that it reaches. -/
def ending (act : Attempt ε s α) (start : s) : Except ε α × s :=
  match act start with
  | .ok a final => (.ok a, final)
  | .error e final => (.error e, final)

theorem leads_iff : act.Leads start post ↔ post (act.ending start).1 (act.ending start).2 := by
  unfold Leads ending
  cases act start <;> rfl

@[simp] theorem ending_snd : (act.ending start).2 = act.reach start := by
  unfold ending reach
  cases act start <;> rfl

/-! ## Putting attempts together -/

theorem leads_pure {a : α} : (pure a : Attempt ε s α).Leads start post ↔ post (.ok a) start :=
  Iff.rfl

theorem leads_bind {next : α → Attempt ε s β} {post : Except ε β → s → Prop} :
    (act >>= next).Leads start post ↔
      act.Leads start fun r middle =>
        match r with
        | .ok a => (next a).Leads middle post
        | .error e => post (.error e) middle := by
  simp only [Leads, bind, EStateM.bind]
  cases act start <;> rfl

/-- Whatever the first of two computations comes to. -/
theorem leads_bind_any {next : α → Attempt ε s β} {post : Except ε β → s → Prop}
    (failed : ∀ e final, post (.error e) final)
    (rest : ∀ a middle, (next a).Leads middle post) : (act >>= next).Leads start post := by
  rw [leads_bind]
  refine leads_any ?_
  rintro (e | a) middle
  · exact failed e middle
  · exact rest a middle

/-- What follows a success goes on from there. -/
theorem bind_of_ok {next : α → Attempt ε s β} {middle : s} {a : α} (h : act start = .ok a middle) :
    (act >>= next) start = next a middle := by
  simp only [bind, EStateM.bind, h]

/-- What follows a failure does not happen. -/
theorem bind_of_error {next : α → Attempt ε s β} {final : s} {e : ε}
    (h : act start = .error e final) : (act >>= next) start = .error e final := by
  simp only [bind, EStateM.bind, h]

theorem get_bind {next : s → Attempt ε s β} :
    ((get : Attempt ε s s) >>= next) start = next start start :=
  rfl

theorem leads_get_bind {next : s → Attempt ε s β} {post : Except ε β → s → Prop} :
    ((get : Attempt ε s s) >>= next).Leads start post ↔ (next start).Leads start post :=
  Iff.rfl

theorem leads_mapError {wrap : ε → ε'} {post : Except ε' α → s → Prop} :
    (act.mapError wrap).Leads start post ↔
      act.Leads start fun r final => post (r.mapError wrap) final := by
  simp only [Leads, mapError]
  cases act start <;> rfl

theorem leads_outcome {post : Except ε' (Except ε α) → s → Prop} :
    (act.outcome : Attempt ε' s (Except ε α)).Leads start post ↔
      act.Leads start fun r final => post (.ok r) final := by
  simp only [Leads, outcome]
  cases act start <;> rfl

theorem leads_ignored {post : Except ε' Unit → s → Prop} :
    (act.ignored : Attempt ε' s Unit).Leads start post ↔
      act.Leads start fun _ final => post (.ok ()) final := by
  simp only [Leads, ignored]
  cases act start <;> rfl

theorem leads_ofExcept {result : Except ε α} :
    (ofExcept result : Attempt ε s α).Leads start post ↔ post result start := by
  cases result <;> exact Iff.rfl

end Attempt

/-! ## In memory above a store -/

namespace Kept

open Attempt

variable {β γ σ ε α : Type} {kept : Kept β σ} {post : Except ε α → Kept β σ → Prop}

theorem leads_onStore {act : Attempt ε σ α} :
    (onStore act).Leads kept post ↔
      act.Leads kept.store fun r store => post r { kept with store } := by
  simp only [Leads, onStore]
  cases act kept.store <;> rfl

theorem leads_onPart {part : β → γ} {put : γ → β → β} {act : Attempt ε (Kept γ σ) α} :
    (onPart part put act).Leads kept post ↔
      act.Leads ⟨part kept.memory, kept.store⟩ fun r inner =>
        post r ⟨put inner.memory kept.memory, inner.store⟩ := by
  simp only [Leads, onPart]
  cases act ⟨part kept.memory, kept.store⟩ <;> rfl

/-- Whatever a computation on one part comes to, the rest of what is held stays as it is. -/
theorem leads_onPart_bind {part : β → γ} {put : γ → β → β} {act : Attempt ε (Kept γ σ) α}
    {δ : Type} {next : α → Attempt ε (Kept β σ) δ} {post : Except ε δ → Kept β σ → Prop}
    (failed : ∀ e inner store, post (.error e) ⟨put inner kept.memory, store⟩)
    (rest : ∀ a inner store, (next a).Leads ⟨put inner kept.memory, store⟩ post) :
    (onPart part put act >>= next).Leads kept post := by
  rw [leads_bind, leads_onPart]
  refine leads_any ?_
  rintro (e | a) final
  · exact failed e _ _
  · exact rest a _ _

theorem leads_held {post : Except ε β → Kept β σ → Prop} :
    (held : Attempt ε (Kept β σ) β).Leads kept post ↔ post (.ok kept.memory) kept :=
  Iff.rfl

end Kept

end PgpCard
