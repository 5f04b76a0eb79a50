import PgpCard.Proofs.Attempt

/-!
# Two computations side by side

`Accords states values act other` says that `act` and `other`, begun in states that are related,
end in states that are related, both with the same failure or both with values that are related.
It is to two runs what `Leads` is to one.

* `Accords.bind`, `Accords.mapError`, … : one lemma for each way in which attempts are put
  together.
* `Kept.Related` relates what is held in memory and the store below; `Accords.onStore`,
  `Accords.onPart`, `Accords.held` and `Accords.adjust` are the lemmas about it.
* `Steady states act` : the computation accords with itself, with the same value on both sides.
-/

set_option autoImplicit false

namespace PgpCard

namespace Attempt

variable {ε ε' s s' α α' β β' : Type}

/-- Two computations have ended alike: with the same failure or with values that are related, and in
states that are related. -/
inductive Matches (states : s → s' → Prop) (values : α → α' → Prop) :
    EStateM.Result ε s α → EStateM.Result ε s' α' → Prop
  | ok {a : α} {a' : α'} {final : s} {final' : s'} (value : values a a')
    (state : states final final') : Matches states values (.ok a final) (.ok a' final')
  | error (e : ε) {final : s} {final' : s'} (state : states final final') :
    Matches states values (.error e final) (.error e final')

/-- Begun in states that are related, two computations end alike. -/
def Accords (states : s → s' → Prop) (values : α → α' → Prop) (act : Attempt ε s α)
    (other : Attempt ε s' α') : Prop :=
  ∀ start start', states start start' → Matches states values (act start) (other start')

namespace Accords

variable {states : s → s' → Prop} {values : α → α' → Prop} {results : β → β' → Prop}
  {act : Attempt ε s α} {other : Attempt ε s' α'}

theorem pure {a : α} {a' : α'} (h : values a a') :
    Accords states values (Pure.pure a : Attempt ε s α) (Pure.pure a') :=
  fun _ _ related => .ok h related

theorem throw (e : ε) :
    Accords states values (MonadExcept.throw e : Attempt ε s α) (MonadExcept.throw e) :=
  fun _ _ related => .error e related

/-- What would follow a failure does not matter. -/
theorem throw_bind {e : ε} {next : α → Attempt ε s β} {next' : α' → Attempt ε s' β'} :
    Accords states results (MonadExcept.throw e >>= next) (MonadExcept.throw e >>= next') :=
  fun _ _ related => .error e related

theorem bind {next : α → Attempt ε s β} {next' : α' → Attempt ε s' β'}
    (first : Accords states values act other)
    (rest : ∀ a a', values a a' → Accords states results (next a) (next' a')) :
    Accords states results (act >>= next) (other >>= next') := by
  intro start start' related
  have ends := first start start' related
  simp only [Bind.bind, EStateM.bind]
  generalize act start = result, other start' = result' at ends
  cases ends with
  | ok value state => exact rest _ _ value _ _ state
  | error e state => exact .error e state

theorem mapError {wrap : ε → ε'} (h : Accords states values act other) :
    Accords states values (act.mapError wrap) (other.mapError wrap) := by
  intro start start' related
  have ends := h start start' related
  simp only [Attempt.mapError]
  generalize act start = result, other start' = result' at ends
  cases ends with
  | ok value state => exact .ok value state
  | error e state => exact .error (wrap e) state

end Accords

end Attempt

/-! ## In memory above a store -/

namespace Kept

variable {β β' σ σ' : Type}

/-- What is held in memory is related, and so are the stores below. -/
structure Related (memories : β → β' → Prop) (stores : σ → σ' → Prop) (kept : Kept β σ)
    (kept' : Kept β' σ') : Prop where
  memory : memories kept.memory kept'.memory
  store : stores kept.store kept'.store

end Kept

namespace Attempt

open Kept (Related)

variable {ε α α' β β' γ γ' σ σ' : Type} {memories : β → β' → Prop} {parts : γ → γ' → Prop}
  {stores : σ → σ' → Prop} {values : α → α' → Prop}

namespace Accords

theorem onStore {act : Attempt ε σ α} {other : Attempt ε σ' α'}
    (h : Accords stores values act other) :
    Accords (Related memories stores) values (Kept.onStore act) (Kept.onStore other) := by
  rintro ⟨memory, store⟩ ⟨memory', store'⟩ ⟨held, below⟩
  have ends := h store store' below
  simp only [Kept.onStore]
  generalize act store = result, other store' = result' at ends
  cases ends with
  | ok value state => exact .ok value ⟨held, state⟩
  | error e state => exact .error e ⟨held, state⟩

theorem onPart {part : β → γ} {part' : β' → γ'} {put : γ → β → β} {put' : γ' → β' → β'}
    {act : Attempt ε (Kept γ σ) α} {other : Attempt ε (Kept γ' σ') α'}
    (h : Accords (Related parts stores) values act other)
    (takes : ∀ memory memory', memories memory memory' → parts (part memory) (part' memory'))
    (puts : ∀ memory memory' inner inner', memories memory memory' → parts inner inner' →
      memories (put inner memory) (put' inner' memory')) :
    Accords (Related memories stores) values (Kept.onPart part put act)
      (Kept.onPart part' put' other) := by
  rintro ⟨memory, store⟩ ⟨memory', store'⟩ ⟨held, below⟩
  have ends := h ⟨part memory, store⟩ ⟨part' memory', store'⟩ ⟨takes _ _ held, below⟩
  simp only [Kept.onPart]
  generalize act ⟨part memory, store⟩ = result, other ⟨part' memory', store'⟩ = result' at ends
  cases ends with
  | ok value state => exact .ok value ⟨puts _ _ _ _ held state.memory, state.store⟩
  | error e state => exact .error e ⟨puts _ _ _ _ held state.memory, state.store⟩

theorem held :
    Accords (Related memories stores) memories
      (Kept.held : Attempt ε (Kept β σ) β) Kept.held :=
  fun _ _ related => .ok related.memory related

theorem adjust {change : β → β} {change' : β' → β'}
    (h : ∀ memory memory', memories memory memory' → memories (change memory) (change' memory')) :
    Accords (Related memories stores) Eq (Kept.adjust change : Attempt ε (Kept β σ) Unit)
      (Kept.adjust change') :=
  fun _ _ related => .ok rfl ⟨h _ _ related.memory, related.store⟩

end Accords

/-! ## One computation on both sides -/

/-- Begun in states that are related, the computation ends with the same value or the same failure,
and in states that are related. -/
def Steady {s : Type} (states : s → s → Prop) (act : Attempt ε s α) : Prop :=
  Accords states Eq act act

namespace Steady

variable {ε' s : Type} {states : s → s → Prop} {act : Attempt ε s α}

theorem pure {a : α} : Steady states (Pure.pure a : Attempt ε s α) := Accords.pure rfl

theorem throw {e : ε} : Steady states (MonadExcept.throw e : Attempt ε s α) := Accords.throw e

theorem bind {next : α → Attempt ε s β} (first : Steady states act)
    (rest : ∀ a, Steady states (next a)) : Steady states (act >>= next) := by
  refine Accords.bind first ?_
  rintro a _ rfl
  exact rest a

theorem throw_bind {e : ε} {next : α → Attempt ε s β} :
    Steady states (MonadExcept.throw e >>= next) :=
  Accords.throw_bind

theorem mapError {wrap : ε → ε'} (h : Steady states act) : Steady states (act.mapError wrap) :=
  Accords.mapError h

theorem ofExcept {result : Except ε α} :
    Steady states (Attempt.ofExcept result : Attempt ε s α) := by
  cases result with
  | ok a => exact Accords.pure rfl
  | error e => exact Accords.throw e

theorem outcome (h : Steady states act) :
    Steady states (act.outcome : Attempt ε' s (Except ε α)) := by
  intro start start' related
  have ends := h start start' related
  simp only [Attempt.outcome]
  generalize act start = result, act start' = result' at ends
  cases ends with
  | ok value state => exact .ok (congrArg Except.ok value) state
  | error e state => exact .ok rfl state

section Kept

variable {stores : σ → σ → Prop} {memories : β → β → Prop}

theorem onStore {act : Attempt ε σ α} (h : Steady stores act) :
    Steady (Related memories stores) (Kept.onStore act) :=
  Accords.onStore h

/-- Where the same is held on both sides, it is what a computation finds. -/
theorem held : Steady (Related Eq stores) (Kept.held : Attempt ε (Kept β σ) β) :=
  Accords.held

theorem adjust {change : β → β} :
    Steady (Related Eq stores) (Kept.adjust change : Attempt ε (Kept β σ) Unit) :=
  Accords.adjust fun _ _ same => congrArg change same

theorem note [Backend σ] {step : Audit}
    (h : ∀ store store', stores store store' →
      stores (Backend.note step store) (Backend.note step store')) :
    Steady (Related memories stores) (Kept.note step : Attempt ε (Kept β σ) Unit) :=
  fun _ _ related => .ok rfl ⟨related.memory, h _ _ related.store⟩

end Kept

end Steady

end Attempt

end PgpCard
