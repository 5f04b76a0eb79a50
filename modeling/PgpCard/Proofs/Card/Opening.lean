import PgpCard.Proofs.Card.Setup

/-!
# Opening a card

A store without the mark is set up from the beginning, and the mark is written last.  So a store
whose setup was cut off has no mark either, and the next opening sets it up again.

* `makeFactory_of_unmarked` : the setup of a store without the mark fills all cells, or leaves the
  store without the mark.
* `openOn_leads` : an opening is a reload or a setup, as the mark says.
* `openOn_of_unmarked`, `openOn_of_holds` : what comes of it.
-/

set_option autoImplicit false

namespace PgpCard.Card

open Attempt

/-- A store without the mark, whatever else it has. -/
def Unmarked (store : MemoryStore) : Prop := store.at? Cell.ready.place = none

/-- A setup has begun: every cell is as it was, or as on a new card. -/
def Begun (store store' : MemoryStore) : Prop :=
  ∀ cell : Cell, store'.at? cell.place = store.at? cell.place ∨
    store'.at? cell.place = some cell.fresh

theorem Begun.refl (store : MemoryStore) : Begun store store := fun _ => .inl rfl

theorem Begun.trans {store middle final : MemoryStore} (first : Begun store middle)
    (second : Begun middle final) : Begun store final := by
  intro cell
  rcases second cell with same | fresh
  · rw [same]
    exact first cell
  · exact .inr fresh

/-- Begun on a store without the mark, the setup fills all cells, or leaves the store without the
mark. -/
theorem makeFactory_of_unmarked (memory : Memory) (store : FlakyStore)
    (unmarked : Unmarked store.inner) :
    makeFactory.Leads ⟨memory, store⟩ fun r final =>
      match r with
      | .ok () => final.memory = memory.renewed ∧ Pristine final.store.inner
      | .error _ => Unmarked final.store.inner ∧ ¬ store.Reliable ∧
        Begun store.inner final.store.inner := by
  refine (makeFactory_leads_store memory store).mono ?_
  rintro (e | ⟨⟩) final ends
  · obtain ⟨done, rest, cut⟩ := ends
    refine ⟨?_, cut.refused, fun cell => ?_⟩
    · rw [Unmarked, cut.content, if_neg (Cell.ready_not_mem cut.order cut.unfinished)]
      exact unmarked
    · rw [cut.content]
      split
      · exact .inr rfl
      · exact .inl rfl
  · exact ends

/-! ## Opening -/

/-- An opening is a reload or a setup, as the mark says. -/
theorem openOn_leads {σ : Type} [Backend σ] {profile : Profile} {store : σ}
    {post : Except StoreError Memory → σ → Prop} :
    (openOn profile).Leads store post ↔
      (Backend.readByte readyKey).Leads store fun r middle =>
        match r with
        | .error e => post (.error e) middle
        | .ok mark =>
          (if mark = some 1 then reload else makeFactory).Leads ⟨{ profile }, middle⟩
            fun r final =>
              match r with
              | .ok () => post (.ok final.memory) final.store
              | .error e => post (.error e) final.store := by
  refine leads_bind.trans ?_
  unfold Leads
  split
  · rename_i mark middle _
    dsimp only
    cases (if mark = some 1 then reload else makeFactory) (⟨{ profile }, middle⟩ : Card σ) <;> rfl
  · exact Iff.rfl

/-- A store without the mark says so. -/
theorem Unmarked.readReady {store : MemoryStore} (h : Unmarked store) :
    Backend.readByte readyKey store = .ok none store := by
  have absent : store.scalars.find? readyKey = none := by
    simpa [Unmarked, MemoryStore.at?, Cell.place] using h
  rw [readByte_eq, MemoryStore.byte?, absent]

theorem openOn_of_unmarked (profile : Profile) {store : FlakyStore}
    (unmarked : Unmarked store.inner) :
    (openOn profile).Leads store fun r final =>
      match r with
      | .ok memory => memory = Memory.renewed { profile } ∧ Pristine final.inner
      | .error _ => Unmarked final.inner ∧ ¬ store.Reliable ∧ Begun store.inner final.inner := by
  rw [openOn_leads]
  refine (readByte_mirrors readyKey store).mono ?_
  rintro (e | mark) middle ⟨⟨reads, later, rfl⟩, sound, complete⟩
  · refine ⟨unmarked, fun reliable => ?_, .refl _⟩
    cases complete reliable none _ unmarked.readReady
  · cases unmarked.readReady.symm.trans (sound mark rfl)
    dsimp only
    rw [if_neg (by decide)]
    refine (makeFactory_of_unmarked { profile } { store with reads } unmarked).mono ?_
    rintro (e | ⟨⟩) final ends
    · obtain ⟨unmarked, unreliable, begun⟩ := ends
      exact ⟨unmarked, fun reliable => unreliable (reliable.later later), begun⟩
    · exact ends

theorem openOn_of_holds (profile : Profile) {store : FlakyStore} {kept : Persistent}
    (holds : Holds store.inner kept) :
    (openOn profile).Leads store fun r final =>
      final.inner = store.inner ∧ ∀ memory, r = .ok memory →
        ∃ kept', load store.inner = .ok kept' store.inner ∧
          memory = Memory.adopt kept' { profile } := by
  rw [openOn_leads]
  refine (readByte_mirrors readyKey store).mono ?_
  rintro (e | mark) middle ⟨⟨reads, later, rfl⟩, sound, -⟩
  · exact ⟨rfl, fun _ ended => by cases ended⟩
  · cases holds.readReady.symm.trans (sound mark rfl)
    dsimp only
    rw [if_pos rfl]
    refine (reload_leads _).mono ?_
    rintro (e | ⟨⟩) ⟨memory, final⟩ ⟨⟨reads, rfl⟩, ends⟩
    · exact ⟨rfl, fun _ ended => by cases ended⟩
    · obtain ⟨kept', loaded, rfl⟩ := ends
      refine ⟨rfl, fun _ ended => ?_⟩
      cases ended
      exact ⟨kept', loaded, rfl⟩

/-- An opening of a reliable store that is marked does not fail if the store has everything. -/
theorem openOn_of_reliable (profile : Profile) {store : FlakyStore} (reliable : store.Reliable)
    {kept held : Persistent} (holds : Holds store.inner held)
    (loaded : load store.inner = .ok kept store.inner) :
    ∃ reads, store.reads ≤ reads ∧
      openOn profile store = .ok (Memory.adopt kept { profile }) { store with reads } := by
  have opened : (openOn profile).Leads store fun r final =>
      r = .ok (Memory.adopt kept { profile }) ∧
        ∃ reads, store.reads ≤ reads ∧ final = { store with reads } := by
    rw [openOn_leads]
    refine (readByte_mirrors readyKey store).mono ?_
    rintro r middle ⟨⟨reads, later, rfl⟩, -, complete⟩
    cases complete reliable _ _ holds.readReady
    obtain ⟨reads', later', reloaded⟩ :=
      reload_of_reliable { profile } (reliable.later later) loaded
    dsimp only
    rw [if_pos rfl, leads_of_eq reloaded]
    exact ⟨rfl, reads', Nat.le_trans later later', rfl⟩
  obtain ⟨memory, final, ran, same, reads, later, rfl⟩ := opened.exists_ok fun _ _ h => by cases h.1
  cases same
  exact ⟨reads, later, ran⟩

end PgpCard.Card
