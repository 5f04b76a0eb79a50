import PgpCard.Proofs.Card.History
import PgpCard.Proofs.Card.Stale

/-!
# A card that is made new

ACTIVATE sets the store of a terminated card up again, with the mark of the store in place.  What
makes it safe to be cut off is the order of its writes: the cell that says that the card is
terminated comes after everything but the layout and the mark, and these two have the same content
before and after.

* `AsNew` : nothing tells the card from one that was just opened on an empty store;
* `ActivatesTo` : what an ACTIVATE of a terminated card comes to;
* `CutOff.pristine_or_terminated` : an ACTIVATE that was cut off has written everything, or has
  left the card terminated;
* `Recovers` : the card is reloaded, or opened again on its store;
* `factory_reset` : the reset is complete, it can be cut off at any write, and so can the setup of
  an empty store.
-/

set_option autoImplicit false

namespace PgpCard.Card

open Attempt

/-- Nothing tells the card from one that was just opened on an empty store. -/
def AsNew (card : Card FlakyStore) : Prop :=
  ∃ fresh, openOn card.memory.profile ({ inner := .empty } : FlakyStore) = .ok card.memory fresh ∧
    ∀ cell : Cell, card.store.inner.at? cell.place = fresh.inner.at? cell.place

/-- An empty store that refuses nothing can be set up. -/
theorem openOn_of_unmarked_reliable (profile : Profile) {store : FlakyStore}
    (unmarked : Unmarked store.inner) (reliable : store.Reliable) :
    ∃ final, openOn profile store = .ok (Memory.renewed { profile }) final ∧
      Pristine final.inner := by
  obtain ⟨memory, final, opened, rfl, pristine⟩ :=
    (openOn_of_unmarked profile unmarked).exists_ok fun _ _ failed => failed.2.1 reliable
  exact ⟨final, opened, pristine⟩

theorem asNew_of_pristine {card : Card FlakyStore} {profile : Profile}
    (renewed : card.memory = Memory.renewed { profile }) (pristine : Pristine card.store.inner) :
    AsNew card := by
  have reliable : ({ inner := .empty } : FlakyStore).Reliable :=
    ⟨fun _ _ => rfl, fun _ _ => rfl⟩
  have unmarked : Unmarked ({ inner := .empty } : FlakyStore).inner := rfl
  obtain ⟨fresh, opened, same⟩ := openOn_of_unmarked_reliable profile unmarked reliable
  refine ⟨fresh, ?_, fun cell => ?_⟩
  · rw [renewed]
    exact opened
  · rw [pristine, same]

/-! ## Activation -/

/-- What an ACTIVATE of a terminated card comes to, given its profile and its store: the response,
and the card afterwards. -/
inductive ActivatesTo (profile : Profile) (store : FlakyStore) :
    Response → Card FlakyStore → Prop
  | done {after : Card FlakyStore} (renewed : after.memory = Memory.renewed { profile })
    (pristine : Pristine after.store.inner) : ActivatesTo profile store .ok after
  | cutOff {e : CardError} {after : Card FlakyStore} {done rest : List Cell}
    (stale : after.memory.stale = true) (cut : CutOff store after.store done rest) :
    ActivatesTo profile store (.error e.status) after

theorem activate_leads_store (memory : Memory) (terminated : memory.terminated = true)
    (store : FlakyStore) :
    activate.Leads ⟨memory, store⟩ fun r final =>
      match r with
      | .ok data => data = [] ∧ final.memory = memory.renewed ∧ Pristine final.store.inner
      | .error e => e.isStorage = true ∧ ∃ done rest, CutOff store final.store done rest := by
  unfold activate
  rw [leads_bind, Kept.leads_held]
  dsimp only
  rw [if_neg (by simp [terminated])]
  refine leads_bind.mpr (leads_mapError.mpr ((makeFactory_leads_store memory store).mono ?_))
  rintro (e | ⟨⟩) final ends
  · exact ⟨rfl, ends⟩
  · exact ⟨rfl, ends⟩

/-- An idle chain, no failure and a profile: that is all that a new card has of its own. -/
theorem renewed_eq {memory : Memory} (fresh : memory.stale = false)
    (capacity : memory.chain.capacity = CommandChain.cardCapacity) :
    memory.renewed = Memory.renewed { profile := memory.profile } := by
  simp only [Memory.renewed, CommandChain.reset, fresh, capacity]
  rfl

theorem execute_activates (env : Environment) {whole : Command} (card : Card FlakyStore)
    (activates : whole.instruction = .activate) (terminated : card.memory.terminated = true)
    (fresh : card.memory.stale = false)
    (capacity : card.memory.chain.capacity = CommandChain.cardCapacity) :
    ActivatesTo card.memory.profile card.store (execute env whole card).1
      (execute env whole card).2 := by
  have dispatched : (dispatch env whole : Attempt CardError (Card FlakyStore) Bytes) =
      activate := by
    simp only [dispatch, activates]
  have run := activate_leads_store { card.memory with outgoing := .empty } terminated card.store
  unfold execute
  rw [if_neg (by simp [activates])]
  dsimp only
  rw [if_neg (by simp [activates]), dispatched]
  split
  · rename_i data final ended
    obtain ⟨rfl, renewed, pristine⟩ := run.of_ok ended
    rw [renewed_eq (by exact fresh) (by exact capacity)] at renewed
    have sent : (final.withOutgoing .empty).memory = final.memory := by
      rw [withOutgoing, renewed]
      rfl
    exact .done (sent.trans renewed) pristine
  · rename_i e final ended
    obtain ⟨kind, done, rest, cut⟩ := run.of_error ended
    rw [if_pos kind]
    exact .cutOff rfl cut

/-- A frame that completes an ACTIVATE on a terminated card. -/
theorem process_activates {card ready : Card FlakyStore} (sound : SoundOn False card)
    (found : ready? card = some ready) (terminated : ready.memory.terminated = true)
    (env : Environment) {frame : Bytes} {whole : Command}
    (completes : Completes ready.memory frame whole) (activates : whole.instruction = .activate) :
    ∃ response, (process env frame card).1 = response.toFrame ∧
      ActivatesTo ready.memory.profile ready.store response (process env frame card).2 := by
  have sound := sound_ready sound found
  obtain ⟨fresh, -⟩ := store_ready found
  rw [process_of_completes found completes]
  exact ⟨_, rfl, execute_activates env
    ⟨{ ready.memory with chain := ready.memory.chain.reset }, ready.store⟩
    activates terminated fresh sound.capacity⟩

namespace ActivatesTo

variable {profile : Profile} {store : FlakyStore} {response : Response} {after : Card FlakyStore}

/-- An activation that is answered with `9000` has made the card new. -/
theorem asNew (h : ActivatesTo profile store response after)
    (answered : response.toFrame = Response.ok.toFrame) : AsNew after := by
  cases h with
  | done renewed pristine => exact asNew_of_pristine renewed pristine
  | @cutOff e =>
    have success := congrArg Response.reportsSuccess answered
    rw [Response.reportsSuccess_toFrame, Response.isOkay_error,
      Response.reportsSuccess_toFrame] at success
    cases success

/-- Where nothing is refused, an activation is answered with `9000`. -/
theorem of_reliable (h : ActivatesTo profile store response after) (reliable : store.Reliable) :
    response = .ok := by
  cases h with
  | done => rfl
  | cutOff _ cut => exact absurd reliable cut.refused

end ActivatesTo

/-! ## Cutting an activation off -/

/-- Only the layout and the mark are written after the cell that says that a card is
terminated. -/
theorem mem_of_terminated_mem {done rest : List Cell} (order : Cell.setupOrder = done ++ rest)
    (written : Cell.terminated ∈ done) (cell : Cell) :
    cell ∈ done ∨ cell = .layout ∨ cell = .ready := by
  have taken : done = Cell.setupOrder.take done.length := by rw [order, List.take_left]
  have short : done.length ≤ 12 := by
    have total : done.length + rest.length = 12 := by rw [← List.length_append, ← order]; rfl
    omega
  have each : ∀ n ≤ 12, Cell.terminated ∈ Cell.setupOrder.take n → ∀ cell ∈ Cell.setupOrder,
      cell ∈ Cell.setupOrder.take n ∨ cell = .layout ∨ cell = .ready := by decide
  rw [taken] at written ⊢
  exact each _ short written cell cell.mem_setupOrder

/-- An activation that was cut off has written everything, or has left the card terminated. -/
theorem CutOff.pristine_or_terminated {store store' : FlakyStore} {kept kept' : Persistent}
    {done rest : List Cell} (cut : CutOff store store' done rest) (before : Holds store.inner kept)
    (terminated : kept.terminated = true) (after : Holds store'.inner kept') :
    Pristine store'.inner ∨ kept'.terminated = true := by
  by_cases written : Cell.terminated ∈ done
  · refine .inl fun cell => ?_
    rw [cut.content]
    split
    · rfl
    · rename_i unwritten
      rcases mem_of_terminated_mem cut.order written cell with member | rfl | rfl
      · exact absurd member unwritten
      · obtain ⟨content, found, denotes⟩ := before .layout
        cases content with
        | inl text => cases denotes
        | inr value => rw [found, denotes]; rfl
      · obtain ⟨content, found, denotes⟩ := before .ready
        cases content with
        | inl text => cases denotes
        | inr value => rw [found, denotes]; rfl
  · obtain ⟨content, found, denotes⟩ := before .terminated
    obtain ⟨content', found', denotes'⟩ := after .terminated
    rw [cut.content, if_neg written, found] at found'
    cases found'
    cases content with
    | inl text => cases denotes
    | inr value =>
      refine .inr ?_
      have same : Cell.flag kept'.terminated = Cell.flag true := by
        rw [← terminated, ← show value = Cell.flag kept.terminated from denotes,
          ← show value = Cell.flag kept'.terminated from denotes']
      cases mark : kept'.terminated with
      | true => rfl
      | false =>
        rw [mark] at same
        cases same

/-! ## Recovery -/

/-- The card goes on after a reload, or it is opened again on its store. -/
inductive Recovers (memory : Memory) (store : FlakyStore) : Card FlakyStore → Prop
  | reloads {memory' : Memory} {store' : FlakyStore}
    (reloaded : reload ⟨memory, store⟩ = .ok () ⟨memory', store'⟩) :
    Recovers memory store ⟨{ memory' with stale := false }, store'⟩
  | reopens {profile : Profile} {memory' : Memory} {store' : FlakyStore}
    (opened : openOn profile store = .ok memory' store') : Recovers memory store ⟨memory', store'⟩

/-- The card is terminated, and an ACTIVATE makes it new. -/
def Renewable (card : Card FlakyStore) : Prop :=
  card.memory.terminated = true ∧ ∀ (env : Environment) (frame : Bytes) (whole : Command),
    Completes card.memory frame whole → whole.instruction = .activate →
      (process env frame card).1 = Response.ok.toFrame ∧ AsNew (process env frame card).2

section Recovery

variable {memory : Memory} {store : FlakyStore} {kept : Persistent} {card : Card FlakyStore}

/-- A card that recovers starts a session with what its store has. -/
theorem Recovers.session (h : Recovers memory store card) (reliable : store.Reliable)
    (capacity : memory.chain.capacity = CommandChain.cardCapacity)
    (holds : Holds store.inner kept) (loaded : load store.inner = .ok kept store.inner) :
    ∃ profile, card.memory = Memory.adopt kept { profile } ∧ card.store.inner = store.inner ∧
      card.store.Reliable := by
  cases h with
  | reloads reloaded =>
    obtain ⟨reads, later, ran⟩ := reload_of_reliable memory reliable loaded
    cases ran.symm.trans reloaded
    have same : { memory.adopt kept with stale := false } =
        { Memory.adopt kept { profile := memory.profile } with stale := false } :=
      adopt_congr kept rfl capacity
    exact ⟨memory.profile, same, rfl, reliable.later later⟩
  | @reopens profile _ _ opened =>
    obtain ⟨reads, later, ran⟩ := openOn_of_reliable profile reliable holds loaded
    cases ran.symm.trans opened
    exact ⟨profile, rfl, rfl, reliable.later later⟩

/-- A new session on a store that is as it was set up is that of a new card. -/
theorem asNew_of_session {profile : Profile} (session : card.memory = Memory.adopt kept { profile })
    (pristine : Pristine card.store.inner)
    (loaded : load card.store.inner = .ok kept card.store.inner) : AsNew card := by
  have factory : load card.store.inner = .ok .factory card.store.inner :=
    load_of_holds pristine.holds KeySlots.coherent_factory
  cases loaded.symm.trans factory
  exact asNew_of_pristine session pristine

/-- A new session of a terminated card can be ended by an ACTIVATE. -/
theorem renewable_of_session {profile : Profile}
    (session : card.memory = Memory.adopt kept { profile }) (reliable : card.store.Reliable)
    (holds : Holds card.store.inner kept) (terminated : kept.terminated = true) :
    Renewable card := by
  have sound : SoundOn False card := by
    refine ⟨?_, kept, ⟨holds, nofun⟩, fun _ => ?_⟩
    · rw [session]
      rfl
    · rw [session]
      rfl
  have fresh : card.memory.stale = false := by rw [session]; rfl
  have present : card.memory.terminated = true := by rw [session]; exact terminated
  refine ⟨present, fun env frame whole completes activates => ?_⟩
  obtain ⟨response, answered, activated⟩ :=
    process_activates sound (ready?_of_fresh fresh) present env completes activates
  obtain rfl := activated.of_reliable reliable
  exact ⟨answered, activated.asNew rfl⟩

end Recovery

/-- The reset of a card is complete, and it can be cut off anywhere.

An ACTIVATE of a terminated card that is answered with `9000` leaves the card, and all that it ever
reads in its store, as they are on a card that was just opened on an empty store.

If the store refuses a write during the ACTIVATE, whichever one it is, the card can be reloaded and
be opened again once the store refuses nothing, as far as the outside makes no key that is not
accepted again; it is then new, or it is terminated as before and the next ACTIVATE makes it new.

If the opening of an empty store is cut off, a later opening gives a new card. -/
theorem factory_reset :
    (∀ (outside : Environment → Prop) (card ready : Card FlakyStore) (env : Environment)
      (frame : Bytes) (whole : Command),
      Reached outside (.on card) → ready? card = some ready → ready.memory.terminated = true →
      Completes ready.memory frame whole → whole.instruction = .activate →
        ((process env frame card).1 = Response.ok.toFrame → AsNew (process env frame card).2) ∧
        ((∀ env, outside env → env.SoundKeys) → outside env →
          ∀ store : FlakyStore, store.inner = (process env frame card).2.store.inner →
            store.Reliable →
            (∃ reloaded, reload ⟨(process env frame card).2.memory, store⟩ = .ok () reloaded) ∧
            (∀ profile, ∃ memory final, openOn profile store = .ok memory final) ∧
            ∀ recovered, Recovers (process env frame card).2.memory store recovered →
              AsNew recovered ∨ Renewable recovered)) ∧
    (∀ (profile : Profile) (readFails writeFails : Nat → Bool) (e : StoreError)
      (left : FlakyStore),
      openOn profile ({ inner := .empty, readFails, writeFails } : FlakyStore) = .error e left →
        ∀ (profile : Profile) (store : FlakyStore), store.inner = left.inner → store.Reliable →
          ∃ memory final, openOn profile store = .ok memory final ∧ AsNew ⟨memory, final⟩) := by
  refine ⟨fun outside card ready env frame whole reached found terminated completes activates =>
    ⟨fun answered => ?_, fun trust draws store same reliable => ?_⟩,
    fun profile readFails writeFails e left failed profile' store same reliable => ?_⟩
  · have sound : SoundOn False card := sound_of_reached nofun reached
    obtain ⟨response, frame_eq, activated⟩ :=
      process_activates sound found terminated env completes activates
    exact activated.asNew (frame_eq.symm.trans answered)
  · have sound : SoundOn False card := sound_of_reached nofun reached
    have after : SoundOn True (process env frame card).2 :=
      sound_of_reached (fun _ => trust) (.processes reached draws frame)
    obtain ⟨kept, durable, -⟩ := after.durable
    rw [← same] at durable
    have loaded : load store.inner = .ok kept store.inner :=
      load_of_holds durable.holds (durable.coherent trivial)
    obtain ⟨response, -, activated⟩ :=
      process_activates sound found terminated env completes activates
    have written : Pristine store.inner ∨ kept.terminated = true := by
      rw [same] at durable ⊢
      cases activated with
      | done _ pristine => exact .inl pristine
      | cutOff _ cut =>
        have before := (sound_ready sound found).fresh (store_ready found).1
        exact cut.pristine_or_terminated before.holds terminated durable.holds
    refine ⟨?_, fun profile => ?_, fun recovered recovers => ?_⟩
    · obtain ⟨reads, -, ran⟩ := reload_of_reliable (process env frame card).2.memory reliable loaded
      exact ⟨_, ran⟩
    · obtain ⟨reads, -, ran⟩ := openOn_of_reliable profile reliable durable.holds loaded
      exact ⟨_, _, ran⟩
    · obtain ⟨profile, session, inner, reliable⟩ :=
        recovers.session reliable after.capacity durable.holds loaded
      rw [← inner] at written loaded
      rcases written with pristine | terminated
      · exact .inl (asNew_of_session session pristine loaded)
      · exact .inr (renewable_of_session session reliable (by rw [inner]; exact durable.holds)
          terminated)
  · have unmarked : Unmarked left.inner :=
      ((openOn_of_unmarked profile (by exact rfl)).of_error failed).1
    rw [← same] at unmarked
    obtain ⟨final, opened, pristine⟩ := openOn_of_unmarked_reliable profile' unmarked reliable
    exact ⟨_, final, opened, asNew_of_pristine rfl pristine⟩

/-- Three wrong values for PW1 and for PW3, and TERMINATE. -/
def terminatingFrames : List (Environment × Bytes) :=
  List.replicate 3 (.ofSeed [] 0, [0x00, 0x20, 0x00, 0x81, 0x07] ++ List.replicate 7 0x30) ++
    List.replicate 3 (.ofSeed [] 0, [0x00, 0x20, 0x00, 0x83, 0x09] ++ List.replicate 9 0x30) ++
    [(.ofSeed [] 0, [0x00, 0xE6, 0x00, 0x00])]

/-- A terminated card; its store has taken nineteen writes. -/
def terminatedCard (writeFails : Nat → Bool) : Card FlakyStore :=
  (run terminatingFrames (newCard writeFails)).2

/-- TERMINATE. -/
def terminateFrame : Bytes := [0x00, 0xE6, 0x00, 0x00]

/-- ACTIVATE. -/
def activateFrame : Bytes := [0x00, 0x44, 0x00, 0x00]

/-- A card after an ACTIVATE whose sixth write was refused. -/
def halfNewCard : Card FlakyStore :=
  (process (.ofSeed [] 0) activateFrame (terminatedCard (· == 24))).2

theorem reached_terminatedCard {writeFails : Nat → Bool}
    (opened : openOn .default ({ inner := .empty, writeFails } : FlakyStore) =
      .ok (newCard writeFails).memory (newCard writeFails).store) :
    Reached Environment.SoundKeys (.on (terminatedCard writeFails)) := by
  refine reached_run (fun step member => ?_) (.opens .blank opened)
  simp only [terminatingFrames, List.mem_append, List.mem_replicate, List.mem_singleton] at member
  rcases member with (⟨-, rfl⟩ | ⟨-, rfl⟩) | rfl <;> exact Environment.soundKeys_ofRandom _ _

theorem completes_activateFrame {memory : Memory}
    (idle : memory.chain = .idle CommandChain.cardCapacity) :
    Completes memory activateFrame ⟨0x00, 0x44, 0x00, 0x00, [], none⟩ := by
  refine ⟨_, .idle CommandChain.cardCapacity, rfl, by decide, ?_⟩
  rw [idle]
  rfl

theorem factory_reset_cut_off :
    AsNew (process (.ofSeed [] 0) activateFrame (terminatedCard fun _ => false)).2 ∧
      halfNewCard.memory.stale = true ∧
      (∃ reloaded, reload (⟨halfNewCard.memory, { inner := halfNewCard.store.inner }⟩ :
        Card FlakyStore) = .ok () reloaded) ∧
      (∀ recovered, Recovers halfNewCard.memory { inner := halfNewCard.store.inner } recovered →
        AsNew recovered ∨ Renewable recovered) ∧
      ∃ memory final, openOn .default ({ inner := (newCard (· == 3)).store.inner } : FlakyStore) =
        .ok memory final ∧ AsNew ⟨memory, final⟩ := by
  have whole : (terminatedCard fun _ => false).memory.stale = false ∧
      (terminatedCard fun _ => false).memory.terminated = true ∧
      (terminatedCard fun _ => false).memory.chain = .idle CommandChain.cardCapacity ∧
      (process (.ofSeed [] 0) activateFrame (terminatedCard fun _ => false)).1 =
        Response.ok.toFrame := by decide +kernel
  have half : (terminatedCard (· == 24)).memory.stale = false ∧
      (terminatedCard (· == 24)).memory.terminated = true ∧
      (terminatedCard (· == 24)).memory.chain = .idle CommandChain.cardCapacity ∧
      halfNewCard.memory.stale = true := by decide +kernel
  have failed : openOn .default ({ inner := .empty, writeFails := (· == 3) } : FlakyStore) =
      .error FaultyStore.refusal (newCard (· == 3)).store := rfl
  have renewed := (factory_reset.1 _ (terminatedCard fun _ => false) _ (.ofSeed [] 0)
    activateFrame _ (reached_terminatedCard rfl) (ready?_of_fresh whole.1) whole.2.1
    (completes_activateFrame whole.2.2.1) rfl).1 whole.2.2.2
  have recovers := (factory_reset.1 _ (terminatedCard (· == 24)) _ (.ofSeed [] 0) activateFrame _
    (reached_terminatedCard rfl) (ready?_of_fresh half.1) half.2.1
    (completes_activateFrame half.2.2.1) rfl).2 (fun _ made => made)
    (Environment.soundKeys_ofRandom _ _) { inner := halfNewCard.store.inner } rfl
    ⟨fun _ _ => rfl, fun _ _ => rfl⟩
  have reopened := factory_reset.2 .default (fun _ => false) (· == 3) FaultyStore.refusal
    (newCard (· == 3)).store failed .default { inner := (newCard (· == 3)).store.inner } rfl
    ⟨fun _ _ => rfl, fun _ _ => rfl⟩
  exact ⟨renewed, half.2.2.2, recovers.1, recovers.2.2, reopened⟩

end PgpCard.Card
