import PgpCard.Proofs.Card.Giving
import PgpCard.Proofs.Card.Renewal

/-!
# What every step leaves of the values

A step carries a command out on a card that takes commands, or an ACTIVATE on a terminated card, or
it leaves the store alone.

* `SetUp`, `activate_logs` : an ACTIVATE of a terminated card writes the first cells of a setup, and
  is cut off before the others if it fails;
* `Step.quiet_or_works` : a step that carries nothing out writes nothing;
* `Step.Leaves` : what a step makes of the values: what it gives is there afterwards, and the others
  are as they were; a step that fails changes a value only if it was cut short.  `Step.leaves` says
  so of every step of a sound card.
-/

set_option autoImplicit false

namespace PgpCard.Card

open Attempt

/-! ## ACTIVATE -/

/-- A setup has come as far as some cells: they are written in order, and what follows is
refused. -/
inductive SetUp (succeeds : Bool) (entries : List JournalEntry) : Prop
  | upTo {done rest : List Cell} {refusals : List JournalEntry}
    (order : Cell.setupOrder = done ++ rest)
    (written : entries = done.map Cell.setup ++ refusals)
    (kind : ∀ entry ∈ refusals, entry.isRefusal = true)
    (cut : succeeds = false → EndsRefused refusals)

theorem makeFactory_logs (memory : Memory) :
    Logs makeFactory memory fun r _ entries => SetUp r.isOk entries := by
  refine Logs.mono (makeFactory_setsUp memory) ?_
  rintro (e | ⟨⟩) memory' entries ends
  · obtain ⟨done, rest, refused, order, -, kind, written⟩ := ends
    refine .upTo order written (fun entry member => ?_) fun _ => ⟨[], refused, rfl, kind⟩
    rwa [List.mem_singleton.mp member]
  · refine .upTo (List.append_nil _).symm ?_ (List.forall_mem_nil _) nofun
    rw [ends.2, List.append_nil]

theorem activate_logs (memory : Memory) (terminated : memory.terminated = true) :
    Logs activate memory fun r _ entries => SetUp r.isOk entries := by
  unfold activate
  refine Logs.held_bind ?_
  dsimp only
  rw [if_neg (by simp [terminated])]
  refine Logs.bind (Logs.mapError ((makeFactory_logs memory).mono ?_))
  rintro (e | ⟨⟩) memory' entries setUp
  · exact setUp
  · refine Logs.pure ?_
    rwa [List.append_nil]

section Renewed

variable {store store' : FlakyStore} {kept kept' : Persistent} {done rest : List Cell}
  {refusals : List JournalEntry}

/-- A cell that was written has what a new card keeps there, and another one what it had. -/
theorem agrees_of_setup (grows : Grows store (done.map Cell.setup ++ refusals) store')
    (kind : ∀ entry ∈ refusals, entry.isRefusal = true) (before : Holds store.inner kept)
    (after : Holds store'.inner kept') (cell : Cell) :
    if cell ∈ done then cell.Agrees .factory kept' else cell.Agrees kept kept' := by
  have content : store'.inner.at? cell.place =
      if cell ∈ done then some cell.fresh else store.inner.at? cell.place := by
    rw [grows.content, replay_append, Cell.replay_setup]
    exact replay_of_quiet (fun entry member =>
      JournalEntry.content?_of_isRefusal (kind entry member) _) _
  split
  · rename_i written
    obtain ⟨content', found, denotes⟩ := after cell
    rw [content, if_pos written] at found
    cases found
    exact Cell.agrees_of_denotes cell.denotes_fresh denotes
  · rename_i unwritten
    rw [if_neg unwritten] at content
    exact before.agrees after content

/-- What some cells of a setup make of the values. -/
structure Renewed (kept : Persistent) (done : List Cell) (kept' : Persistent) : Prop where
  first : ∀ object : DataObject, object.cell ∈ done →
    kept'.value? object = Persistent.factory.value? object
  unchanged : ∀ object : DataObject, object.cell ∉ done → kept'.value? object = kept.value? object
  /-- A card is terminated until all values are those of a new card. -/
  everything : kept.terminated = true → kept'.terminated = false →
    ∀ object : DataObject, object.cell ∈ done

theorem renewed_of_setup (order : Cell.setupOrder = done ++ rest)
    (agrees : ∀ cell : Cell,
      if cell ∈ done then cell.Agrees .factory kept' else cell.Agrees kept kept') :
    Renewed kept done kept' := by
  constructor
  case first =>
    intro object member
    have fresh := agrees object.cell
    rw [if_pos member] at fresh
    exact Persistent.value?_of_agrees fresh
  case unchanged =>
    intro object other
    have same := agrees object.cell
    rw [if_neg other] at same
    exact Persistent.value?_of_agrees same
  case everything =>
    intro ended live object
    have flagged : Cell.terminated ∈ done := by
      by_contra unwritten
      have same := agrees .terminated
      rw [if_neg unwritten] at same
      cases ended.symm.trans (Eq.trans same live)
    obtain ⟨not_layout, not_mark⟩ := object.cell_ne
    rcases mem_of_terminated_mem order flagged object.cell with member | layout | mark
    · exact member
    · exact absurd layout not_layout
    · exact absurd mark not_mark

end Renewed

/-! ## Steps -/

/-- A command that may write several cells one after another. -/
inductive WritesParts (memory : Memory) (whole : Command) : Prop
  | limits (instruction : whole.instruction = .setRetries)
  | signatureKey (makes : MakesKey whole .signature)
  | renewal (instruction : whole.instruction = .activate) (terminated : memory.terminated = true)

namespace Step

variable {step : Step FlakyStore} {ready ready' : Card FlakyStore} {whole whole' : Command}
  {kept kept' : Persistent} {object : DataObject} {value : Bytes}

/-- A frame makes at most one command whole. -/
theorem Carries.unique (carries : step.Carries ready whole) (carries' : step.Carries ready' whole') :
    ready' = ready ∧ whole' = whole := by
  obtain ⟨found, completes⟩ := carries
  obtain ⟨found', completes'⟩ := carries'
  cases found.symm.trans found'
  exact ⟨rfl, completes'.unique completes⟩

/-- A command gives an object one value only. -/
theorem Changes.unique {value' : Bytes} (changes : step.Changes whole object value)
    (changes' : step.Changes whole object value') : value' = value := by
  cases changes with
  | put instruction _ data =>
    cases changes' with
    | put _ _ data' => rw [data, data']
    | limit other | imported other => cases instruction.symm.trans other
    | generated makes => cases instruction.symm.trans makes.instruction
  | limit instruction _ _ _ off =>
    cases changes' with
    | limit _ _ _ _ off' => rw [off, off']
    | put other | imported other => cases instruction.symm.trans other
    | generated makes => cases instruction.symm.trans makes.instruction
  | generated makes offers described =>
    cases changes' with
    | put other | limit other | imported other => cases makes.instruction.symm.trans other
    | generated makes' offers' described' =>
      cases makes.template.symm.trans makes'.template
      cases offers.made.symm.trans offers'.made
      cases offers.split.symm.trans offers'.split
      exact described.unique described'
  | imported instruction read described =>
    cases changes' with
    | put other | limit other => cases instruction.symm.trans other
    | generated makes => cases instruction.symm.trans makes.instruction
    | imported _ read' described' =>
      cases read.symm.trans read'
      exact described.unique described'

/-- So does a step. -/
theorem Gives.unique {value' : Bytes} (gives : step.Gives object value)
    (gives' : step.Gives object value') : value' = value := by
  cases gives with
  | changes carries active changes =>
    cases gives' with
    | changes carries' _ changes' =>
      obtain ⟨-, rfl⟩ := carries.unique carries'
      exact changes.unique changes'
    | renews carries' _ terminated =>
      obtain ⟨rfl, -⟩ := carries.unique carries'
      cases active.symm.trans terminated
  | renews carries _ terminated fresh =>
    cases gives' with
    | changes carries' active =>
      obtain ⟨rfl, -⟩ := carries.unique carries'
      cases active.symm.trans terminated
    | renews _ _ _ fresh' => exact Option.some.inj (fresh'.symm.trans fresh)

/-- A command that may write is carried out. -/
structure Works (step : Step FlakyStore) (ready : Card FlakyStore) (whole : Command) : Prop where
  carries : step.Carries ready whole
  other : whole.instruction ≠ .getResponse
  live : ready.memory.terminated = false ∨ whole.instruction = .activate

/-- A command that is not carried out leaves the store alone. -/
theorem content_of_idle (carries : step.Carries ready whole) (idle : ¬ step.Works ready whole)
    (place : Place) : step.after.store.inner.at? place = step.card.store.inner.at? place := by
  obtain ⟨-, reads, same⟩ := store_ready carries.1
  have inner : ready.store.inner = step.card.store.inner := by rw [same]
  have untouched : (execute step.env whole
      ⟨{ ready.memory with chain := ready.memory.chain.reset }, ready.store⟩).2.store =
        ready.store := by
    unfold execute
    by_cases more : whole.instruction = .getResponse
    · rw [if_pos more]
      dsimp only
      split
      · rfl
      · rfl
    · rw [if_neg more]
      have refused : ready.memory.terminated = true ∧ whole.instruction ≠ .activate := by
        rw [← Bool.not_eq_false, ← not_or]
        exact fun live => idle ⟨carries, more, live⟩
      dsimp only [withOutgoing]
      rw [if_pos refused]
  have left : step.after.store = ready.store := by
    rw [after, process_of_completes carries.1 carries.2]
    exact untouched
  rw [left, inner]

/-- A step carries out a command that may write, or leaves the store alone. -/
theorem quiet_or_works (step : Step FlakyStore) :
    (∀ place, step.after.store.inner.at? place = step.card.store.inner.at? place) ∨
      ∃ ready whole, step.Works ready whole := by
  have logs : ∀ cmd memory, Logs (dispatch step.env cmd) memory fun _ _ _ => True := by
    intro cmd memory
    exact (dispatch_trails step.env cmd memory).mono fun _ _ _ _ => trivial
  obtain ⟨entries, grows, none | ⟨ready, whole, found, completes, -⟩⟩ :=
    process_logs logs (fun _ _ => trivial) step.frame step.card
  · subst none
    exact .inl grows.content
  · by_cases works : step.Works ready whole
    · exact .inr ⟨ready, whole, works⟩
    · exact .inl (content_of_idle ⟨found, completes⟩ works)

/-- What gives a value is a command that may write. -/
theorem Gives.works (gives : step.Gives object value) : ∃ ready whole, step.Works ready whole := by
  cases gives with
  | @changes ready whole carries active changes =>
    refine ⟨ready, whole, carries, fun more => ?_, .inl active⟩
    cases changes with
    | put instruction | limit instruction | imported instruction => cases instruction.symm.trans more
    | generated makes => cases makes.instruction.symm.trans more
  | @renews ready whole carries activates =>
    refine ⟨ready, whole, carries, fun more => ?_, .inr activates⟩
    cases activates.symm.trans more

/-- The card on which a command is answered is terminated if the store says so. -/
theorem terminated_ready (sound : SoundOn False step.card) (found : ready? step.card = some ready)
    (before : Holds step.card.store.inner kept) : ready.memory.terminated = kept.terminated := by
  obtain ⟨holds, inner⟩ := holds_ready sound found
  have same : Cell.terminated.Agrees ready.memory.persistent kept :=
    holds.agrees before (by rw [inner])
  exact same

/-- What a step makes of the values. -/
structure Leaves (step : Step FlakyStore) (kept kept' : Persistent) : Prop where
  /-- A value is as it was, or it was given. -/
  keeps : ∀ object, kept'.value? object = kept.value? object ∨
    ∃ value, step.Gives object value ∧ kept'.value? object = some value
  /-- On a card that takes commands, what was given is there. -/
  given : kept'.terminated = false → ∀ object value, step.Gives object value →
    object.isReadBack = true → kept'.value? object = some value
  /-- A terminated card takes commands again when everything was given its first value. -/
  revived : kept'.terminated = false → kept.terminated = true → ∀ object,
    object.isReadBack = true → ∃ value, step.Gives object value
  /-- A step that fails has changed a value only where it was cut short. -/
  failed : step.succeeds = false → ∀ object, kept'.value? object ≠ kept.value? object →
    step.CutShort ∧ ∃ ready whole, step.Carries ready whole ∧ WritesParts ready.memory whole

/-- A setup that is refused a cell after some others is cut short. -/
theorem cutShort_of_setup {done : List Cell} {refusals : List JournalEntry}
    (written : step.trail = done.map Cell.setup ++ refusals) (some : done ≠ [])
    (refused : EndsRefused refusals) : step.CutShort := by
  obtain ⟨cell, others, rfl⟩ := List.exists_cons_of_ne_nil some
  refine ⟨cell.setup, others.map Cell.setup ++ refusals, written, ⟨cell.place, ?_⟩, ?_⟩
  · rw [Cell.content?_setup, if_pos rfl]
    rfl
  · exact refused.append

/-- A step that writes nothing keeps everything. -/
theorem leaves_of_quiet (idle : ∀ ready whole, ¬ step.Works ready whole)
    (before : Holds step.card.store.inner kept) (after : Holds step.after.store.inner kept')
    (quiet : ∀ place, step.after.store.inner.at? place = step.card.store.inner.at? place) :
    step.Leaves kept kept' := by
  have same : ∀ object, kept'.value? object = kept.value? object := fun object =>
    before.value?_eq after (quiet _)
  have terminated : Cell.terminated.Agrees kept kept' := before.agrees after (quiet _)
  constructor
  case keeps => exact fun object => .inl (same object)
  case given =>
    intro _ object value gives _
    obtain ⟨ready, whole, works⟩ := gives.works
    exact absurd works (idle ready whole)
  case revived =>
    intro live ended
    cases ended.symm.trans (Eq.trans terminated live)
  case failed => exact fun _ object differs => absurd (same object) differs

section Works

variable (sound : SoundOn False step.card) (works : step.Works ready whole)
  (before : Holds step.card.store.inner kept) (after : Holds step.after.store.inner kept')

include sound works before after

/-- A command that is carried out gives what it changes. -/
theorem leaves_of_active (active : ready.memory.terminated = false) : step.Leaves kept kept' := by
  have updates := updates sound works.carries active before after works.other
  have known : ∀ {object value}, step.Gives object value → step.Changes whole object value := by
    intro object value gives
    cases gives with
    | changes carries' _ changes =>
      obtain ⟨-, rfl⟩ := works.carries.unique carries'
      exact changes
    | renews carries' _ terminated =>
      obtain ⟨rfl, -⟩ := works.carries.unique carries'
      cases active.symm.trans terminated
  constructor
  case keeps =>
    intro object
    by_cases changed : ∃ value, step.Changes whole object value
    · obtain ⟨value, changes⟩ := changed
      cases readBack : object.isReadBack with
      | true => exact .inr ⟨value, .changes works.carries active changes,
          updates.changed object value changes readBack⟩
      | false =>
        have absent : ∀ kept : Persistent, kept.value? object = none := fun _ =>
          Persistent.value?_of_unread readBack
        exact .inl ((absent kept').trans (absent kept).symm)
    · exact .inl (updates.others object (not_exists.mp changed))
  case given =>
    exact fun _ object value gives readBack => updates.changed object value (known gives) readBack
  case revived =>
    intro _ terminated
    rw [← terminated_ready sound works.carries.1 before, active] at terminated
    cases terminated
  case failed =>
    intro failed object differs
    obtain ⟨value, changes⟩ := updates.exists_of_ne differs
    cases changes with
    | put _ _ _ done | imported _ _ _ done => cases failed.symm.trans done
    | limit instruction _ _ _ _ done =>
      rcases done with done | ⟨cut, -⟩
      · cases failed.symm.trans done
      · exact ⟨cut, ready, whole, works.carries, .limits instruction⟩
    | generated makes _ _ done =>
      rcases done with done | ⟨cut, rfl⟩
      · cases failed.symm.trans done
      · exact ⟨cut, ready, whole, works.carries, .signatureKey makes⟩

/-- An ACTIVATE of a terminated card leaves it terminated, or has given everything its first
value. -/
theorem leaves_of_terminated (terminated : ready.memory.terminated = true) :
    step.Leaves kept kept' := by
  have activates : whole.instruction = .activate := works.live.resolve_left (by simp [terminated])
  have logs : Logs (dispatch step.env whole) (begun ready).memory fun r _ entries =>
      SetUp r.isOk entries := by
    unfold dispatch
    rw [activates]
    exact activate_logs (begun ready).memory terminated
  obtain ⟨r, result, grows, ⟨order, written, kind, cut⟩⟩ :=
    logged works.carries works.other works.live logs
  rename_i done rest refusals
  rw [written] at grows
  have renewed := renewed_of_setup order (agrees_of_setup grows kind before after)
  have ended : kept.terminated = true := by
    rw [← terminated_ready sound works.carries.1 before, terminated]
  have given : ∀ {object value}, Persistent.factory.value? object = some value →
      step.Gives object value := fun fresh => .renews works.carries activates terminated fresh
  constructor
  case keeps =>
    intro object
    by_cases member : object.cell ∈ done
    · rw [renewed.first object member]
      cases fresh : Persistent.factory.value? object with
      | some value => exact .inr ⟨value, given fresh, rfl⟩
      | none =>
        have unread : object.isReadBack = false := by rw [DataObject.isReadBack, fresh]; rfl
        exact .inl (Persistent.value?_of_unread unread).symm
    · exact .inl (renewed.unchanged object member)
  case given =>
    intro live object value gives _
    rw [renewed.first object (renewed.everything ended live object)]
    cases gives with
    | changes carries' active =>
      obtain ⟨rfl, -⟩ := works.carries.unique carries'
      cases active.symm.trans terminated
    | renews _ _ _ fresh => exact fresh
  case revived =>
    intro _ _ object readBack
    obtain ⟨value, fresh⟩ := Option.isSome_iff_exists.mp readBack
    exact ⟨value, given fresh⟩
  case failed =>
    intro failed object differs
    refine ⟨?_, ready, whole, works.carries, .renewal activates terminated⟩
    have member : object.cell ∈ done := by
      by_contra other
      exact differs (renewed.unchanged object other)
    exact cutShort_of_setup written (List.ne_nil_of_mem member) (cut (result.symm.trans failed))

theorem leaves_of_works : step.Leaves kept kept' := by
  cases terminated : ready.memory.terminated with
  | false => exact leaves_of_active sound works before after terminated
  | true => exact leaves_of_terminated sound works before after terminated

end Works

/-- Every step of a sound card keeps the values that it does not give. -/
theorem leaves (sound : SoundOn False step.card) (before : Holds step.card.store.inner kept)
    (after : Holds step.after.store.inner kept') : step.Leaves kept kept' := by
  by_cases works : ∃ ready whole, step.Works ready whole
  · obtain ⟨ready, whole, works⟩ := works
    exact leaves_of_works sound works before after
  · have quiet := (quiet_or_works step).resolve_right works
    refine leaves_of_quiet (fun ready whole working => ?_) before after quiet
    exact works ⟨ready, whole, working⟩

end Step

end PgpCard.Card
