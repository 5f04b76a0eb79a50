import PgpCard.Proofs.Apdu.Registers

/-!
# What a chain makes of any frames

A chain takes frames one after another and may be reset in between, in any order.  The history falls
into episodes: some segments that are awaited, and a call that ends them.

* `Next` : what can become of a call on a chain that has gathered some segments, and the segments
  that it has gathered afterwards;
* `Gathered` : the invariant; `Gathered.next` is its step and `Gathered.run` carries it along;
* `Episode` : segments and what ends them.  `Episode.delivered_eq` says that a command which is
  completed has every byte of its episode once and in order, and that others have none;
* `Reassembles`, `Registered` : what is known of a chain that has gathered some segments, and of its
  registers, which `ChainRegisters.run_ofChain` carries along;
* `reassembly_exact` : what holds after any calls on a new chain.
-/

set_option autoImplicit false

namespace PgpCard

/-- Two commands have the same INS, P1 and P2. -/
structure Command.SameKey (cmd other : Command) : Prop where
  ins : cmd.ins = other.ins
  p1 : cmd.p1 = other.p1
  p2 : cmd.p2 = other.p2

namespace CommandChain

/-- What is done with a chain. -/
inductive Call
  | accept (cmd : Command)
  | reset

/-- What has been done with a chain, with what became of it. -/
inductive Event
  | accepted (cmd : Command) (step : ChainStep)
  | reset
  deriving DecidableEq

namespace Event

/-- A segment that is kept. -/
def awaited (cmd : Command) : Event := .accepted cmd .awaiting

/-- A command is completed. -/
def completes : Event → Bool
  | accepted _ (.complete _) => true
  | _ => false

/-- The bytes that the frame brings. -/
def brought : Event → Bytes
  | accepted cmd _ => cmd.data
  | reset => []

/-- The bytes of the command that is completed. -/
def delivered : Event → Bytes
  | accepted _ (.complete whole) => whole.data
  | _ => []

end Event

/-- The chain after a call, and what became of it. -/
def call (chain : CommandChain) : Call → Event × CommandChain
  | .accept cmd => (.accepted cmd (chain.accept cmd).1, (chain.accept cmd).2)
  | .reset => (.reset, chain.reset)

/-- Makes some calls one after another. -/
def run : List Call → CommandChain → List Event × CommandChain
  | [], chain => ([], chain)
  | next :: rest, chain =>
    let (events, final) := run rest (chain.call next).2
    ((chain.call next).1 :: events, final)

end CommandChain

namespace ChainRegisters

open CommandChain

/-- The registers after a call, and what became of it. -/
def call (registers : ChainRegisters) : Call → Event × ChainRegisters
  | .accept cmd => (.accepted cmd (registers.accept cmd).1, (registers.accept cmd).2)
  | .reset => (.reset, registers.reset)

/-- Makes some calls one after another. -/
def run : List Call → ChainRegisters → List Event × ChainRegisters
  | [], registers => ([], registers)
  | next :: rest, registers =>
    let (events, final) := run rest (registers.call next).2
    ((registers.call next).1 :: events, final)

theorem call_ofChain (chain : CommandChain) (call : Call) :
    (ofChain chain).call call = Prod.map id ofChain (chain.call call) := by
  cases call with
  | accept cmd =>
    rw [ChainRegisters.call, accept_ofChain]
    rfl
  | reset => exact congrArg (Prod.mk _) (reset_ofChain chain)

/-- Whatever is called, the registers do what the chain does. -/
theorem run_ofChain (chain : CommandChain) (calls : List Call) :
    run calls (ofChain chain) = Prod.map id ofChain (CommandChain.run calls chain) := by
  induction calls generalizing chain with
  | nil => rfl
  | cons next rest ih =>
    simp only [run, call_ofChain, Prod.map, id, ih, CommandChain.run]

end ChainRegisters

namespace CommandChain

/-- The bytes of some frames in order. -/
def joined (frames : List Command) : Bytes := frames.flatMap (·.data)

variable {capacity : Nat} {frames : List Command} {chain : CommandChain}

/-! ## One call -/

/-- What can become of a call on a chain that has gathered some segments, and what it has gathered
afterwards. -/
inductive Next (capacity : Nat) (frames : List Command) : Event → List Command → Prop
  | awaits {cmd : Command} (chained : cmd.isChained = true)
    (alike : ∀ frame ∈ frames, frame.SameKey cmd)
    (fits : (joined frames ++ cmd.data).length ≤ capacity) :
    Next capacity frames (.accepted cmd .awaiting) (frames ++ [cmd])
  | passes {cmd : Command} (unchained : cmd.isChained = false) (idle : frames = []) :
    Next capacity frames (.accepted cmd (.complete cmd)) []
  | closes {cmd : Command} (unchained : cmd.isChained = false) (active : frames ≠ [])
    (alike : ∀ frame ∈ frames, frame.SameKey cmd)
    (fits : (joined frames ++ cmd.data).length ≤ capacity) :
    Next capacity frames (.accepted cmd
      (.complete { cmd with cla := cmd.cla &&& 0xEF, data := joined frames ++ cmd.data })) []
  | interrupts {cmd : Command} (chained : cmd.isChained = true)
    (differs : ¬ ∀ frame ∈ frames, frame.SameKey cmd) :
    Next capacity frames (.accepted cmd (.failed .conditionsNotSatisfied)) []
  | misses {cmd : Command} (unchained : cmd.isChained = false)
    (differs : ¬ ∀ frame ∈ frames, frame.SameKey cmd) :
    Next capacity frames (.accepted cmd (.failed (notClosed cmd))) []
  | overflows {cmd : Command} (kept : cmd.isChained = true ∨ frames ≠ [])
    (alike : ∀ frame ∈ frames, frame.SameKey cmd)
    (excess : capacity < (joined frames ++ cmd.data).length) :
    Next capacity frames (.accepted cmd (.failed .wrongData)) []
  | resets : Next capacity frames .reset []

/-- A chain has gathered some segments: their bytes are kept, and they all have the key that is
kept. -/
inductive Gathered (capacity : Nat) : List Command → CommandChain → Prop
  | fresh : Gathered capacity [] (idle capacity)
  | active {frames : List Command} {segments : Segments} (nonempty : frames ≠ [])
    (chained : ∀ frame ∈ frames, frame.isChained = true)
    (belong : ∀ frame ∈ frames, segments.belongs frame = true)
    (data : segments.data = joined frames) (fits : segments.data.length ≤ capacity) :
    Gathered capacity frames { capacity, pending := some segments }

theorem joined_append (front back : List Command) :
    joined (front ++ back) = joined front ++ joined back := List.flatMap_append

theorem joined_singleton (cmd : Command) : joined [cmd] = cmd.data := List.append_nil _

section Call

variable {segments : Segments} {cmd : Command}

theorem belongs_iff_key : segments.belongs cmd = true ↔
    segments.ins = cmd.ins ∧ segments.p1 = cmd.p1 ∧ segments.p2 = cmd.p2 := by
  simp [Segments.belongs, and_assoc]

/-- A command belongs to a chain if it has the key of each segment. -/
theorem belongs_iff (nonempty : frames ≠ [])
    (belong : ∀ frame ∈ frames, segments.belongs frame = true) :
    segments.belongs cmd = true ↔ ∀ frame ∈ frames, frame.SameKey cmd := by
  simp only [belongs_iff_key] at belong ⊢
  constructor
  · rintro ⟨ins, p1, p2⟩ frame member
    obtain ⟨ins', p1', p2'⟩ := belong frame member
    exact ⟨ins'.symm.trans ins, p1'.symm.trans p1, p2'.symm.trans p2⟩
  · intro alike
    obtain ⟨frame, member⟩ := List.exists_mem_of_ne_nil frames nonempty
    obtain ⟨ins, p1, p2⟩ := belong frame member
    obtain ⟨ins', p1', p2'⟩ := alike frame member
    exact ⟨ins.trans ins', p1.trans p1', p2.trans p2'⟩

/-- A segment with the right key is kept, or there is no room for it. -/
theorem next_keep (chained : ∀ frame ∈ frames ++ [cmd], frame.isChained = true)
    (alike : ∀ frame ∈ frames, frame.SameKey cmd)
    (belong : ∀ frame ∈ frames ++ [cmd], segments.belongs frame = true)
    (data : segments.data = joined frames) (pending : Option Segments) :
    ∃ frames', Next capacity frames
        (.accepted cmd (keep { capacity, pending } segments cmd.data).1) frames' ∧
      Gathered capacity frames' (keep { capacity, pending } segments cmd.data).2 := by
  have last := chained cmd List.mem_concat_self
  unfold keep
  rw [data, ← List.length_append]
  split
  · rename_i excess
    exact ⟨[], .overflows (.inl last) alike excess, .fresh⟩
  · rename_i fits
    have fits := Nat.not_lt.mp fits
    refine ⟨frames ++ [cmd], .awaits last alike fits, .active (by simp) chained belong ?_ fits⟩
    rw [joined_append, joined_singleton]

/-- A last segment with the right key completes a command, or there is no room for it. -/
theorem next_close (nonempty : frames ≠ []) (unchained : cmd.isChained = false)
    (alike : ∀ frame ∈ frames, frame.SameKey cmd) (data : segments.data = joined frames)
    (pending : Option Segments) :
    ∃ frames', Next capacity frames
        (.accepted cmd (close { capacity, pending } segments cmd).1) frames' ∧
      Gathered capacity frames' (close { capacity, pending } segments cmd).2 := by
  unfold close
  rw [data, ← List.length_append]
  split
  · rename_i excess
    exact ⟨[], .overflows (.inr nonempty) alike excess, .fresh⟩
  · rename_i fits
    exact ⟨[], .closes unchained nonempty alike (Nat.not_lt.mp fits), .fresh⟩

/-- Whatever is called, a chain does what `Next` says and has gathered what it says. -/
theorem Gathered.next (gathered : Gathered capacity frames chain) (call : Call) :
    ∃ frames', Next capacity frames (chain.call call).1 frames' ∧
      Gathered capacity frames' (chain.call call).2 := by
  cases call with
  | reset => exact ⟨[], .resets, by cases gathered <;> exact .fresh⟩
  | accept cmd =>
    cases gathered with
    | fresh =>
      cases chained : cmd.isChained with
      | false =>
        simp only [CommandChain.call, accept, CommandChain.idle, chained]
        exact ⟨[], .passes chained rfl, .fresh⟩
      | true =>
        simp only [CommandChain.call, accept, CommandChain.idle, chained]
        refine next_keep ?_ (List.forall_mem_nil _) ?_ rfl none
        · exact List.forall_mem_singleton.mpr chained
        · exact List.forall_mem_singleton.mpr (belongs_iff_key.mpr ⟨rfl, rfl, rfl⟩)
    | @active _ segments nonempty leading belong data fits =>
      have alike : segments.belongs cmd = true ↔ ∀ frame ∈ frames, frame.SameKey cmd :=
        belongs_iff nonempty belong
      have differs : segments.belongs cmd = false → ¬ ∀ frame ∈ frames, frame.SameKey cmd := by
        rw [← alike, Bool.not_eq_true]
        exact id
      cases chained : cmd.isChained <;> cases belongs : segments.belongs cmd
      all_goals simp only [CommandChain.call, accept, chained, belongs, if_true]
      case false.false => exact ⟨[], .misses chained (differs belongs), .fresh⟩
      case true.false => exact ⟨[], .interrupts chained (differs belongs), .fresh⟩
      case false.true => exact next_close nonempty chained (alike.mp belongs) data _
      case true.true =>
        refine next_keep ?_ (alike.mp belongs) ?_ data _
        · exact List.forall_mem_append.mpr ⟨leading, List.forall_mem_singleton.mpr chained⟩
        · exact List.forall_mem_append.mpr ⟨belong, List.forall_mem_singleton.mpr belongs⟩

end Call

/-! ## Histories -/

variable {event : Event} {events : List Event} {frames' : List Command}

/-- A segment is added to those before it, or all of them are dropped. -/
theorem Next.added_or_ended (next : Next capacity frames event frames') :
    (∃ cmd, event = .awaited cmd ∧ frames' = frames ++ [cmd]) ∨ frames' = [] := by
  cases next with
  | awaits => exact .inl ⟨_, rfl, rfl⟩
  | _ => exact .inr rfl

/-- Segments that are awaited one after another, and what ends them. -/
inductive Episode (capacity : Nat) : List Event → Prop
  | mk (frames : List Command) {last : Event} (ends : Next capacity frames last []) :
    Episode capacity (frames.map .awaited ++ [last])

theorem delivered_awaited (frames : List Command) :
    (frames.map Event.awaited).flatMap Event.delivered = [] := by
  simp [List.flatMap_map, Event.awaited, Event.delivered]

theorem brought_awaited (frames : List Command) :
    (frames.map Event.awaited).flatMap Event.brought = joined frames := by
  simp only [List.flatMap_map, joined]
  rfl

/-- What ends some segments delivers their bytes and its own, or nothing. -/
theorem Next.delivered_eq (ends : Next capacity frames event []) :
    event.delivered = if event.completes then joined frames ++ event.brought else [] := by
  generalize left : ([] : List Command) = nothing at ends
  cases ends with
  | awaits => cases List.append_ne_nil_of_right_ne_nil _ (List.cons_ne_nil _ _) left.symm
  | passes unchained idle =>
    rw [idle]
    rfl
  | _ => rfl

/-- An episode that completes a command delivers what its frames bring, each byte once and in order,
and another one delivers nothing. -/
theorem Episode.delivered_eq (episode : Episode capacity events) :
    events.flatMap Event.delivered =
      if events.any Event.completes then events.flatMap Event.brought else [] := by
  obtain ⟨frames, ends⟩ := episode
  have none_before : (frames.map Event.awaited).any Event.completes = false := by
    simp [Event.awaited, Event.completes]
  simp only [List.flatMap_append, List.any_append, delivered_awaited, brought_awaited, none_before,
    List.nil_append, Bool.false_or, List.flatMap_singleton, List.any_cons, List.any_nil,
    Bool.or_false]
  exact ends.delivered_eq

/-- The history of a chain that has gathered some segments falls into episodes and the segments that
it has gathered afterwards. -/
theorem Gathered.run (gathered : Gathered capacity frames chain) (calls : List Call) :
    ∃ (episodes : List (List Event)) (frames' : List Command),
      frames.map Event.awaited ++ (run calls chain).1 =
        episodes.flatten ++ frames'.map Event.awaited ∧
      (∀ episode ∈ episodes, Episode capacity episode) ∧
      Gathered capacity frames' (run calls chain).2 := by
  induction calls generalizing frames chain with
  | nil => exact ⟨[], frames, List.append_nil _, by simp, gathered⟩
  | cons call rest ih =>
    obtain ⟨between, next, gathered'⟩ := gathered.next call
    obtain ⟨episodes, frames', order, each, final⟩ := ih gathered'
    rcases next.added_or_ended with ⟨cmd, same, rfl⟩ | rfl
    · refine ⟨episodes, frames', ?_, each, final⟩
      rw [← order, CommandChain.run, same, List.map_append, List.append_assoc]
      rfl
    · refine ⟨(frames.map .awaited ++ [(chain.call call).1]) :: episodes, frames', ?_, ?_, final⟩
      · rw [List.map_nil, List.nil_append] at order
        rw [List.flatten_cons, List.append_assoc, List.append_assoc, ← order]
        rfl
      · exact List.forall_mem_cons.mpr ⟨.mk frames next, each⟩

/-! ## Every history -/

/-- What is known of a chain that has gathered some segments, and what it makes of any frame. -/
structure Reassembles (capacity : Nat) (frames : List Command) (chain : CommandChain) : Prop where
  bounded : chain.data.length ≤ capacity
  active : chain.isActive = true ↔ frames ≠ []
  empty : chain.isActive = false → chain.data = []
  gathers : chain.data = joined frames
  /-- The segments have one key. -/
  alike : ∀ frame ∈ frames, ∀ other ∈ frames, frame.SameKey other
  chained : ∀ frame ∈ frames, frame.isChained = true
  awaits : ∀ cmd, (chain.accept cmd).1 = .awaiting ↔ cmd.isChained = true ∧
    (∀ frame ∈ frames, frame.SameKey cmd) ∧ (joined frames ++ cmd.data).length ≤ capacity
  completes : ∀ cmd whole, (chain.accept cmd).1 = .complete whole ↔ cmd.isChained = false ∧
    (frames = [] ∧ whole = cmd ∨
      frames ≠ [] ∧ (∀ frame ∈ frames, frame.SameKey cmd) ∧
        (joined frames ++ cmd.data).length ≤ capacity ∧
        whole = { cmd with cla := cmd.cla &&& 0xEF, data := joined frames ++ cmd.data })
  fails : ∀ cmd e, (chain.accept cmd).1 = .failed e ↔
    (¬ ∀ frame ∈ frames, frame.SameKey cmd) ∧
      e = (if cmd.isChained then .conditionsNotSatisfied else notClosed cmd) ∨
    (∀ frame ∈ frames, frame.SameKey cmd) ∧ (cmd.isChained = true ∨ frames ≠ []) ∧
      capacity < (joined frames ++ cmd.data).length ∧ e = .wrongData
  /-- What is not awaited leaves a new chain. -/
  ends : ∀ cmd, (chain.accept cmd).1 ≠ .awaiting → (chain.accept cmd).2 = idle capacity
  resets : chain.reset = idle capacity

/-- What is known of the registers of a chain that has gathered some segments. -/
structure Registered (capacity : Nat) (frames : List Command) (registers : ChainRegisters) :
    Prop where
  bounded : registers.buffer.length ≤ capacity
  active : registers.active = true ↔ frames ≠ []
  /-- Where no chain is in progress, nothing is left of the one before. -/
  empty : registers.active = false →
    registers.buffer = [] ∧ registers.ins = 0 ∧ registers.p1p2 = 0
  gathers : registers.buffer = joined frames
  key : ∀ frame ∈ frames, registers.belongs frame = true

section Steps

variable {cmd : Command} {step : ChainStep}

theorem Next.awaiting_iff (next : Next capacity frames (.accepted cmd step) frames') :
    step = .awaiting ↔ cmd.isChained = true ∧ (∀ frame ∈ frames, frame.SameKey cmd) ∧
      (joined frames ++ cmd.data).length ≤ capacity := by
  cases next with
  | awaits chained alike fits => exact ⟨fun _ => ⟨chained, alike, fits⟩, fun _ => rfl⟩
  | passes unchained | closes unchained =>
    exact ⟨nofun, fun h => absurd h.1 (Bool.eq_false_iff.mp unchained)⟩
  | interrupts _ differs | misses _ differs => exact ⟨nofun, fun h => absurd h.2.1 differs⟩
  | overflows _ _ excess => exact ⟨nofun, fun h => absurd h.2.2 (Nat.not_le.mpr excess)⟩

theorem Next.complete_iff (next : Next capacity frames (.accepted cmd step) frames')
    (whole : Command) : step = .complete whole ↔ cmd.isChained = false ∧
      (frames = [] ∧ whole = cmd ∨
        frames ≠ [] ∧ (∀ frame ∈ frames, frame.SameKey cmd) ∧
          (joined frames ++ cmd.data).length ≤ capacity ∧
          whole = { cmd with cla := cmd.cla &&& 0xEF, data := joined frames ++ cmd.data }) := by
  cases next with
  | awaits chained | interrupts chained =>
    exact ⟨nofun, fun h => absurd chained (Bool.eq_false_iff.mp h.1)⟩
  | passes unchained idle =>
    simp only [ChainStep.complete.injEq, unchained, idle, ne_eq, not_true_eq_false, false_and,
      or_false, true_and, eq_comm]
  | closes unchained active alike fits =>
    simp only [ChainStep.complete.injEq, unchained, active, ne_eq, not_false_eq_true, false_and,
      false_or, true_and, fits, eq_comm]
    exact ⟨fun same => ⟨alike, same⟩, fun h => h.2⟩
  | misses _ differs =>
    refine ⟨nofun, ?_⟩
    rintro ⟨-, ⟨rfl, -⟩ | ⟨-, alike, -⟩⟩
    · exact absurd (List.forall_mem_nil _) differs
    · exact absurd alike differs
  | overflows kept _ excess =>
    refine ⟨nofun, ?_⟩
    rintro ⟨unchained, ⟨idle, -⟩ | ⟨-, -, fits, -⟩⟩
    · rcases kept with chained | active
      · exact absurd chained (Bool.eq_false_iff.mp unchained)
      · exact absurd idle active
    · exact absurd fits (Nat.not_le.mpr excess)

theorem Next.failed_iff (next : Next capacity frames (.accepted cmd step) frames') (e : CardError) :
    step = .failed e ↔
      (¬ ∀ frame ∈ frames, frame.SameKey cmd) ∧
        e = (if cmd.isChained then .conditionsNotSatisfied else notClosed cmd) ∨
      (∀ frame ∈ frames, frame.SameKey cmd) ∧ (cmd.isChained = true ∨ frames ≠ []) ∧
        capacity < (joined frames ++ cmd.data).length ∧ e = .wrongData := by
  cases next with
  | awaits _ alike fits | closes _ _ alike fits =>
    refine ⟨nofun, ?_⟩
    rintro (⟨differs, -⟩ | ⟨-, -, excess, -⟩)
    · exact absurd alike differs
    · exact absurd fits (Nat.not_le.mpr excess)
  | passes unchained idle =>
    refine ⟨nofun, ?_⟩
    rintro (⟨differs, -⟩ | ⟨-, chained | active, -⟩)
    · rw [idle] at differs
      exact absurd (List.forall_mem_nil _) differs
    · exact absurd chained (Bool.eq_false_iff.mp unchained)
    · exact absurd idle active
  | interrupts kind differs | misses kind differs =>
    simp only [ChainStep.failed.injEq, differs, kind, not_false_eq_true, true_and, false_and,
      or_false, if_true, if_false, Bool.false_eq_true, eq_comm]
  | overflows kept alike excess =>
    refine ⟨fun same => .inr ⟨alike, kept, excess, (ChainStep.failed.inj same).symm⟩, ?_⟩
    rintro (⟨differs, -⟩ | ⟨-, -, -, rfl⟩)
    · exact absurd alike differs
    · rfl

end Steps

namespace Gathered

theorem eq_idle (gathered : Gathered capacity [] chain) : chain = idle capacity := by
  cases gathered with
  | fresh => rfl
  | active nonempty => exact absurd rfl nonempty

/-- The bytes of the segments are kept. -/
theorem kept (gathered : Gathered capacity frames chain) :
    chain.data = joined frames ∧ chain.data.length ≤ capacity ∧
      (chain.isActive = true ↔ frames ≠ []) := by
  cases gathered with
  | fresh => exact ⟨rfl, Nat.zero_le _, nofun, fun active => absurd rfl active⟩
  | active nonempty _ _ data fits => exact ⟨data, fits, fun _ => nonempty, fun _ => rfl⟩

/-- The segments are chained and have one key. -/
theorem segments (gathered : Gathered capacity frames chain) :
    (∀ frame ∈ frames, frame.isChained = true) ∧
      ∀ frame ∈ frames, ∀ other ∈ frames, frame.SameKey other := by
  cases gathered with
  | fresh => exact ⟨nofun, nofun⟩
  | active nonempty chained belong =>
    exact ⟨chained, fun frame member other member' =>
      (belongs_iff nonempty belong).mp (belong other member') frame member⟩

theorem reassembles (gathered : Gathered capacity frames chain) :
    Reassembles capacity frames chain := by
  have next : ∀ cmd, ∃ frames', Next capacity frames (.accepted cmd (chain.accept cmd).1) frames' ∧
      Gathered capacity frames' (chain.accept cmd).2 := fun cmd => gathered.next (.accept cmd)
  obtain ⟨data, bounded, active⟩ := gathered.kept
  obtain ⟨chained, alike⟩ := gathered.segments
  refine ⟨bounded, active, ?empty, data, alike, chained, ?awaits, ?completes, ?fails, ?ends,
    ?resets⟩
  case empty =>
    intro inactive
    have none_gathered : frames = [] := by
      rw [← Bool.not_eq_true, active, Ne, Classical.not_not] at inactive
      exact inactive
    rw [data, none_gathered]
    rfl
  case awaits =>
    intro cmd
    obtain ⟨frames', next, -⟩ := next cmd
    exact next.awaiting_iff
  case completes =>
    intro cmd whole
    obtain ⟨frames', next, -⟩ := next cmd
    exact next.complete_iff whole
  case fails =>
    intro cmd e
    obtain ⟨frames', next, -⟩ := next cmd
    exact next.failed_iff e
  case ends =>
    intro cmd other
    obtain ⟨frames', next, gathered'⟩ := next cmd
    rcases next.added_or_ended with ⟨_, awaited, -⟩ | rfl
    · exact absurd (Event.accepted.inj awaited).2 other
    · exact gathered'.eq_idle
  case resets => cases gathered <;> rfl

/-- The registers have the bytes of the segments and their key, or nothing. -/
theorem registered (gathered : Gathered capacity frames chain) :
    Registered capacity frames (.ofChain chain) := by
  cases gathered with
  | fresh =>
    exact ⟨Nat.zero_le _, ⟨nofun, fun active => absurd rfl active⟩, fun _ => ⟨rfl, rfl, rfl⟩, rfl,
      List.forall_mem_nil _⟩
  | @active _ segments nonempty _ belong data fits =>
    refine ⟨fits, ⟨fun _ => nonempty, fun _ => rfl⟩, nofun, data, fun frame member => ?_⟩
    exact (ChainRegisters.belongs_ofSegments segments capacity frame).trans (belong frame member)

end Gathered

/-- The history of calls on a new chain falls into episodes and the segments that the chain has
gathered since: an episode that completes a command delivers what its frames bring, each byte once
and in order, and another one delivers nothing.  The bytes of the segments are all that the chain
keeps, no more than its capacity, and decide what it makes of a frame.

With the flag, the key and the buffer in registers of their own, the history is the same; they too
have what the segments brought and no more than the capacity, and where no chain is in progress all
of them are clear. -/
theorem reassembly_exact (capacity : Nat) (calls : List Call) :
    ∃ (episodes : List (List Event)) (frames : List Command),
      (run calls (idle capacity)).1 = episodes.flatten ++ frames.map Event.awaited ∧
      (∀ episode ∈ episodes, Episode capacity episode ∧
        episode.flatMap Event.delivered =
          if episode.any Event.completes then episode.flatMap Event.brought else []) ∧
      Reassembles capacity frames (run calls (idle capacity)).2 ∧
      (ChainRegisters.run calls (.clear capacity)).1 = (run calls (idle capacity)).1 ∧
      Registered capacity frames (ChainRegisters.run calls (.clear capacity)).2 := by
  obtain ⟨episodes, frames, order, each, gathered⟩ := Gathered.run .fresh calls
  have registers : ChainRegisters.run calls (.clear capacity) = _ :=
    ChainRegisters.run_ofChain (idle capacity) calls
  refine ⟨episodes, frames, order, fun episode member =>
    ⟨each episode member, (each episode member).delivered_eq⟩, gathered.reassembles, ?_, ?_⟩
  · rw [registers]
    rfl
  · rw [registers]
    exact gathered.registered

/-- A chain is interrupted by another command; none of its bytes are in the next one. -/
example :
    let segment (cla ins : UInt8) (data : Bytes) : Command := ⟨cla, ins, 0x7F, 0x21, data, none⟩
    (run [.accept (segment 0x10 0xDA [1, 2]), .accept (segment 0x10 0xDB [3]),
      .accept (segment 0x10 0xDB [4]), .accept (segment 0x00 0xDB [5])] (idle 2)).1.map
        Event.delivered = [[], [], [], [4, 5]] := by decide

end CommandChain

end PgpCard
