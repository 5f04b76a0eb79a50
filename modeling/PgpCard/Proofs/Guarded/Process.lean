import PgpCard.Proofs.Card.Framing
import PgpCard.Proofs.Card.History
import PgpCard.Proofs.Guarded.Commands
import PgpCard.Proofs.Guarded.Session

/-!
# Every frame is answered

A machine runs a card with all partial operations made explicit, and keeps the response in progress
in a buffer with a position.

* `Machine.view` is the card that a machine runs; `Machine.Sound` bounds its chain and its buffer.
* `Machine.process_eq` : a frame, whatever its bytes, is processed within range, the answer is that
  of `Card.process`, and the machine is sound again.
* `Machine.run_eq` : so are any frames one after another.
* `answers_within_range` : whatever a store holds and whatever it refuses, a card that was opened on
  it gives every frame one answer, within range and well-formed.
-/

set_option autoImplicit false

namespace PgpCard

open Card (history Step)

/-! ## The machine -/

namespace Guarded

/-- A card as a machine runs it: the response in progress is kept in a buffer beside the rest. -/
structure Machine (σ : Type) where
  card : Card σ
  buffer : Buffer := {}

namespace Machine

variable {σ : Type}

/-- The card that the machine runs. -/
def view (machine : Machine σ) : Card σ := machine.card.withOutgoing ⟨machine.buffer.unsent⟩

/-- The chain and the buffer of a machine are within their bounds. -/
structure Sound (machine : Machine σ) : Prop where
  framed : Framed machine.card
  inRange : machine.buffer.InRange

variable [Backend σ]

/-- Answers a whole command. -/
def execute (env : Environment) (cmd : Command) (machine : Machine σ) :
    Except (Halt Empty) (Response × Machine σ) :=
  if cmd.instruction = .getResponse then
    if machine.card.memory.terminated then .ok (.error .conditionsNotSatisfied, machine)
    else do
      let (response, buffer) ← machine.buffer.next
      return (response, { machine with buffer })
  else
    let card := machine.card
    if card.memory.terminated ∧ cmd.instruction ≠ .activate then
      .ok (.error .conditionsNotSatisfied, { card })
    else
      match dispatch env cmd card with
      | .ok data card => do
        let (response, buffer) ← Buffer.next { data }
        return (response, { card, buffer })
      | .error (.failed e) card =>
        .ok (.error e.status, { card := if e.isStorage then card.markStale true else card })
      | .error (.misused misuse) _ => .error (.misused misuse)

/-- Passes a command through the chain and answers it. -/
def receive (env : Environment) (cmd : Command) (machine : Machine σ) :
    Except (Halt Empty) (Response × Machine σ) := do
  let (step, chain) ← accept machine.card.memory.chain cmd
  let card : Card σ := { machine.card with memory := { machine.card.memory with chain } }
  match step with
  | .awaiting => return (.ok, { machine with card })
  | .failed e => return (.error e.status, { card })
  | .complete cmd => execute env cmd { machine with card }

/-- Answers a command on a memory that is not stale. -/
def answer (env : Environment) (cmd : Command) (machine : Machine σ) :
    Except (Halt Empty) (Response × Machine σ) :=
  match cmd.instruction with
  | .select => .ok (.ok, { card := machine.card.select })
  | .invalidate => .ok (.ok, { machine with card := machine.card.invalidate })
  | _ => receive env cmd machine

/-- Answers a command. -/
def respond (env : Environment) (cmd : Command) (machine : Machine σ) :
    Except (Halt Empty) (Response × Machine σ) :=
  if machine.card.memory.stale then
    match Card.reload machine.card with
    | .ok () card => answer env cmd { card := card.markStale false }
    | .error _ card => .ok (.error .unknown, { machine with card })
  else answer env cmd machine

/-- One frame in and one frame out. -/
def process (env : Environment) (frame : Bytes) (machine : Machine σ) :
    Except (Halt Empty) (Bytes × Machine σ) :=
  match ofFrame? frame with
  | .error (.misused misuse) => .error (.misused misuse)
  | .error (.failed _) => do return (← toFrame (Response.error .wrongLength), machine)
  | .ok cmd => do
    let (response, machine) ← respond env cmd machine
    return (← toFrame response, machine)

/-- The answers to some frames, each with what the outside gives during it, and the machine after
each of them. -/
def run : List (Environment × Bytes) → Machine σ → Except (Halt Empty) (List (Bytes × Machine σ))
  | [], _ => .ok []
  | (env, frame) :: rest, machine => do
    let (answer, machine) ← process env frame machine
    return (answer, machine) :: (← run rest machine)

/-! ## One step -/

section Views

omit [Backend σ]

/-- A computation on a machine is within range, and it does what another does on the card that the
machine runs. -/
def Follows {α : Type} (act : Except (Halt Empty) (α × Machine σ)) (plain : α × Card σ) : Prop :=
  ∃ after : Machine σ, after.Sound ∧ plain.2 = after.view ∧ act = .ok (plain.1, after)

theorem Follows.done {α : Type} {a : α} {after : Machine σ} (sound : after.Sound) :
    Follows (.ok (a, after)) (a, after.view) :=
  ⟨after, sound, rfl, rfl⟩

theorem Sound.idle {card : Card σ} (framed : Framed card) : Sound { card } :=
  ⟨framed, Nat.le_refl 0⟩

/-- A card that keeps no response is what a machine with an empty buffer runs. -/
theorem withOutgoing_of_framed {card : Card σ} (framed : Framed card) :
    card.withOutgoing .empty = card := by
  obtain ⟨⟨_, _, _, _, _, _, outgoing, _, _⟩, store⟩ := card
  cases (framed.sent : outgoing = .empty)
  rfl

/-- A card that keeps no response, on a machine with an empty buffer. -/
theorem Follows.idle {α : Type} {a : α} {card : Card σ} (framed : Framed card) :
    Follows (.ok (a, { card })) (a, card) :=
  ⟨{ card }, .idle framed, (withOutgoing_of_framed framed).symm, rfl⟩

end Views

variable {env : Environment} {cmd : Command} {machine : Machine σ}

theorem execute_follows (makes : env.MakesKeys) (sound : machine.Sound)
    (short : cmd.data.length ≤ CommandChain.cardCapacity) :
    Follows (execute env cmd machine) (Card.execute env cmd machine.view) := by
  have idle : machine.view.withOutgoing .empty = machine.card :=
    withOutgoing_of_framed sound.framed
  unfold execute Card.execute
  by_cases more : cmd.instruction = .getResponse
  · rw [if_pos more, if_pos more]
    by_cases terminated : machine.card.memory.terminated = true
    · rw [if_pos terminated, if_pos (show machine.view.memory.terminated = true from terminated)]
      exact .done sound
    · rw [if_neg terminated, if_neg (show ¬ machine.view.memory.terminated = true from terminated)]
      obtain ⟨after, inRange, left, next⟩ := Buffer.next_eq (ε := Empty) sound.inRange
      refine ⟨{ machine with buffer := after }, ⟨sound.framed, inRange⟩, ?_, ?_⟩
      · exact congrArg machine.card.withOutgoing left
      · rw [next]
        rfl
  · rw [if_neg more, if_neg more]
    dsimp only
    rw [idle]
    split
    · exact .idle sound.framed
    · have keeps := dispatch_keeps (σ := σ) cmd env
      rw [dispatch_eq makes short, Attempt.guarded_apply]
      cases ended : Card.dispatch env cmd machine.card with
      | ok data card =>
        have unsent : Buffer.InRange { data } := Nat.zero_le _
        obtain ⟨after, inRange, left, next⟩ := Buffer.next_eq (ε := Empty) unsent
        refine ⟨⟨card, after⟩, ⟨keeps.of_ok sound.framed ended, inRange⟩, ?_, ?_⟩
        · exact congrArg card.withOutgoing left
        · dsimp only
          rw [next]
          rfl
      | error e card =>
        -- a command that fails has left the chain within its bounds, and keeps no response
        have framed := keeps.of_error sound.framed ended
        dsimp only
        refine .idle ?_
        split
        · exact ⟨framed.fits, framed.sent⟩
        · exact framed

theorem receive_follows (makes : env.MakesKeys) (sound : machine.Sound)
    (short : cmd.data.length < 256) :
    Follows (receive env cmd machine) (Card.receive env cmd machine.view) := by
  have added : machine.card.memory.chain.data.length + cmd.data.length < wordSize := by
    have held := sound.framed.fits.data
    refine Nat.lt_of_lt_of_le (Nat.add_lt_add_of_le_of_lt held short) ?_
    decide
  unfold receive Card.receive
  rw [accept_eq added]
  cases accepts : machine.card.memory.chain.accept cmd with
  | mk step chain =>
    obtain ⟨fits, whole⟩ := sound.framed.fits.accept short accepts
    have accepts : machine.view.memory.chain.accept cmd = (step, chain) := accepts
    simp only [accepts, bind, Except.bind]
    let card : Card σ := { machine.card with memory := { machine.card.memory with chain } }
    have framed : Framed card := ⟨fits, sound.framed.sent⟩
    cases step with
    | awaiting => exact ⟨{ machine with card }, ⟨framed, sound.inRange⟩, rfl, rfl⟩
    | failed e => exact ⟨{ card }, .idle framed, rfl, rfl⟩
    | complete cmd => exact execute_follows makes ⟨framed, sound.inRange⟩ (whole cmd rfl)

theorem answer_follows (makes : env.MakesKeys) (sound : machine.Sound)
    (short : cmd.data.length < 256) :
    Follows (answer env cmd machine) (Card.answer env cmd machine.view) := by
  unfold answer Card.answer
  cases cmd.instruction with
  | select =>
    exact ⟨{ card := machine.card.select }, .idle ⟨sound.framed.fits.reset, rfl⟩, rfl, rfl⟩
  | invalidate =>
    exact ⟨{ machine with card := machine.card.invalidate },
      ⟨⟨sound.framed.fits, sound.framed.sent⟩, sound.inRange⟩, rfl, rfl⟩
  | _ => exact receive_follows makes sound short

theorem respond_follows (makes : env.MakesKeys) (sound : machine.Sound)
    (short : cmd.data.length < 256) :
    Follows (respond env cmd machine) (Card.respond env cmd machine.view) := by
  unfold respond Card.respond
  by_cases stale : machine.card.memory.stale = true
  · rw [if_pos stale, if_pos (show machine.view.memory.stale = true from stale),
      Card.reload_eq, Card.reload_eq]
    have same : machine.view.store = machine.card.store := rfl
    rw [same]
    cases Card.load machine.card.store with
    | ok kept store =>
      let card : Card σ := ⟨machine.card.memory.adopt kept, store⟩
      have reloaded : Sound { card := card.markStale false } :=
        .idle ⟨sound.framed.fits.reset, rfl⟩
      exact answer_follows makes reloaded short
    | error e store =>
      -- the reload has failed: memory stays, and so does the response in progress
      let card : Card σ := { machine.card with store }
      have framed : Framed card := ⟨sound.framed.fits, sound.framed.sent⟩
      exact ⟨{ machine with card }, ⟨framed, sound.inRange⟩, rfl, rfl⟩
  · rw [if_neg stale, if_neg (show ¬ machine.view.memory.stale = true from stale)]
    exact answer_follows makes sound short

/-- A frame, whatever its bytes, is processed within range. -/
theorem process_follows (makes : env.MakesKeys) (frame : Bytes) (sound : machine.Sound) :
    Follows (process env frame machine) (Card.process env frame machine.view) := by
  unfold process Card.process
  rw [ofFrame?_eq]
  cases parses : Command.ofFrame? frame with
  | error e => exact ⟨machine, sound, rfl, by rw [mapError_error, toFrame_eq]; rfl⟩
  | ok cmd =>
    obtain ⟨after, sound', same, responds⟩ :=
      respond_follows makes sound (length_data_of_ofFrame? parses)
    refine ⟨after, sound', same, ?_⟩
    simp only [mapError_ok, responds, bind, Except.bind, toFrame_eq]
    rfl

/-- So are any frames one after another: each has one answer, and it is that of the card which the
machine runs. -/
theorem run_eq {frames : List (Environment × Bytes)}
    (makes : ∀ input ∈ frames, input.1.MakesKeys) (sound : machine.Sound) :
    ∃ turns : List (Bytes × Machine σ), run frames machine = .ok turns ∧
      turns.map (fun turn => (turn.1, turn.2.view)) =
        (history frames machine.view).map fun step =>
          ((Card.process step.env step.frame step.card).1, step.after) := by
  induction frames generalizing machine with
  | nil => exact ⟨[], rfl, rfl⟩
  | cons input rest ih =>
    obtain ⟨env, frame⟩ := input
    have first : env.MakesKeys := makes (env, frame) List.mem_cons_self
    obtain ⟨after, sound', same, answers⟩ := process_follows first frame sound
    obtain ⟨turns, later, matching⟩ :=
      ih (fun input member => makes input (List.mem_cons_of_mem _ member)) sound'
    refine ⟨((Card.process env frame machine.view).1, after) :: turns, ?_, ?_⟩
    · simp only [run, answers, later, bind, Except.bind]
      rfl
    · rw [List.map_cons, matching, history, List.map_cons, same]
      exact congrArg (fun card => ((Card.process env frame machine.view).1, card) :: _) same.symm

end Machine

/-! ## Every card that opens -/

theorem length_history {σ : Type} [Backend σ] (frames : List (Environment × Bytes))
    (card : Card σ) : (history frames card).length = frames.length := by
  induction frames generalizing card with
  | nil => rfl
  | cons input rest ih => exact congrArg (· + 1) (ih _)

/-- Whatever a store holds and whatever it refuses: a card that was opened on it processes any
frames, of any bytes, with every operation in its range.  Each frame has one answer, which is that
of `Card.process`, and the answer is well-formed. -/
theorem answers_within_range {σ : Type} [Backend σ] {profile : Profile} {store store' : σ}
    {memory : Memory} (opened : Card.openOn profile store = .ok memory store')
    {frames : List (Environment × Bytes)} (makes : ∀ input ∈ frames, input.1.MakesKeys) :
    ∃ turns : List (Bytes × Machine σ),
      Machine.run frames { card := ⟨memory, store'⟩ } = .ok turns ∧
      turns.map (fun turn => (turn.1, turn.2.view)) =
        ((history frames ⟨memory, store'⟩).map fun step =>
          ((Card.process step.env step.frame step.card).1, step.after)) ∧
      turns.length = frames.length ∧
      ∀ turn ∈ turns, WellFormed turn.2.buffer.unsent.length turn.1 := by
  have framed := framed_of_openOn opened
  have idle : Machine.view { card := (⟨memory, store'⟩ : Card σ) } = ⟨memory, store'⟩ :=
    Machine.withOutgoing_of_framed framed
  obtain ⟨turns, answers, matching⟩ := Machine.run_eq makes (.idle framed)
  rw [idle] at matching
  refine ⟨turns, answers, matching, ?_, fun turn member => ?_⟩
  · have count := congrArg List.length matching
    rwa [List.length_map, List.length_map, length_history] at count
  · have member : (turn.1, turn.2.view) ∈ turns.map (fun turn => (turn.1, turn.2.view)) :=
      List.mem_map_of_mem member
    rw [matching, List.mem_map] at member
    obtain ⟨step, -, same⟩ := member
    obtain ⟨answered, viewed⟩ := Prod.mk.inj same
    have formed := Card.wellFormed_process step.env step.frame step.card
    rw [answered] at formed
    have pending : step.after.memory.outgoing.pending = turn.2.buffer.unsent.length := by
      rw [viewed]
      rfl
    exact pending ▸ formed

/-- A header list that announces three bytes for the exponent, none for the first factor and one for
the second. -/
def hollowList : Bytes :=
  [0x4D, 0x12, 0xB6, 0x00, 0x7F, 0x48, 0x06, 0x91, 0x03, 0x92, 0x00, 0x93, 0x01, 0x5F, 0x48, 0x04,
    0x01, 0x00, 0x01, 0x03]

/-- A frame that is too short, and a VERIFY of PW3; a key import in two segments, with an empty part;
a certificate in two segments, which is read in two parts; and a VERIFY of PW1. -/
def busyFrames : List Bytes :=
  [[0x00], [0x00, 0x20, 0x00, 0x83, 0x08] ++ Secrets.defaultPw3,
    [0x10, 0xDB, 0x3F, 0xFF, 0x0A] ++ hollowList.take 10,
    [0x00, 0xDB, 0x3F, 0xFF, 0x0A] ++ hollowList.drop 10,
    [0x10, 0xDA, 0x7F, 0x21, 0xC8] ++ List.replicate 200 0x5A,
    [0x00, 0xDA, 0x7F, 0x21, 0x64] ++ List.replicate 100 0x5A,
    [0x00, 0xCA, 0x7F, 0x21, 0x00], [0x00, 0xC0, 0x00, 0x00, 0x00], Card.verifyFrame]

/-- The frames, with nothing random from outside. -/
def busyInputs : List (Environment × Bytes) := busyFrames.map (.ofSeed [] 0, ·)

/-- The length of an answer and its last two bytes. -/
def outline (answer : Bytes) : Nat × Bytes := (answer.length, answer.drop (answer.length - 2))

/-- The store takes what it takes to set the card up, to verify PW3 and to keep the certificate, and
refuses all that follows. -/
theorem answers_within_range_refused :
    (∀ input ∈ busyInputs, input.1.MakesKeys) ∧
      Card.openOn .default ({ inner := .empty, writeFails := Nat.ble 15 } : FlakyStore) =
        .ok (Card.newCard (Nat.ble 15)).memory (Card.newCard (Nat.ble 15)).store ∧
      ∃ turns : List (Bytes × Machine FlakyStore),
        Machine.run busyInputs { card := Card.newCard (Nat.ble 15) } = .ok turns ∧
        turns.map (fun turn => outline turn.1) = [(2, [0x67, 0x00]), (2, [0x90, 0x00]),
          (2, [0x90, 0x00]), (2, [0x69, 0x84]), (2, [0x90, 0x00]), (2, [0x90, 0x00]),
          (257, [0x61, 0x2D]), (47, [0x90, 0x00]), (2, [0x6F, 0x00])] ∧
        ∀ turn ∈ turns, WellFormed turn.2.buffer.unsent.length turn.1 := by
  have makes : ∀ input ∈ busyInputs, input.1.MakesKeys := by
    intro input member
    obtain ⟨frame, -, rfl⟩ := List.mem_map.mp member
    exact Environment.makesKeys_ofRandom _ _
  have opened : Card.openOn .default
      ({ inner := .empty, writeFails := Nat.ble 15 } : FlakyStore) =
        .ok (Card.newCard (Nat.ble 15)).memory (Card.newCard (Nat.ble 15)).store := rfl
  obtain ⟨turns, answers, matching, -, formed⟩ := answers_within_range opened makes
  refine ⟨makes, opened, turns, answers, ?_, formed⟩
  have outlines := congrArg (List.map fun answered => outline answered.1) matching
  rw [List.map_map, List.map_map] at outlines
  refine Eq.trans outlines ?_
  decide +kernel

end Guarded

end PgpCard
