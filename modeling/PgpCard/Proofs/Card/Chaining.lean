import PgpCard.Proofs.Card.Reachable

/-!
# Chaining does not show

A command that arrives in segments is answered as if it had arrived whole.  Until the last segment
the card only gathers data; the last one closes the chain, and from there on the card cannot tell
that there were segments.

* `Gathers` : the invariant of a chain in progress, before its first segment as well;
* `accept_leading`, `accept_last` : what the chain makes of one segment;
* `exchange_leading` : all segments but the last are awaited, and nothing else changes;
* `chaining_transparent` : the last segment is answered as the whole command is, on any card that is
  not stale and has no chain in progress.
-/

set_option autoImplicit false

namespace PgpCard

/-- A segment of a command that is not the last of its chain: its header agrees with the command's,
and its class byte says that more follows. -/
structure Command.Leads (cmd segment : Command) : Prop where
  ins : segment.ins = cmd.ins
  p1 : segment.p1 = cmd.p1
  p2 : segment.p2 = cmd.p2
  chained : segment.isChained = true

/-- The class byte of a command that is not chained has nothing to lose. -/
theorem Command.cla_of_not_chained {cmd : Command} (h : cmd.isChained = false) :
    cmd.cla &&& 0xEF = cmd.cla := by
  have unset : cmd.cla &&& 0x10 = 0 := by simpa [isChained] using h
  have clear : cmd.cla.toBitVec &&& 0x10#8 = 0#8 := congrArg UInt8.toBitVec unset
  apply UInt8.toBitVec_inj.mp
  calc
    cmd.cla.toBitVec &&& 0xEF#8 = cmd.cla.toBitVec &&& 0xEF#8 ||| cmd.cla.toBitVec &&& 0x10#8 := by
      rw [clear, BitVec.or_zero]
    _ = cmd.cla.toBitVec &&& (0xEF#8 ||| 0x10#8) := BitVec.and_or_distrib_left.symm
    _ = cmd.cla.toBitVec := BitVec.and_allOnes

/-! ## The chain -/

/-- What has arrived of a command so far is in the chain; before the first segment the chain holds
nothing. -/
def CommandChain.Gathers (chain : CommandChain) (cmd : Command) (arrived : Bytes) : Prop :=
  chain.pending = some ⟨cmd.ins, cmd.p1, cmd.p2, arrived⟩ ∨ chain.pending = none ∧ arrived = []

namespace CommandChain

variable {chain : CommandChain} {cmd segment : Command} {arrived : Bytes}

theorem belongs_of_header (ins : segment.ins = cmd.ins) (p1 : segment.p1 = cmd.p1)
    (p2 : segment.p2 = cmd.p2) :
    (⟨cmd.ins, cmd.p1, cmd.p2, arrived⟩ : Segments).belongs segment = true := by
  simp [Segments.belongs, ins, p1, p2]

/-- A segment that has room is kept behind those before it. -/
theorem accept_leading (gathers : chain.Gathers cmd arrived) (leads : cmd.Leads segment)
    (room : arrived.length + segment.data.length ≤ chain.capacity) :
    ∃ chain', chain.accept segment = (.awaiting, chain') ∧ chain'.capacity = chain.capacity ∧
      chain'.Gathers cmd (arrived ++ segment.data) := by
  obtain ⟨ins, p1, p2, chained⟩ := leads
  have fits : ¬ chain.capacity < arrived.length + segment.data.length := by omega
  refine ⟨{ chain with pending := some ⟨cmd.ins, cmd.p1, cmd.p2, arrived ++ segment.data⟩ }, ?_,
    rfl, .inl rfl⟩
  unfold accept
  rcases gathers with pending | ⟨pending, rfl⟩
  · simp only [pending, chained, belongs_of_header ins p1 p2, ↓reduceIte, keep, fits]
  · simp only [pending, chained, keep, fits, ↓reduceIte, ins, p1, p2]

/-- The last segment completes the command and leaves nothing in the chain. -/
theorem accept_last (gathers : chain.Gathers cmd arrived) (unchained : cmd.isChained = false)
    (last : Bytes) (room : arrived.length + last.length ≤ chain.capacity) :
    chain.accept { cmd with data := last } =
      (.complete { cmd with data := arrived ++ last }, chain.reset) := by
  have fits : ¬ chain.capacity < arrived.length + last.length := by omega
  have closes : ({ cmd with data := last } : Command).isChained = false := unchained
  have cla := Command.cla_of_not_chained unchained
  unfold accept
  rcases gathers with pending | ⟨pending, rfl⟩
  · have belongs : (⟨cmd.ins, cmd.p1, cmd.p2, arrived⟩ : Segments).belongs
        { cmd with data := last } = true := belongs_of_header rfl rfl rfl
    simp only [pending, closes, belongs, ↓reduceIte, close, fits, cla]
  · simp only [pending, closes, Card.reset_of_idle pending, List.nil_append]

end CommandChain

namespace Card

/-! ## The card -/

section Exchange

variable {σ : Type} [Backend σ]

/-- The responses to some commands, each with what the outside gives during it, and the card
afterwards. -/
def exchange : List (Environment × Command) → Card σ → List Response × Card σ
  | [], card => ([], card)
  | (env, cmd) :: rest, card =>
    let (response, card) := respond env cmd card
    let (responses, card) := exchange rest card
    (response :: responses, card)

variable {card : Card σ} {cmd : Command}

/-- A command that is no session command goes through the chain. -/
theorem respond_eq_receive (fresh : card.memory.stale = false)
    (passes : cmd.instruction ≠ .select ∧ cmd.instruction ≠ .invalidate) (env : Environment) :
    respond env cmd card = receive env cmd card := by
  rw [respond, if_neg (by simp [fresh]), answer]
  split
  · exact absurd ‹_› passes.1
  · exact absurd ‹_› passes.2
  · rfl

/-- All segments of a command but the last are awaited, and the card only gathers their data. -/
theorem exchange_leading (passes : cmd.instruction ≠ .select ∧ cmd.instruction ≠ .invalidate)
    (leading : List (Environment × Command)) :
    ∀ {arrived : Bytes} {card : Card σ}, (∀ step ∈ leading, cmd.Leads step.2) →
      card.memory.stale = false → card.memory.chain.Gathers cmd arrived →
      (arrived ++ leading.flatMap (·.2.data)).length ≤ card.memory.chain.capacity →
      ∃ chain, exchange leading card = (List.replicate leading.length .ok,
          { card with memory := { card.memory with chain } }) ∧
        chain.capacity = card.memory.chain.capacity ∧
        chain.Gathers cmd (arrived ++ leading.flatMap (·.2.data)) := by
  induction leading with
  | nil =>
    intro arrived card _ _ gathers _
    exact ⟨card.memory.chain, rfl, rfl, by simpa using gathers⟩
  | cons step rest ih =>
    intro arrived card leads fresh gathers room
    obtain ⟨env, segment⟩ := step
    have first : cmd.Leads segment := leads (env, segment) List.mem_cons_self
    have same : segment.instruction = cmd.instruction := congrArg Instruction.ofByte first.ins
    rw [List.flatMap_cons, ← List.append_assoc] at room ⊢
    have fits : arrived.length + segment.data.length ≤ card.memory.chain.capacity := by
      simp only [List.length_append] at room
      omega
    obtain ⟨chain, accepts, capacity, gathers'⟩ :=
      CommandChain.accept_leading gathers first fits
    have kept : respond env segment card =
        (.ok, { card with memory := { card.memory with chain } }) := by
      rw [respond_eq_receive fresh (by rwa [same]), receive, accepts]
    have rest_leads : ∀ step ∈ rest, cmd.Leads step.2 :=
      fun step member => leads step (List.mem_cons_of_mem _ member)
    have stays_fresh :
        ({ card with memory := { card.memory with chain } } : Card σ).memory.stale = false := fresh
    obtain ⟨chain', exchanged, capacity', gathered⟩ := ih rest_leads stays_fresh gathers'
      (by rw [capacity]; exact room)
    refine ⟨chain', ?_, capacity'.trans capacity, gathered⟩
    rw [exchange, kept]
    dsimp only
    rw [exchanged]
    rfl

end Exchange

/-- A command that arrives in segments is answered as if it had arrived whole.  On a card that is
not stale and has no chain in progress, whether it is terminated or has more of a response to send,
every segment but the last is answered with `9000` and no data, and changes nothing that survives,
nothing in the store, and nothing in memory but the chain.  After them the last segment brings the
response and the card that the whole command brings, in the same environment and with the same
schedule of failures in the store. -/
theorem chaining_transparent {outside : Environment → Prop} {card : Card FlakyStore}
    (reached : Reached outside (.on card)) (fresh : card.memory.stale = false)
    (idle : card.memory.chain.pending = none) {cmd : Command}
    (passes : cmd.instruction ≠ .select ∧ cmd.instruction ≠ .invalidate)
    (unchained : cmd.isChained = false) (short : cmd.data.length ≤ CommandChain.cardCapacity)
    {leading : List (Environment × Command)} {last : Bytes}
    (leads : ∀ step ∈ leading, cmd.Leads step.2)
    (cut : leading.flatMap (·.2.data) ++ last = cmd.data) :
    (exchange leading card).1 = List.replicate leading.length .ok ∧
      (exchange leading card).2.memory.persistent = card.memory.persistent ∧
      (exchange leading card).2.store = card.store ∧
      (∃ chain, (exchange leading card).2.memory = { card.memory with chain }) ∧
      ∀ env, respond env { cmd with data := last } (exchange leading card).2 =
        respond env cmd card := by
  have sound : SoundOn False card := sound_of_reached nofun reached
  have total : (leading.flatMap (·.2.data)).length + last.length ≤
      card.memory.chain.capacity := by
    rw [sound.capacity, ← List.length_append, cut]
    exact short
  have before : card.memory.chain.Gathers cmd [] := .inr ⟨idle, rfl⟩
  obtain ⟨chain, exchanged, capacity, gathers⟩ :=
    exchange_leading passes leading leads fresh before (by simp only [List.nil_append]; omega)
  rw [List.nil_append] at gathers
  rw [exchanged]
  refine ⟨rfl, rfl, rfl, ⟨chain, rfl⟩, fun env => ?_⟩
  -- both go through the chain, and both leave it empty
  have closed := CommandChain.accept_last gathers unchained last (by omega)
  have alone := CommandChain.accept_last before unchained cmd.data (by
    simp only [List.length_nil]
    rw [← cut, List.length_append]
    omega)
  have reset : chain.reset = card.memory.chain.reset := by
    rw [CommandChain.reset, CommandChain.reset, capacity]
  rw [respond_eq_receive (by exact fresh) (by exact passes), respond_eq_receive fresh passes,
    receive, receive, closed, alone, cut, reset]
  rfl

/-- VERIFY of PW1 in two segments, with an empty one between them. -/
def segmentedVerify : List (Environment × Command) :=
  [(.ofSeed [] 0, ⟨0x10, 0x20, 0x00, 0x81, Secrets.defaultPw1.take 3, none⟩),
    (.ofSeed [] 1, ⟨0x10, 0x20, 0x00, 0x81, [], none⟩)]

theorem chaining_transparent_verify :
    (exchange segmentedVerify (newCard fun _ => false)).1 = [.ok, .ok] ∧
      respond (.ofSeed [] 0) ⟨0x00, 0x20, 0x00, 0x81, Secrets.defaultPw1.drop 3, none⟩
          (exchange segmentedVerify (newCard fun _ => false)).2 =
        respond (.ofSeed [] 0) ⟨0x00, 0x20, 0x00, 0x81, Secrets.defaultPw1, none⟩
          (newCard fun _ => false) := by
  have leads : ∀ step ∈ segmentedVerify,
      (⟨0x00, 0x20, 0x00, 0x81, Secrets.defaultPw1, none⟩ : Command).Leads step.2 := by
    intro step member
    simp only [segmentedVerify, List.mem_cons, List.not_mem_nil, or_false] at member
    rcases member with rfl | rfl <;> exact ⟨rfl, rfl, rfl, by decide⟩
  have cut : segmentedVerify.flatMap (·.2.data) ++ Secrets.defaultPw1.drop 3 =
      (⟨0x00, 0x20, 0x00, 0x81, Secrets.defaultPw1, none⟩ : Command).data := by decide
  obtain ⟨awaited, -, -, -, same⟩ := chaining_transparent (reached_newCard fun _ => True) rfl rfl
    (by decide) (by decide) (by decide) leads cut
  exact ⟨awaited, same _⟩

end Card

end PgpCard
