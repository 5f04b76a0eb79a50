import PgpCard.Proofs.Card.Recalling

/-!
# Responses in parts

The data that a command returns are sent in parts: the first one answers the frame, and each of the
others answers a GET RESPONSE.

* `parts` : the parts of some data; `segmented_parts` says what they are like;
* `next_parts` : what is sent and what is left of a response are the head and the tail of its parts;
* `Executes.sameTransfer` : what a command leaves of the chain and of the response in progress;
* `answers_of_owes` : a card answers GET RESPONSE frames with the parts that it still owes, and with
  nothing after them, whatever it has to reject in between;
* `response_complete` : so the data that a command returns arrive in full.
-/

set_option autoImplicit false

namespace PgpCard.Card

open Attempt

/-! ## The parts of some data -/

/-- Some data in full parts, as many as are told, and a last part. -/
def segments : Nat → Bytes → List Response
  | 0, data => [.success data]
  | more + 1, data =>
    let rest := data.drop Response.capacity
    .moreData (data.take Response.capacity) (UInt8.ofNat (min rest.length Response.capacity))
      :: segments more rest

/-- The parts in which some data are sent. -/
def parts (data : Bytes) : List Response := segments (continuations data) data

theorem parts_of_short {data : Bytes} (short : data.length ≤ Response.capacity) :
    parts data = [.success data] := by
  have few : data.length ≤ 255 := short
  have none_left : continuations data = 0 := by
    show (data.length - 1) / 255 = 0
    omega
  rw [parts, none_left, segments]

theorem parts_of_long {data : Bytes} (long : Response.capacity < data.length) :
    parts data = .moreData (data.take Response.capacity)
        (UInt8.ofNat (min (data.drop Response.capacity).length Response.capacity))
      :: parts (data.drop Response.capacity) := by
  have many : 255 < data.length := long
  have one_less : continuations data = continuations (data.drop Response.capacity) + 1 := by
    rw [continuations, continuations, List.length_drop]
    show (data.length - 1) / 255 = (data.length - 255 - 1) / 255 + 1
    omega
  rw [parts, one_less, segments]
  rfl

/-- Some parts bring some data in full. -/
structure Segmented (data : Bytes) (parts : List Response) : Prop where
  count : parts.length = max 1 ((data.length + 254) / 255)
  whole : parts.flatMap (·.data) = data
  /-- The first part brings as much as fits. -/
  first : ∀ part ∈ parts.head?, part.data.length = min data.length 255
  /-- Every part but the last is full and announces what the next one brings. -/
  announced : ∀ earlier part next later, parts = earlier ++ part :: next :: later →
    part.data.length = 255 ∧ part.status.high = 0x61 ∧ part.status.low.toNat = next.data.length
  last : ∀ part ∈ parts.getLast?, part.status = .success
  /-- No part is cut when it is sent. -/
  uncut : ∀ part ∈ parts, part.toFrame = part.data ++ [part.status.high, part.status.low]

theorem toFrame_of_short {response : Response} (short : response.data.length ≤ 255) :
    response.toFrame = response.data ++ [response.status.high, response.status.low] := by
  have fits : response.data.length ≤ Response.capacity := short
  rw [Response.toFrame, List.take_of_length_le fits]

theorem segmented_of_short {data : Bytes} (short : data.length ≤ 255) :
    Segmented data [.success data] where
  count := by
    show 1 = max 1 ((data.length + 254) / 255)
    omega
  whole := by simp [Response.success]
  first := by
    intro part member
    cases member
    show data.length = min data.length 255
    omega
  announced := by
    intro earlier part next later split
    have lengths := congrArg List.length split
    simp at lengths
    omega
  last := by
    intro part member
    cases member
    rfl
  uncut := by
    intro part member
    cases List.mem_singleton.mp member
    exact toFrame_of_short short

theorem Segmented.cons {data : Bytes} {parts : List Response} (long : 255 < data.length)
    (rest : Segmented (data.drop 255) parts) :
    Segmented data
      (.moreData (data.take 255) (UInt8.ofNat (min (data.drop 255).length 255)) :: parts) := by
  have full : (data.take 255).length = 255 := by
    rw [List.length_take]
    omega
  have positive : parts ≠ [] := by
    intro none
    have counted := rest.count
    rw [none, List.length_nil] at counted
    omega
  have fits : (UInt8.ofNat (min (data.drop 255).length 255)).toNat =
      min (data.drop 255).length 255 := by
    apply UInt8.toNat_ofNat_of_lt
    show min (data.drop 255).length 255 < 256
    omega
  constructor
  · have counted := rest.count
    rw [List.length_drop] at counted
    rw [List.length_cons, counted]
    omega
  · rw [List.flatMap_cons, rest.whole]
    exact List.take_append_drop 255 data
  · intro part member
    cases member
    show (data.take 255).length = min data.length 255
    omega
  · intro earlier part next later split
    cases earlier with
    | nil =>
      -- what is announced is what the first of the other parts brings
      obtain ⟨rfl, rfl⟩ := List.cons.inj split
      refine ⟨full, StatusWord.high_moreData _, ?_⟩
      show (StatusWord.moreData _).low.toNat = next.data.length
      rw [StatusWord.low_moreData, fits, rest.first next rfl]
    | cons _ earlier =>
      obtain ⟨-, split⟩ := List.cons.inj split
      exact rest.announced earlier part next later split
  · intro part member
    rw [List.getLast?_cons_of_ne_nil positive] at member
    exact rest.last part member
  · intro part member
    rcases List.mem_cons.mp member with rfl | member
    · apply toFrame_of_short
      show (data.take 255).length ≤ 255
      omega
    · exact rest.uncut part member

theorem segmented_segments (more : Nat) :
    ∀ data : Bytes, continuations data = more → Segmented data (segments more data) := by
  induction more with
  | zero =>
    intro data none_left
    exact segmented_of_short (short_of_continuations none_left)
  | succ more ih =>
    intro data more_left
    obtain ⟨long, fewer⟩ := long_of_continuations more_left
    exact Segmented.cons long (ih (data.drop Response.capacity) fewer)

theorem segmented_parts (data : Bytes) : Segmented data (parts data) :=
  segmented_segments (continuations data) data rfl

/-! ## What is left to send -/

/-- The parts that have not been sent. -/
def unsentParts (outgoing : Outgoing) : List Response :=
  if outgoing.unsent = [] then [] else parts outgoing.unsent

/-- What is sent next and what is left then are the head and the tail of the parts. -/
theorem next_parts (data : Bytes) :
    (Outgoing.next ⟨data⟩).1 :: unsentParts (Outgoing.next ⟨data⟩).2 = parts data := by
  by_cases long : Response.capacity < data.length
  · have some_left : data.drop Response.capacity ≠ [] := by
      rw [Ne, List.drop_eq_nil_iff]
      omega
    rw [next_of_long long, parts_of_long long, unsentParts, if_neg some_left]
  · have short : data.length ≤ Response.capacity := Nat.not_lt.mp long
    rw [next_of_short short, parts_of_short short]
    rfl

/-- GET RESPONSE sends the next of the parts that are left, if there is one. -/
theorem next_unsentParts (outgoing : Outgoing) :
    outgoing.next.1 = (unsentParts outgoing).headD .ok ∧
      unsentParts outgoing.next.2 = (unsentParts outgoing).tail := by
  obtain ⟨data⟩ := outgoing
  have sends := next_parts data
  by_cases none_left : data = []
  · subst none_left
    exact ⟨rfl, rfl⟩
  · rw [unsentParts, if_neg none_left, ← sends]
    exact ⟨rfl, rfl⟩

/-! ## What a command leaves of the transfer -/

section Transfer

variable {env : Environment} {cmd : Command} {memory memory' : Memory} {kept' : Persistent}

/-- The chain and the response in progress are as before or dropped, and memory is as stale as
before. -/
structure SameTransfer (memory memory' : Memory) : Prop where
  stale : memory'.stale = memory.stale
  chain : memory'.chain = memory.chain ∨ memory'.chain = memory.chain.reset
  outgoing : memory'.outgoing = memory.outgoing ∨ memory'.outgoing = .empty

theorem SameTransfer.of_frame {secrets : Secrets} {security : Security} {keys : KeySlots}
    {objects : DataObjects} {terminated : Bool}
    (frame : memory' = { memory with secrets, security, keys, objects, terminated }) :
    SameTransfer memory memory' := by
  subst frame
  exact ⟨rfl, .inl rfl, .inl rfl⟩

theorem Writes.sameTransfer {value : Bytes} {object : DataObject} {r : Except CardError Unit}
    (h : Writes memory value object r memory' kept') : SameTransfer memory memory' := by
  cases h with
  | status saved | stored _ saved => cases saved <;> exact .of_frame rfl
  | _ => exact .of_frame rfl

theorem MakesFactory.sameTransfer {r : Except StoreError Unit}
    (h : MakesFactory memory r memory' kept') : SameTransfer memory memory' := by
  cases h with
  | refused => exact .of_frame rfl
  | done => exact ⟨rfl, .inr rfl, .inr rfl⟩

theorem Executes.sameTransfer {r : Except CardError Bytes}
    (h : Executes env cmd memory r memory' kept') : SameTransfer memory memory' := by
  cases h with
  | setsRetries _ _ _ sets =>
    obtain ⟨_, _, _, _, rfl, _⟩ := sets.frame
    exact .of_frame rfl
  | puts _ _ _ _ _ writes => exact writes.sameTransfer
  | terminates _ _ saved => cases saved <;> exact .of_frame rfl
  | activates _ _ makes => exact makes.sameTransfer
  | _ => exact .of_frame rfl

end Transfer

/-! ## Steps -/

section Steps

variable {σ : Type} [Backend σ]

/-- A frame carries a command. -/
def carriesCommand (frame : Bytes) : Bool := (Command.ofFrame? frame).isOk

/-- A frame is a GET RESPONSE that is no segment of a chain. -/
def AsksForMore (frame : Bytes) : Prop :=
  ∃ cmd, Command.ofFrame? frame = .ok cmd ∧ cmd.instruction = .getResponse ∧ cmd.isChained = false

namespace Step

/-- The answer to the frame. -/
def answer (step : Step σ) : Bytes := (process step.env step.frame step.card).1

/-- A command is carried out, ends with a card and returns some data. -/
def Returns (step : Step σ) (data : Bytes) (final : Card σ) : Prop :=
  ∃ ready whole, step.Carries ready whole ∧ whole.instruction ≠ .getResponse ∧
    (ready.memory.terminated = false ∨ whole.instruction = .activate) ∧
    dispatch step.env whole (begun ready) = .ok data final

end Step

/-- How many of some frames carry a command. -/
def commandCount (frames : List (Environment × Bytes)) : Nat :=
  frames.countP fun input => carriesCommand input.2

/-- The answers to those of some frames that carry a command. -/
def answersToCommands (frames : List (Environment × Bytes)) (card : Card σ) : List Bytes :=
  ((history frames card).filter fun step => carriesCommand step.frame).map Step.answer

/-- GET RESPONSE is answered with the next part. -/
theorem process_of_asksForMore {card : Card σ} {frame : Bytes} (listens : Listens card)
    (asks : AsksForMore frame) (env : Environment) :
    process env frame card = (card.memory.outgoing.next.1.toFrame,
      card.withOutgoing card.memory.outgoing.next.2) := by
  obtain ⟨cmd, parses, more, unchained⟩ := asks
  have passes : cmd.instruction ≠ .select ∧ cmd.instruction ≠ .invalidate := by
    rw [more]
    decide
  have carries : Step.Carries ⟨env, frame, card⟩ card cmd :=
    Step.carries_of_idle parses unchained passes (ready?_of_fresh listens.fresh) listens.idle
  have kept : card.memory.chain.reset = card.memory.chain := reset_of_idle listens.idle
  rw [process_of_completes carries.1 carries.2, kept, execute_getResponse more listens.active]
  rfl

section Commands

variable {env : Environment} {frame : Bytes} {inputs : List (Environment × Bytes)} {card : Card σ}

/-- A frame that carries no command leaves the card as it is, and its answer does not count. -/
theorem answersToCommands_of_rejected (rejected : carriesCommand frame = false) :
    answersToCommands ((env, frame) :: inputs) card = answersToCommands inputs card := by
  have unchanged : (process env frame card).2 = card := by
    cases parses : Command.ofFrame? frame with
    | ok cmd =>
      rw [carriesCommand, parses] at rejected
      cases rejected
    | error e => simp only [process, parses]
  simp only [answersToCommands, history, List.filter_cons, rejected, unchanged]
  rfl

theorem answersToCommands_of_carried (carried : carriesCommand frame = true) :
    answersToCommands ((env, frame) :: inputs) card =
      (process env frame card).1 :: answersToCommands inputs (process env frame card).2 := by
  simp only [answersToCommands, history, List.filter_cons, carried, ↓reduceIte, List.map_cons]
  rfl

theorem commandCount_of_rejected (rejected : carriesCommand frame = false) :
    commandCount ((env, frame) :: inputs) = commandCount inputs :=
  List.countP_cons_of_neg (by simp [rejected])

theorem commandCount_of_carried (carried : carriesCommand frame = true) :
    commandCount ((env, frame) :: inputs) = commandCount inputs + 1 :=
  List.countP_cons_of_pos carried

end Commands

theorem take_append_replicate {α : Type} (owed : List α) (nothing : α) (count : Nat) :
    (owed ++ List.replicate (count + 1) nothing).take (count + 1) =
      owed.headD nothing :: (owed.tail ++ List.replicate count nothing).take count := by
  cases owed with
  | nil => simp [List.replicate_succ]
  | cons part owed =>
    simp only [List.cons_append, List.take_succ_cons, List.headD_cons, List.tail_cons]
    rw [List.take_append, List.take_append, List.take_replicate, List.take_replicate]
    congr 2
    congr 1
    omega

/-- A card answers GET RESPONSE frames with the parts that are left, one after another, and with
nothing after them.  Frames that carry no command do not count. -/
theorem answers_of_owes (inputs : List (Environment × Bytes)) :
    ∀ {card : Card σ}, Listens card →
      (∀ input ∈ inputs, carriesCommand input.2 = true → AsksForMore input.2) →
      answersToCommands inputs card =
        ((unsentParts card.memory.outgoing ++
          List.replicate (commandCount inputs) Response.ok).take (commandCount inputs)).map
            Response.toFrame := by
  induction inputs with
  | nil =>
    intro card _ _
    rfl
  | cons input inputs ih =>
    intro card listens only
    obtain ⟨env, frame⟩ := input
    have later : ∀ input ∈ inputs, carriesCommand input.2 = true → AsksForMore input.2 :=
      fun input member => only input (List.mem_cons_of_mem _ member)
    cases carried : carriesCommand frame with
    | false =>
      rw [answersToCommands_of_rejected carried, commandCount_of_rejected carried]
      exact ih listens later
    | true =>
      have asks : AsksForMore frame := only (env, frame) List.mem_cons_self carried
      have processed := process_of_asksForMore listens asks env
      obtain ⟨sent, left⟩ := next_unsentParts card.memory.outgoing
      have next : Listens (card.withOutgoing card.memory.outgoing.next.2) :=
        ⟨listens.fresh, listens.active, listens.idle⟩
      have answers := ih next later
      rw [answersToCommands_of_carried carried, commandCount_of_carried carried,
        take_append_replicate, List.map_cons, ← sent, ← left, processed, answers]
      rfl

end Steps

/-! ## Responses of commands -/

variable {env : Environment} {frame data : Bytes}

/-- Where a command returns some data, the frame is answered with the first part of them, and the
card has the rest. -/
theorem Step.Returns.processed {σ : Type} [Backend σ] {card final : Card σ}
    (returns : Step.Returns ⟨env, frame, card⟩ data final) :
    process env frame card =
      ((Outgoing.send data).1.toFrame, final.withOutgoing (Outgoing.send data).2) := by
  obtain ⟨ready, whole, carries, other, live, ended⟩ := returns
  have leads : (dispatch env whole).Leads (begun ready) fun r after =>
      r = .ok data ∧ after = final := (leads_of_eq ended).mpr ⟨rfl, rfl⟩
  obtain ⟨r, after, ⟨rfl, rfl⟩, processed⟩ := process_of_carries carries other live leads
  exact processed

/-- A command that returns leaves memory that is not stale and nothing in the chain. -/
theorem Step.Returns.settled {card final : Card FlakyStore} (sound : SoundOn False card)
    (returns : Step.Returns ⟨env, frame, card⟩ data final) :
    final.memory.stale = false ∧ final.memory.chain.pending = none := by
  obtain ⟨ready, whole, carries, -, -, ended⟩ := returns
  have holds : Holds (begun ready).store.inner (begun ready).memory.persistent :=
    (holds_ready sound carries.1).1
  obtain ⟨kept', -, executes⟩ :=
    (dispatch_durably env whole (begun ready).memory (begun ready).store holds).of_ok ended
  obtain ⟨stale, chain, -⟩ := executes.sameTransfer
  refine ⟨stale.trans (store_ready carries.1).1, ?_⟩
  rcases chain with same | dropped
  · rw [same]
    rfl
  · rw [dropped]
    rfl

/-- The data that a command returns arrive in full: the answer to its frame and to the GET RESPONSE
frames after it are the parts of these data, however long they are, and nothing comes after the last
part.  Frames that carry no command do not disturb the transfer. -/
theorem response_complete {outside : Environment → Prop} {card final : Card FlakyStore}
    (reached : Reached outside (.on card)) (returns : Step.Returns ⟨env, frame, card⟩ data final)
    (active : final.memory.terminated = false) :
    ∃ parts, Segmented data parts ∧ ∀ inputs : List (Environment × Bytes),
      (∀ input ∈ inputs, carriesCommand input.2 = true → AsksForMore input.2) →
      answersToCommands ((env, frame) :: inputs) card =
        ((parts ++ List.replicate (commandCount inputs) Response.ok).take
          (commandCount inputs + 1)).map Response.toFrame := by
  refine ⟨parts data, segmented_parts data, fun inputs only => ?_⟩
  have sound : SoundOn False card := sound_of_reached nofun reached
  obtain ⟨fresh, idle⟩ := returns.settled sound
  have listens : Listens (final.withOutgoing (Outgoing.send data).2) := ⟨fresh, active, idle⟩
  have carried : carriesCommand frame = true := by
    obtain ⟨_, _, ⟨-, _, _, parses, -⟩, -⟩ := returns
    rw [carriesCommand, parses]
    rfl
  have sends : (Outgoing.send data).1 :: unsentParts (Outgoing.send data).2 = parts data :=
    next_parts data
  rw [answersToCommands_of_carried carried, returns.processed, answers_of_owes inputs listens only,
    ← sends, List.cons_append, List.take_succ_cons, List.map_cons]
  rfl

/-- A certificate that is one byte too long for one frame. -/
def longCertificate : Bytes := List.replicate 256 0x5A

theorem length_longCertificate : longCertificate.length = 256 := List.length_replicate

/-- VERIFY of PW3, and PUT DATA of the certificate in two segments. -/
def certificateFrames : List (Environment × Bytes) :=
  [(.ofSeed [] 0, adminFrame),
    (.ofSeed [] 0, [0x10, 0xDA, 0x7F, 0x21, 0xFF] ++ longCertificate.take 255),
    (.ofSeed [] 0, [0x00, 0xDA, 0x7F, 0x21, 0x01] ++ longCertificate.drop 255)]

/-- A new card once it has the certificate. -/
def certificateCard : Card FlakyStore := (run certificateFrames (newCard fun _ => false)).2

/-- GET DATA of the certificate. -/
def certificateFrame : Bytes := [0x00, 0xCA, 0x7F, 0x21, 0x00]

/-- The command of this frame. -/
def certificateCommand : Command :=
  { cla := 0x00, ins := 0xCA, p1 := 0x7F, p2 := 0x21, le := some 0 }

/-- It is carried out on a card that has no chain in progress, and returns the certificate. -/
theorem returns_certificate {card : Card FlakyStore} (fresh : card.memory.stale = false)
    (active : card.memory.terminated = false) (idle : card.memory.chain.pending = none)
    (env : Environment) :
    Step.Returns ⟨env, certificateFrame, card⟩ card.memory.objects.certificate (begun card) := by
  have carries : Step.Carries ⟨env, certificateFrame, card⟩ card certificateCommand :=
    Step.carries_of_idle rfl rfl (by decide) (ready?_of_fresh fresh) idle
  have reads : Reads (begun card).memory certificateCommand .certificate :=
    ⟨rfl, by decide, .always, rfl, rfl⟩
  exact ⟨card, _, carries, by decide, .inl active, getData_returns reads rfl⟩

/-- GET DATA of the certificate, as a step. -/
def certificateStep : Step FlakyStore := ⟨.ofSeed [] 0, certificateFrame, certificateCard⟩

theorem reached_certificateCard : Reached (fun _ => True) (.on certificateCard) :=
  reached_run (fun _ _ => trivial) (reached_newCard _)

theorem certificateStep_returns :
    certificateStep.Returns longCertificate (begun certificateCard) := by
  have found : certificateCard.memory.stale = false ∧ certificateCard.memory.terminated = false ∧
      certificateCard.memory.chain.pending = none ∧
      certificateCard.memory.objects.certificate = longCertificate := by
    decide +kernel
  obtain ⟨fresh, active, idle, shown⟩ := found
  rw [← shown]
  exact returns_certificate fresh active idle _

theorem response_complete_certificate :
    certificateStep.Returns longCertificate (begun certificateCard) ∧
      longCertificate.length = 256 ∧
      ∃ parts, Segmented longCertificate parts ∧ parts.length = 2 ∧
        answersToCommands [(.ofSeed [] 0, certificateFrame), (.ofSeed [] 0, [0x00, 0xC0]),
          (.ofSeed [] 0, moreFrame), (.ofSeed [] 0, moreFrame)] certificateCard =
            (parts ++ [Response.ok]).map Response.toFrame := by
  have active : (begun certificateCard).memory.terminated = false := by decide +kernel
  have asks : ∀ input ∈ [(Environment.ofSeed [] 0, [0x00, 0xC0]), (.ofSeed [] 0, moreFrame),
      (.ofSeed [] 0, moreFrame)], carriesCommand input.2 = true → AsksForMore input.2 := by
    have more : AsksForMore moreFrame := ⟨moreCommand, rfl, by decide, by decide⟩
    intro input member carried
    simp only [List.mem_cons, List.not_mem_nil, or_false] at member
    rcases member with rfl | rfl | rfl
    · cases carried
    · exact more
    · exact more
  obtain ⟨parts, segmented, answers⟩ :=
    response_complete reached_certificateCard certificateStep_returns active
  have two : parts.length = 2 := by
    rw [segmented.count, length_longCertificate]
    decide
  refine ⟨certificateStep_returns, length_longCertificate, parts, segmented, two, ?_⟩
  have answers := answers _ asks
  match parts, two with
  | [_, _], _ => exact answers

end PgpCard.Card
