import PgpCard.Proofs.Card.Carried
import PgpCard.Proofs.Card.Stale

/-!
# A response is fetched in full

A response that does not fit in one frame is fetched with GET RESPONSE.

* `Delivers` : answers that bring some data one after another, each but the last announcing what the
  next one brings;
* `delivers_next` : GET RESPONSE delivers what is left of a response, part by part;
* `Fetched` : a frame and the GET RESPONSE frames that its answer asks for bring some data;
  `Step.fetched_of_carries` says that the data which a command returns are fetched in this way.
-/

set_option autoImplicit false

namespace PgpCard.Card

open Attempt

variable {σ : Type} [Backend σ]

/-- Answers that bring some data one after another.  All but the last are full and announce how much
the next one brings; the last reports success. -/
inductive Delivers : List Bytes → Bytes → Prop
  | last {data : Bytes} (short : data.length ≤ Response.capacity) :
    Delivers [(Response.success data).toFrame] data
  | more {part rest : Bytes} {answers : List Bytes} {next : UInt8}
    (full : part.length = Response.capacity) (unsent : rest ≠ [])
    (announced : next.toNat = min rest.length Response.capacity)
    (follow : Delivers answers rest) :
    Delivers ((Response.moreData part next).toFrame :: answers) (part ++ rest)

/-- How many GET RESPONSE frames fetch what the first answer to some data leaves. -/
def continuations (data : Bytes) : Nat := (data.length - 1) / Response.capacity

/-- GET RESPONSE. -/
def moreFrame : Bytes := [0x00, 0xC0, 0x00, 0x00]

/-- The card is ready for GET RESPONSE: it takes commands, and no chain is in progress. -/
structure Listens (card : Card σ) : Prop where
  fresh : card.memory.stale = false
  active : card.memory.terminated = false
  idle : card.memory.chain.pending = none

/-- The command of a GET RESPONSE frame. -/
def moreCommand : Command := { cla := 0x00, ins := 0xC0, p1 := 0x00, p2 := 0x00 }

theorem execute_getResponse {card : Card σ} {cmd : Command} (more : cmd.instruction = .getResponse)
    (active : card.memory.terminated = false) (env : Environment) :
    execute env cmd card =
      (card.memory.outgoing.next.1, card.withOutgoing card.memory.outgoing.next.2) := by
  unfold execute
  rw [if_pos more, if_neg (by simp [active])]

theorem process_moreFrame {card : Card σ} (listens : Listens card) (env : Environment) :
    process env moreFrame card = (card.memory.outgoing.next.1.toFrame,
      card.withOutgoing card.memory.outgoing.next.2) := by
  have carries : Step.Carries ⟨env, moreFrame, card⟩ card moreCommand := by
    refine Step.carries_of_idle rfl (by decide) (by decide) (ready?_of_fresh listens.fresh) ?_
    exact listens.idle
  have kept : card.memory.chain.reset = card.memory.chain := reset_of_idle listens.idle
  rw [process_of_completes carries.1 carries.2, kept,
    execute_getResponse (by decide) listens.active]
  rfl

/-! ## Parts -/

theorem next_of_short {data : Bytes} (short : data.length ≤ Response.capacity) :
    Outgoing.next ⟨data⟩ = (.success data, .empty) := by
  simp only [Outgoing.next, List.drop_eq_nil_of_le short, List.take_of_length_le short]
  rfl

theorem next_of_long {data : Bytes} (long : Response.capacity < data.length) :
    Outgoing.next ⟨data⟩ =
      (.moreData (data.take Response.capacity)
        (UInt8.ofNat (min (data.drop Response.capacity).length Response.capacity)),
        ⟨data.drop Response.capacity⟩) := by
  have unsent : (data.drop Response.capacity).isEmpty = false := by
    rw [List.isEmpty_eq_false_iff, Ne, List.drop_eq_nil_iff]
    omega
  simp only [Outgoing.next, unsent]
  rfl

theorem short_of_continuations {data : Bytes} (none_left : continuations data = 0) :
    data.length ≤ Response.capacity := by
  have quotient : (data.length - 1) / 255 = 0 := none_left
  show data.length ≤ 255
  omega

/-- Where a GET RESPONSE is needed, the answers after the first are one less for what is left. -/
theorem long_of_continuations {data : Bytes} {count : Nat}
    (more : continuations data = count + 1) :
    Response.capacity < data.length ∧
      continuations (data.drop Response.capacity) = count := by
  have quotient : (data.length - 1) / 255 = count + 1 := more
  constructor
  · show 255 < data.length
    omega
  · rw [continuations, List.length_drop]
    show (data.length - 255 - 1) / 255 = count
    omega

/-- A response is delivered part by part by a card that has what is left after the first one. -/
theorem delivers_next (environments : List Environment) {card : Card σ} (listens : Listens card)
    {data : Bytes} (pending : card.memory.outgoing = (Outgoing.next ⟨data⟩).2)
    (enough : environments.length = continuations data) :
    Delivers ((Outgoing.next ⟨data⟩).1.toFrame ::
      (run (environments.map (·, moreFrame)) card).1) data := by
  induction environments generalizing card data with
  | nil =>
    have short := short_of_continuations enough.symm
    rw [next_of_short short]
    exact .last short
  | cons env rest ih =>
    obtain ⟨long, fewer⟩ := long_of_continuations enough.symm
    rw [next_of_long long] at pending ⊢
    rw [List.map_cons, run, process_moreFrame listens env, pending]
    have full : (data.take Response.capacity).length = Response.capacity :=
      List.length_take_of_le (Nat.le_of_lt long)
    have unsent : data.drop Response.capacity ≠ [] := by
      rw [Ne, List.drop_eq_nil_iff]
      exact Nat.not_le.mpr long
    have announced : (UInt8.ofNat (min (data.drop Response.capacity).length
        Response.capacity)).toNat = min (data.drop Response.capacity).length Response.capacity := by
      refine UInt8.toNat_ofNat_of_lt (Nat.lt_of_le_of_lt (Nat.min_le_right _ _) ?_)
      decide
    have next : Listens (card.withOutgoing (Outgoing.next ⟨data.drop Response.capacity⟩).2) :=
      ⟨listens.fresh, listens.active, listens.idle⟩
    have delivers := Delivers.more full unsent announced (ih next rfl fewer.symm)
    rwa [List.take_append_drop] at delivers

/-! ## Fetching -/

/-- The answers to a frame, and to the GET RESPONSE frames that fetch what it leaves, bring some
data. -/
def Fetched (env : Environment) (frame : Bytes) (card : Card σ) (data : Bytes) : Prop :=
  ∀ environments : List Environment, environments.length = continuations data →
    Delivers (run ((env, frame) :: environments.map (·, moreFrame)) card).1 data

/-- The data that a command returns are fetched by the frame that makes it whole and the GET RESPONSE
frames after it. -/
theorem Step.fetched_of_carries {step : Step FlakyStore} {ready : Card FlakyStore}
    {whole : Command} (carries : step.Carries ready whole)
    (other : whole.instruction ≠ .getResponse) (active : ready.memory.terminated = false)
    {data : Bytes} (returns : dispatch step.env whole (begun ready) = .ok data (begun ready)) :
    Fetched step.env step.frame step.card data := by
  intro environments enough
  have leads : (dispatch step.env whole).Leads (begun ready) fun r final =>
      r = .ok data ∧ final = begun ready := (leads_of_eq returns).mpr ⟨rfl, rfl⟩
  obtain ⟨r, final, ⟨rfl, rfl⟩, processed⟩ := process_of_carries carries other (.inl active) leads
  obtain ⟨fresh, -⟩ := store_ready carries.1
  have next : Listens (⟨conclude (.ok data) (begun ready).memory, (begun ready).store⟩ :
      Card FlakyStore) := ⟨fresh, active, rfl⟩
  rw [run, processed]
  exact delivers_next environments next rfl enough

end PgpCard.Card
