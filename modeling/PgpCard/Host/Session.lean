import PgpCard.Card.Process

/-!
# Serving a stream

A host talks to the card over a stream of bytes.  What one read delivers is one frame, and each
frame is answered with one write.

* `StreamFailure` is what a session has to know of the failures of a stream: which of them are
  interruptions.  All others are reported as they are, so a session may run over any failures.
* `Stream` is a script of what the reads deliver and which writes fail.
* `serve` answers frames until the stream ends or breaks.
-/

set_option autoImplicit false

namespace PgpCard

/-- Failures of which some are interruptions.  What was interrupted is tried again. -/
class StreamFailure (ε : Type) where
  isInterruption : ε → Bool

/-- Failures of a stream by their kind. -/
inductive StreamError
  | interrupted
  | connectionReset
  | connectionAborted
  | timedOut
  | unexpectedEnd
  | brokenPipe
  deriving DecidableEq, Repr

instance : StreamFailure StreamError := ⟨(· == .interrupted)⟩

/-- What is there to be read. -/
inductive Delivery (ε : Type := StreamError)
  /-- Some bytes; none at all mean the end of the stream. -/
  | bytes (data : Bytes)
  | failed (error : ε)
  deriving DecidableEq, Repr

/-- A stream given by what it delivers. -/
structure Stream (ε : Type := StreamError) where
  incoming : List (Delivery ε)
  /-- The write that fails, counted from one. -/
  failingWrite : Option Nat := none
  /-- Every flush fails, but for the first ones. -/
  flushFails : Bool := false
  /-- What was written, in order. -/
  written : List Bytes := []
  /-- What the write that fails reports. -/
  writeError : ε := by exact StreamError.brokenPipe
  /-- How many flushes succeed where the others fail. -/
  firstFlushes : Nat := 0
  /-- What a flush that fails reports. -/
  flushError : ε := by exact StreamError.connectionAborted
  deriving DecidableEq, Repr

/-- How a session ends. -/
inductive Ending (ε : Type := StreamError)
  | closed
  | broken (error : ε)
  deriving DecidableEq, Repr

namespace Stream

variable {ε : Type}

/-- The longest frame that one read takes from the stream. -/
def maxFrame : Nat := 1024

/-- What is there to be read after a frame was taken from some bytes. -/
def leftover (data : Bytes) (later : List (Delivery ε)) : List (Delivery ε) :=
  match data.drop maxFrame with
  | [] => later
  | more => .bytes more :: later

/-- How much there is to be read. -/
def weight : List (Delivery ε) → Nat
  | [] => 0
  | .bytes data :: later => data.length + 1 + weight later
  | .failed _ :: later => 1 + weight later

theorem weight_leftover_lt {data : Bytes} (later : List (Delivery ε)) (h : data ≠ []) :
    weight (leftover data later) < weight (.bytes data :: later) := by
  have hpos : 0 < data.length := List.length_pos_iff.2 h
  have hlen : (data.drop maxFrame).length = data.length - maxFrame := List.length_drop
  unfold leftover
  split
  · simp only [weight]
    omega
  · simp only [weight, maxFrame] at hlen ⊢
    omega

/-- The write of an answer fails if so many were written before.  A write that is only interrupted
is made again. -/
def refusesWrite [StreamFailure ε] (stream : Stream ε) (before : Nat) : Bool :=
  stream.failingWrite == some (before + 1) && !StreamFailure.isInterruption stream.writeError

/-- The flush of an answer fails if so many were written before. -/
def refusesFlush (stream : Stream ε) (before : Nat) : Bool :=
  stream.flushFails && decide (stream.firstFlushes ≤ before)

/-- Writes and flushes an answer. -/
def send [StreamFailure ε] (stream : Stream ε) (answer : Bytes) : Except ε Unit × Stream ε :=
  if stream.refusesWrite stream.written.length then (.error stream.writeError, stream)
  else
    let sent := { stream with written := stream.written ++ [answer] }
    if stream.refusesFlush stream.written.length then (.error stream.flushError, sent)
    else (.ok (), sent)

end Stream

variable {σ ε : Type} [Backend σ] [StreamFailure ε]

/-- Answers what is there to be read.  The environments are those of the frames in turn. -/
def serveFrom (environments : Nat → Environment) (incoming : List (Delivery ε))
    (stream : Stream ε) (card : Card σ) : Ending ε × Stream ε × Card σ :=
  match incoming with
  | [] => (.closed, { stream with incoming := [] }, card)
  | .failed error :: later =>
    if StreamFailure.isInterruption error then serveFrom environments later stream card
    else (.broken error, { stream with incoming := later }, card)
  | .bytes data :: later =>
    if h : data = [] then (.closed, { stream with incoming := later }, card)
    else
      have := Stream.weight_leftover_lt later h
      let (answer, card) := Card.process (environments 0) (data.take Stream.maxFrame) card
      match stream.send answer with
      | (.error error, stream) =>
        (.broken error, { stream with incoming := Stream.leftover data later }, card)
      | (.ok (), stream) =>
        serveFrom (fun n => environments (n + 1)) (Stream.leftover data later) stream card
termination_by Stream.weight incoming
decreasing_by
  · simp only [Stream.weight]; omega
  · assumption

/-- Serves one session. -/
def serve (environments : Nat → Environment) (stream : Stream ε) (card : Card σ) :
    Ending ε × Stream ε × Card σ :=
  serveFrom environments stream.incoming stream card

end PgpCard
