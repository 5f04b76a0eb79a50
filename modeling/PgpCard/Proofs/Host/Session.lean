import PgpCard.Host.Session
import PgpCard.Proofs.Card.Stale

/-!
# A session is a run of the card

What a session answers is what the card answers to the frames that are read, one after another, as
far as answers can be sent.  The failures of the stream may be of any type that tells interruptions
from others.

* `Stream.frames`, `Stream.ending`, `Stream.afterFrames` : the frames of a script, how it ends, and
  what is left of it once some frames were read;
* `Stream.failure?` : what the sending of an answer comes to; a stream is `Sound` if none fails;
* `serveFrom_of_sound`, `serveFrom_of_failure` : a session in which every answer is sent, and one in
  which an answer is the first that is not;
* `serveFrom_quiet` : interrupted reads have no effect;
* `serveAll_of_sound` : sessions one after another;
* `serve_folds_process` : all of it together.
-/

set_option autoImplicit false

namespace PgpCard

namespace Stream

variable {ε : Type} [StreamFailure ε]

/-! ## Scripts -/

/-- The frames that reads deliver until the stream ends or breaks. -/
def frames (incoming : List (Delivery ε)) : List Bytes :=
  match incoming with
  | [] => []
  | .failed error :: later => if StreamFailure.isInterruption error then frames later else []
  | .bytes data :: later =>
    if h : data = [] then []
    else
      have := weight_leftover_lt later h
      data.take maxFrame :: frames (leftover data later)
termination_by weight incoming
decreasing_by
  · simp only [weight]; omega
  · assumption

/-- How the reads end, and what is there to be read then. -/
def ending : List (Delivery ε) → Ending ε × List (Delivery ε)
  | [] => (.closed, [])
  | .failed error :: later =>
    if StreamFailure.isInterruption error then ending later else (.broken error, later)
  | .bytes data :: later => if data = [] then (.closed, later) else ending later

/-- What is there to be read after the next frame. -/
def afterFrame {ε : Type} : List (Delivery ε) → List (Delivery ε)
  | [] => []
  | .failed _ :: later => afterFrame later
  | .bytes data :: later => leftover data later

/-- What is there to be read after some frames. -/
def afterFrames {ε : Type} : Nat → List (Delivery ε) → List (Delivery ε)
  | 0, incoming => incoming
  | n + 1, incoming => afterFrames n (afterFrame incoming)

/-- The script without its interruptions. -/
def quiet (incoming : List (Delivery ε)) : List (Delivery ε) :=
  incoming.filter fun delivery =>
    match delivery with
    | .failed error => !StreamFailure.isInterruption error
    | .bytes _ => true

/-- The stream without the interruptions that are still to come. -/
def hush (stream : Stream ε) : Stream ε := { stream with incoming := quiet stream.incoming }

variable {data : Bytes} {later : List (Delivery ε)}

/-- Bytes that fit a read are one frame. -/
theorem frames_bytes (some : data ≠ []) (fits : data.length ≤ maxFrame)
    (later : List (Delivery ε)) :
    frames (.bytes data :: later) = data :: frames later := by
  have none_left : leftover data later = later := by
    rw [leftover, List.drop_eq_nil_of_le fits]
  rw [frames, dif_neg some, List.take_of_length_le fits]
  exact congrArg (data :: frames ·) none_left

/-- What is there to be read after a frame are the frames after it. -/
theorem frames_afterFrame {incoming : List (Delivery ε)} (read : frames incoming ≠ []) :
    frames (afterFrame incoming) = (frames incoming).tail := by
  induction incoming with
  | nil => exact absurd (by rw [frames]) read
  | cons delivery later ih =>
    cases delivery with
    | failed error =>
      rw [frames] at read ⊢
      split at read
      · rename_i interrupted
        rw [if_pos interrupted]
        exact ih read
      · exact absurd rfl read
    | bytes data =>
      rw [frames] at read ⊢
      split at read
      · exact absurd rfl read
      · rename_i some
        rw [dif_neg some]
        rfl

theorem frames_afterFrames {n : Nat} {incoming : List (Delivery ε)}
    (read : n ≤ (frames incoming).length) :
    frames (afterFrames n incoming) = (frames incoming).drop n := by
  induction n generalizing incoming with
  | zero => rfl
  | succ n ih =>
    have first : frames incoming ≠ [] := List.ne_nil_of_length_pos (by omega)
    have others := frames_afterFrame first
    rw [afterFrames, ih (by rw [others, List.length_tail]; omega), others, List.drop_tail]

theorem ending_leftover (data : Bytes) (later : List (Delivery ε)) :
    ending (leftover data later) = ending later := by
  unfold leftover
  split
  · rfl
  · rename_i more left
    exact if_neg left

theorem quiet_leftover (data : Bytes) (later : List (Delivery ε)) :
    quiet (leftover data later) = leftover data (quiet later) := by
  unfold leftover
  split <;> rfl

/-! ## Sending -/

/-- What is reported where an answer cannot be sent, if so many were written before. -/
def failure? (stream : Stream ε) (before : Nat) : Option ε :=
  if stream.refusesWrite before then some stream.writeError
  else if stream.refusesFlush before then some stream.flushError
  else none

/-- Every answer of the session can be sent. -/
def Sound (stream : Stream ε) : Prop :=
  ∀ n < (frames stream.incoming).length, stream.failure? (stream.written.length + n) = none

variable {stream : Stream ε} {answer : Bytes} {error : ε}

/-- Once an answer was sent, the next write is the one after it. -/
theorem refusesWrite_sent (stream : Stream ε) (answer : Bytes) (n : Nat) :
    { stream with written := stream.written ++ [answer] }.refusesWrite
      ((stream.written ++ [answer]).length + n) =
    stream.refusesWrite (stream.written.length + (n + 1)) := by
  rw [List.length_append, List.length_singleton, Nat.add_assoc, Nat.add_comm 1 n]
  rfl

theorem failure?_sent (stream : Stream ε) (answer : Bytes) (n : Nat) :
    { stream with written := stream.written ++ [answer] }.failure?
      ((stream.written ++ [answer]).length + n) =
    stream.failure? (stream.written.length + (n + 1)) := by
  rw [List.length_append, List.length_singleton, Nat.add_assoc, Nat.add_comm 1 n]
  rfl

theorem send_of_none (sound : stream.failure? stream.written.length = none) :
    stream.send answer = (.ok (), { stream with written := stream.written ++ [answer] }) := by
  unfold failure? at sound
  unfold send
  split at sound
  · cases sound
  · rename_i written
    split at sound
    · cases sound
    · rename_i flushed
      rw [if_neg written, if_neg flushed]

theorem send_of_some (fails : stream.failure? stream.written.length = some error) :
    stream.send answer = (.error error, { stream with
      written := stream.written ++
        if stream.refusesWrite stream.written.length then [] else [answer] }) := by
  unfold failure? at fails
  unfold send
  split at fails
  · rename_i refused
    cases fails
    rw [if_pos refused, if_pos refused, List.append_nil]
  · rename_i written
    split at fails
    · rename_i refused
      cases fails
      rw [if_neg written, if_neg written, if_pos refused]
    · cases fails

theorem send_hush (stream : Stream ε) (answer : Bytes) :
    stream.hush.send answer = Prod.map id hush (stream.send answer) := by
  unfold send
  by_cases unwritten : stream.refusesWrite stream.written.length
  · rw [if_pos unwritten]
    exact if_pos unwritten
  · rw [if_neg unwritten]
    refine (if_neg unwritten).trans ?_
    by_cases unflushed : stream.refusesFlush stream.written.length
    · rw [if_pos unflushed]
      exact if_pos unflushed
    · rw [if_neg unflushed]
      exact if_neg unflushed

end Stream

/-! ## Frames in time -/

/-- Frames with the environments that they are processed in. -/
def timed (environments : Nat → Environment) (frames : List Bytes) :
    List (Environment × Bytes) :=
  frames.mapIdx fun n frame => (environments n, frame)

section Timed

variable (environments : Nat → Environment)

theorem timed_cons (frame : Bytes) (frames : List Bytes) :
    timed environments (frame :: frames) =
      (environments 0, frame) :: timed (fun n => environments (n + 1)) frames :=
  List.mapIdx_cons

theorem timed_append (frames more : List Bytes) :
    timed environments (frames ++ more) =
      timed environments frames ++ timed (fun n => environments (n + frames.length)) more :=
  List.mapIdx_append

theorem length_timed (frames : List Bytes) : (timed environments frames).length = frames.length :=
  List.length_mapIdx

end Timed

variable {σ ε : Type} [Backend σ] [StreamFailure ε]

namespace Card

/-- There is one answer for each frame. -/
theorem length_run (steps : List (Environment × Bytes)) (card : Card σ) :
    (run steps card).1.length = steps.length := by
  induction steps generalizing card with
  | nil => rfl
  | cons step rest ih => exact congrArg (· + 1) (ih _)

theorem run_append (steps more : List (Environment × Bytes)) (card : Card σ) :
    run (steps ++ more) card =
      ((run steps card).1 ++ (run more (run steps card).2).1, (run more (run steps card).2).2) := by
  induction steps generalizing card with
  | nil => rfl
  | cons step rest ih =>
    obtain ⟨env, frame⟩ := step
    simp only [List.cons_append, run, ih]

end Card

/-! ## One session -/

section Session

variable {environments : Nat → Environment} {incoming : List (Delivery ε)} {stream : Stream ε}
  {card : Card σ} {error : ε}

theorem serveFrom_of_error (other : ¬ StreamFailure.isInterruption error = true)
    (later : List (Delivery ε)) :
    serveFrom environments (.failed error :: later) stream card =
      (.broken error, { stream with incoming := later }, card) := by
  rw [serveFrom, if_neg other]

/-- An answer that can be sent is sent, and the session goes on. -/
theorem serveFrom_of_sent {data : Bytes} {later : List (Delivery ε)} (some : data ≠ [])
    (sent : stream.failure? stream.written.length = none) :
    serveFrom environments (.bytes data :: later) stream card =
      serveFrom (fun n => environments (n + 1)) (Stream.leftover data later)
        { stream with written := stream.written ++
          [(Card.process (environments 0) (data.take Stream.maxFrame) card).1] }
        (Card.process (environments 0) (data.take Stream.maxFrame) card).2 := by
  rw [serveFrom, dif_neg some]
  simp only [Stream.send_of_none sent]

/-- An answer that cannot be sent ends the session. -/
theorem serveFrom_of_unsent {data : Bytes} {later : List (Delivery ε)} (some : data ≠ [])
    (fails : stream.failure? stream.written.length = .some error) :
    serveFrom environments (.bytes data :: later) stream card =
      (.broken error, { stream with
        incoming := Stream.leftover data later
        written := stream.written ++ if stream.refusesWrite stream.written.length then [] else
          [(Card.process (environments 0) (data.take Stream.maxFrame) card).1] },
        (Card.process (environments 0) (data.take Stream.maxFrame) card).2) := by
  rw [serveFrom, dif_neg some]
  simp only [Stream.send_of_some fails]

/-- A session in which every answer can be sent writes what the card answers to the frames. -/
theorem serveFrom_of_sound (environments : Nat → Environment) (card : Card σ)
    (sound : ∀ n < (Stream.frames incoming).length,
      stream.failure? (stream.written.length + n) = none) :
    serveFrom environments incoming stream card =
      ((Stream.ending incoming).1, { stream with
        incoming := (Stream.ending incoming).2
        written := stream.written ++
          (Card.run (timed environments (Stream.frames incoming)) card).1 },
        (Card.run (timed environments (Stream.frames incoming)) card).2) := by
  -- on the frames: each of them leaves a stream on which the later ones can be answered
  fun_induction Stream.frames incoming generalizing environments stream card with
  | case1 =>
    rw [serveFrom]
    simp [timed, Card.run, Stream.ending]
  | case2 e later interrupted ih =>
    rw [serveFrom, if_pos interrupted, Stream.ending, if_pos interrupted]
    exact ih environments card sound
  | case3 e later other =>
    rw [serveFrom_of_error other, Stream.ending, if_neg other]
    simp [timed, Card.run]
  | case4 later =>
    rw [serveFrom, dif_pos rfl]
    simp [timed, Card.run, Stream.ending]
  | case5 data later some _ ih =>
    have first : stream.failure? stream.written.length = none := sound 0 (Nat.zero_lt_succ _)
    have ends : Stream.ending (.bytes data :: later) = Stream.ending later := if_neg some
    rw [serveFrom_of_sent some first, ih, Stream.ending_leftover, ends, timed_cons]
    · simp only [Card.run, List.append_assoc, List.singleton_append]
    · intro n inside
      rw [Stream.failure?_sent]
      exact sound (n + 1) (Nat.succ_lt_succ inside)

/-- A session in which the answer to a frame is the first that cannot be sent ends with that
failure, and the card has processed the frames up to this one. -/
theorem serveFrom_of_failure {k : Nat} (read : k < (Stream.frames incoming).length)
    (before : ∀ n < k, stream.failure? (stream.written.length + n) = none)
    (fails : stream.failure? (stream.written.length + k) = some error) :
    serveFrom environments incoming stream card =
      (.broken error, { stream with
        incoming := Stream.afterFrames (k + 1) incoming
        written := stream.written ++
          (Card.run (timed environments (Stream.frames incoming)) card).1.take
            (if stream.refusesWrite (stream.written.length + k) then k else k + 1) },
        (Card.run ((timed environments (Stream.frames incoming)).take (k + 1)) card).2) := by
  fun_induction Stream.frames incoming generalizing environments stream card k with
  | case1 | case3 | case4 => exact absurd read (Nat.not_lt_zero k)
  | case2 e later interrupted ih =>
    rw [serveFrom, if_pos interrupted]
    exact ih read before fails
  | case5 data later some _ ih =>
    rw [timed_cons]
    cases k with
    | zero =>
      rw [serveFrom_of_unsent some fails]
      simp only [Nat.add_zero]
      split
      · simp [Card.run, Stream.afterFrames, Stream.afterFrame]
      · simp [Card.run, Stream.afterFrames, Stream.afterFrame]
    | succ k =>
      have first : stream.failure? stream.written.length = none := before 0 (Nat.zero_lt_succ k)
      rw [serveFrom_of_sent some first, ih (Nat.lt_of_succ_lt_succ read)]
      · simp only [Stream.refusesWrite_sent]
        split
        · simp [Card.run, Stream.afterFrames, Stream.afterFrame]
        · simp [Card.run, Stream.afterFrames, Stream.afterFrame]
      · intro n earlier
        rw [Stream.failure?_sent]
        exact before (n + 1) (Nat.succ_lt_succ earlier)
      · rw [Stream.failure?_sent]
        exact fails

/-- Interrupted reads have no effect. -/
theorem serveFrom_quiet (environments : Nat → Environment) (incoming : List (Delivery ε))
    (stream : Stream ε) (card : Card σ) :
    serveFrom environments (Stream.quiet incoming) stream.hush card =
      Prod.map id (Prod.map Stream.hush id) (serveFrom environments incoming stream card) := by
  fun_induction serveFrom environments incoming stream card with
  | case1 =>
    exact serveFrom.eq_def _ _ _ _
  | case2 environments stream card error later interrupted ih =>
    have unheard : Stream.quiet (.failed error :: later) = Stream.quiet later :=
      List.filter_cons_of_neg (by simpa using interrupted)
    rw [unheard]
    exact ih
  | case3 environments stream card error later other =>
    have heard : Stream.quiet (.failed error :: later) = .failed error :: Stream.quiet later :=
      List.filter_cons_of_pos (by simpa using other)
    rw [heard, serveFrom_of_error other]
    rfl
  | case4 environments stream card later => exact serveFrom.eq_def _ _ _ _
  | case5 environments stream card data later some _ answer card' processed error stream' unsent =>
    have heard : Stream.quiet (.bytes data :: later) = .bytes data :: Stream.quiet later := rfl
    rw [heard, serveFrom, dif_neg some]
    simp only [processed, Stream.send_hush, unsent, Prod.map, id, ← Stream.quiet_leftover]
    rfl
  | case6 environments stream card data later some _ answer card' processed stream' sent ih =>
    have heard : Stream.quiet (.bytes data :: later) = .bytes data :: Stream.quiet later := rfl
    rw [heard, serveFrom, dif_neg some]
    simp only [processed, Stream.send_hush, sent, Prod.map, id, ← Stream.quiet_leftover]
    exact ih

end Session

/-! ## Sessions one after another -/

/-- Serves sessions one after another on the same card.  The environments go on from one session to
the next. -/
def serveAll (environments : Nat → Environment) :
    List (Stream ε) → Card σ → List (Stream ε) × Card σ
  | [], card => ([], card)
  | stream :: rest, card =>
    let (_, served, card) := serve environments stream card
    let answered := served.written.length - stream.written.length
    let (others, final) := serveAll (fun n => environments (n + answered)) rest card
    (served :: others, final)

/-- Sessions in which every answer can be sent answer the frames of all of them in turn. -/
theorem serveAll_of_sound (environments : Nat → Environment) {sessions : List (Stream ε)}
    (card : Card σ) (sound : ∀ stream ∈ sessions, stream.written = [] ∧ stream.Sound) :
    ((serveAll environments sessions card).1.flatMap (·.written),
        (serveAll environments sessions card).2) =
      Card.run (timed environments (sessions.flatMap fun stream => Stream.frames stream.incoming))
        card := by
  induction sessions generalizing environments card with
  | nil => rfl
  | cons stream rest ih =>
    obtain ⟨⟨unwritten, first⟩, others⟩ := List.forall_mem_cons.mp sound
    have served : serve environments stream card = _ := serveFrom_of_sound environments card first
    have later := ih (fun n => environments (n + (Stream.frames stream.incoming).length))
      (Card.run (timed environments (Stream.frames stream.incoming)) card).2 others
    simp only [serveAll, served, unwritten, List.length_nil, Nat.sub_zero, List.nil_append,
      Card.length_run, length_timed, List.flatMap_cons, timed_append, Card.run_append, ← later]

/-- A session writes one answer for each frame that is read until the stream ends or breaks: what
the card answers to these frames, one after another.  It leaves the card that has processed them,
and interrupted reads have no effect.  Cutting the frames into sessions on the same card changes
neither the answers nor the card.  Where an answer is the first that cannot be sent, the session
ends with that failure, the card has processed the frames up to the one that was answered, and
nothing is read after it.  So it is for failures of any type, which are reported as they are. -/
theorem serve_folds_process (environments : Nat → Environment) (stream : Stream ε)
    (card : Card σ) :
    let steps := timed environments (Stream.frames stream.incoming)
    (stream.Sound →
      serve environments stream card =
        ((Stream.ending stream.incoming).1, { stream with
          incoming := (Stream.ending stream.incoming).2
          written := stream.written ++ (Card.run steps card).1 }, (Card.run steps card).2) ∧
      (Card.run steps card).1.length = (Stream.frames stream.incoming).length ∧
      (stream.written = [] → ∀ sessions : List (Stream ε),
        (∀ part ∈ sessions, part.written = [] ∧ part.Sound) →
        (sessions.flatMap fun part => Stream.frames part.incoming) =
          Stream.frames stream.incoming →
        (serveAll environments sessions card).1.flatMap (·.written) =
            (serve environments stream card).2.1.written ∧
          (serveAll environments sessions card).2 = (serve environments stream card).2.2)) ∧
    serve environments stream.hush card =
      Prod.map id (Prod.map Stream.hush id) (serve environments stream card) ∧
    ∀ k error, k < (Stream.frames stream.incoming).length →
      (∀ n < k, stream.failure? (stream.written.length + n) = none) →
      stream.failure? (stream.written.length + k) = some error →
      serve environments stream card =
          (.broken error, { stream with
            incoming := Stream.afterFrames (k + 1) stream.incoming
            written := stream.written ++ (Card.run steps card).1.take
              (if stream.refusesWrite (stream.written.length + k) then k else k + 1) },
            (Card.run (steps.take (k + 1)) card).2) ∧
        Stream.frames (Stream.afterFrames (k + 1) stream.incoming) =
          (Stream.frames stream.incoming).drop (k + 1) := by
  intro steps
  refine ⟨fun sound => ?_, serveFrom_quiet environments stream.incoming stream card,
    fun k error read before fails =>
      ⟨serveFrom_of_failure read before fails, Stream.frames_afterFrames read⟩⟩
  have served : serve environments stream card = _ := serveFrom_of_sound environments card sound
  refine ⟨served, by rw [Card.length_run, length_timed], fun unwritten sessions parts same => ?_⟩
  have together := serveAll_of_sound environments card parts
  rw [same] at together
  rw [served, unwritten, List.nil_append]
  exact Prod.mk.inj together

/-- A card that has never been used. -/
def unusedCard : Card MemoryStore := ⟨{ profile := .default }, .empty⟩

/-- A segment of GET VERSION. -/
def segmentFrame : Bytes := [0x10, 0xF1, 0x00, 0x00, 0x01, 0xAA]

/-- GET VERSION. -/
def versionFrame : Bytes := [0x00, 0xF1, 0x00, 0x00]

/-- The answers to the two frames. -/
def versionAnswers : List Bytes := [[0x90, 0x00], [0x01, 0x00, 0x12, 0x90, 0x00]]

/-- A command in two segments with an interruption before each, and a connection that is reset. -/
def resetScript : List Delivery :=
  [.failed .interrupted, .bytes segmentFrame, .failed .interrupted, .bytes versionFrame,
    .failed .connectionReset, .bytes versionFrame]

theorem frames_resetScript : Stream.frames resetScript = [segmentFrame, versionFrame] := by
  rw [resetScript, Stream.frames, Stream.frames_bytes (by decide) (by decide), Stream.frames,
    Stream.frames_bytes (by decide) (by decide), Stream.frames]
  rfl

theorem run_versionFrames (environments : Nat → Environment) :
    Card.run (timed environments [segmentFrame, versionFrame]) unusedCard =
      (versionAnswers, unusedCard) := by
  simp only [timed_cons, Card.run]
  rfl

/-- The chain that is open when the first session ends goes on in the second one. -/
theorem serve_folds_process_reset :
    let sound : Stream := { incoming := resetScript }
    let unsound : Stream :=
      { incoming := resetScript, failingWrite := some 2, writeError := .timedOut }
    let parts : List Stream :=
      [{ incoming := [.bytes segmentFrame] }, { incoming := [.bytes versionFrame, .bytes []] }]
    let environments := fun n => Environment.ofSeed [UInt8.ofNat n] 0
    sound.Sound ∧
      serve environments sound unusedCard = (.broken .connectionReset,
        { sound with incoming := [.bytes versionFrame], written := versionAnswers },
        unusedCard) ∧
      (∀ part ∈ parts, part.written = [] ∧ part.Sound) ∧
      (serveAll environments parts unusedCard).1.flatMap (·.written) = versionAnswers ∧
      unsound.failure? 0 = none ∧ unsound.failure? 1 = some .timedOut ∧
      serve environments unsound unusedCard = (.broken .timedOut,
        { unsound with
          incoming := [.failed .connectionReset, .bytes versionFrame]
          written := [[0x90, 0x00]] }, unusedCard) := by
  intro sound unsound parts environments
  have sound_whole : sound.Sound := fun _ _ => rfl
  have sound_parts : ∀ part ∈ parts, part.written = [] ∧ part.Sound :=
    List.forall_mem_cons.mpr ⟨⟨rfl, fun _ _ => rfl⟩,
      List.forall_mem_singleton.mpr ⟨rfl, fun _ _ => rfl⟩⟩
  have cut : (parts.flatMap fun part => Stream.frames part.incoming) =
      Stream.frames sound.incoming := by
    show Stream.frames _ ++ (Stream.frames _ ++ []) = Stream.frames resetScript
    rw [frames_resetScript, Stream.frames_bytes (by decide) (by decide),
      Stream.frames_bytes (by decide) (by decide), Stream.frames, Stream.frames]
    rfl
  have played : Card.run (timed environments (Stream.frames resetScript)) unusedCard =
      (versionAnswers, unusedCard) := by
    rw [frames_resetScript, run_versionFrames]
  have refused : Card.run ((timed environments (Stream.frames resetScript)).take 2) unusedCard =
      (versionAnswers, unusedCard) := by
    rw [List.take_of_length_le (by rw [length_timed, frames_resetScript]; decide), played]
  have read : 1 < (Stream.frames unsound.incoming).length := by
    rw [show unsound.incoming = resetScript from rfl, frames_resetScript]
    decide
  have first : unsound.failure? 0 = none := rfl
  have second : unsound.failure? 1 = some .timedOut := rfl
  obtain ⟨served, -, together⟩ := (serve_folds_process environments sound unusedCard).1 sound_whole
  obtain ⟨answers, -⟩ := together rfl parts sound_parts cut
  obtain ⟨stopped, -⟩ := (serve_folds_process environments unsound unusedCard).2.2 1 .timedOut read
    (fun n earlier => by rw [Nat.lt_one_iff.mp earlier]; exact first) second
  have whole : serve environments sound unusedCard = (.broken .connectionReset,
      { sound with incoming := [.bytes versionFrame], written := versionAnswers }, unusedCard) := by
    rw [served, show sound.incoming = resetScript from rfl, played]
    rfl
  refine ⟨sound_whole, whole, sound_parts, ?_, first, second, ?_⟩
  · rw [answers, whole]
  · rw [stopped, show unsound.incoming = resetScript from rfl, refused, played]
    simp only [resetScript, Stream.afterFrames, Stream.afterFrame, Stream.leftover]
    rfl

end PgpCard
